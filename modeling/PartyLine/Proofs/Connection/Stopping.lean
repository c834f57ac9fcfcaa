import PartyLine.Proofs.Connection.History
import PartyLine.Proofs.Connection.Outgoing

/-!
# Stopping

The actor of a connection stops when two things have happened, in whichever order: it has
come to a terminal state, and its task has ended. Each of the two lines that stop it asks
whether the other has been there before. So that it stops at all, the task must not end
without a word, and so that it does not stop early, the task must not be cut off while it is
still disconnecting.

The first is a matter of what the task posts. As it leaves its loop, and not before, it posts one
message of the end; handling that message makes the state terminal, so that with nothing
left to handle the word has come through. The second is a matter of how the task came to its
end. Its progress is read off the actions so far: for want of a transport there is no task,
connecting may fail or take too long, and once it was connected only disconnecting ends it, by
itself or by its own deadline (`Progress`, `Concluded`).

* `Ran`: the runs of a new connection, with its actions and what its task has posted;
* `Halted`: the actor has stopped exactly when both things have happened;
* `Concluded`, `Progress`: what the actions so far say of the task and its end;
* `stops_after_task`: one word of the end from every task, and the actor stopped after it.
-/

namespace PartyLine

namespace Connection

/-! ## Runs -/

/-- Whether a message tells the actor of an end. -/
def Message.isTerminal : Message → Bool
  | failed _ | ended => true
  | _ => false

/-- What is posted to the actor by an action that leads to a connection. -/
def posting (c c' : Connection) : Action → List Message
  | .handle => []
  | _ => c'.inbox.drop c.inbox.length

/-- The runs of a new connection: its actions, and what they have posted to its actor. -/
inductive Ran (params : ConnectParams) (fault : Option TransportError) :
    List Action → List Message → Connection → Prop
  | new : Ran params fault [] [] { params, fault }
  | act {as : List Action} {posted : List Message} {c c' : Connection} {a : Action}
      {es : List ConnectionEvent} : Ran params fault as posted c → c.step? a = some (c', es) →
      Ran params fault (as ++ [a]) (posted ++ c.posting c' a) c'
  /-- The owner asks to write a frame. -/
  | ask {as : List Action} {posted : List Message} {c : Connection} (f : String) :
      Ran params fault as posted c → Ran params fault as posted (c.post (.send f))

variable {c c' : Connection} {a : Action} {reads : List Received}
  {events es : List ConnectionEvent}

/-! ## What is posted -/

/-- All but the handling of a message posts what comes behind those that wait. -/
theorem posting_eq {ms : List Message} (ha : a ≠ .handle) (hms : c'.inbox = c.inbox ++ ms) :
    c.posting c' a = ms := by
  cases a with
  | handle => exact absurd rfl ha
  | _ => simp [posting, hms]

/-- What is posted goes on with the story. -/
theorem Step.unreported_eq (h : Course c reads events) (hs : Step c a c' es) :
    es ++ c'.unreported = c.unreported ++ (c.posting c' a).filterMap Message.event? := by
  by_cases ha : a = .handle
  · subst ha
    cases hs with
    | handle hi =>
      rw [posting, List.filterMap_nil, List.append_nil]
      exact (h.handled hi rfl).1
    | disconnected _ ha => simp at ha
  · obtain ⟨rfl, ms, hms, -⟩ := hs.inbox_eq h ha
    rw [posting_eq ha hms, unreported, hms, List.filterMap_append]
    rfl

/-- Nothing that is posted asks to write. -/
theorem Step.filterMap_posting (h : Course c reads events) (hs : Step c a c' es) :
    (c.posting c' a).filterMap Message.request? = [] := by
  by_cases ha : a = .handle
  · rw [ha]
    rfl
  · obtain ⟨-, ms, hms, hnone⟩ := hs.inbox_eq h ha
    rw [posting_eq ha hms, hnone]

/-- An end is told to the actor by the messages that make it report one. -/
theorem countP_isTerminal (ms : List Message) : ms.countP (·.isTerminal) =
    (ms.filterMap Message.event?).countP (·.end?.isSome) := by
  rw [List.countP_filterMap]
  exact congrArg (ms.countP ·) (funext fun m => by cases m <;> rfl)

/-- There is one end in a story, once the task has left its loop. -/
theorem Story.countP_end {t : Task} (h : Story t reads es) :
    es.countP (·.end?.isSome) = if t.isOver then 1 else 0 := by
  have frames (fs : List String) :
      (fs.map ConnectionEvent.frame).countP (·.end?.isSome) = 0 := by
    simp [List.countP_eq_zero, ConnectionEvent.end?]
  cases h with
  | unstarted | connecting | unconnected => rfl
  | serving fs => exact (List.countP_cons_of_neg (by simp [ConnectionEvent.end?])).trans (frames fs)
  | @past _ fs _ _ hover hend =>
    rw [if_pos hover, List.countP_cons, List.countP_append, frames]
    cases hend <;> rfl

/-- Once the task is over and the end is reported, the state is terminal. -/
theorem Course.isTerminal_of_isOver (h : Course c reads events) (hover : c.task.isOver)
    (hquiet : c.unreported = []) : c.state.isTerminal := by
  have hcount := h.story.countP_end
  rw [hquiet, List.append_nil, if_pos hover] at hcount
  obtain ⟨x, hx, hend⟩ := List.countP_pos_iff.1 (Nat.lt_of_lt_of_eq Nat.one_pos hcount.symm)
  obtain ⟨t, ht⟩ := Option.isSome_iff_exists.1 hend
  rw [(Channel.state_of_endOf h ((endOf_eq_some_iff h).2 ⟨x, hx, ht⟩)).1]
  cases t <;> rfl

/-- In a terminal state all is reported. -/
theorem Course.unreported_eq_nil (h : Course c reads events) (hterminal : c.state.isTerminal) :
    c.unreported = [] := by
  cases hwaits : c.unreported with
  | nil => rfl
  | cons e rest =>
    have hover : c.task.isOver := by
      by_contra hlive
      rw [h.isTerminal_eq_false (by simpa using hlive)] at hterminal
      cases hterminal
    have hstory := h.story
    rw [hwaits] at hstory
    obtain ⟨s', hs'⟩ :=
      hstory.next_reportable (h.reported fun ht => by rw [ht] at hover; cases hover)
    rw [ConnectionState.isTerminal_of_after? hs'] at hterminal
    cases hterminal

/-! ## Stopping -/

/-- The actor has stopped exactly when its task has ended and its state is terminal. -/
def Halted (c : Connection) : Prop :=
  c.stopped ↔ c.task = .finished ∧ c.state.isTerminal

/-- Whoever goes on has not stopped. -/
theorem Halted.stopped_eq_false (h : Halted c)
    (hlive : c.task ≠ .finished ∨ c.state.isTerminal = false) : c.stopped = false := by
  cases hs : c.stopped with
  | false => rfl
  | true =>
    obtain ⟨htask, hstate⟩ := h.1 hs
    simp [htask, hstate] at hlive

/-- A change of state stops the actor if its task has ended before. -/
theorem Halted.transition (h : Halted c) (signal : Signal) (report : List ConnectionEvent) :
    Halted (c.transition signal report).1 := by
  unfold Connection.transition
  split
  · exact h
  · next next hnext =>
    have hlive : c.state.isTerminal = false := by
      by_contra hterminal
      rw [ConnectionState.next_of_isTerminal (by simpa using hterminal)] at hnext
      cases hnext
    have hstopped := h.stopped_eq_false (.inr hlive)
    dsimp only
    split
    · next hterminal =>
      split
      · next hrunning =>
        simp only [Halted, hstopped]
        have : c.task ≠ .finished := by rintro heq; simp [heq, Task.isRunning] at hrunning
        simp [this]
      · simp [Halted, stop, hterminal]
    · next hterminal => simp [Halted, hstopped, hterminal]

/-- The end of the task stops the actor if its state is terminal. -/
theorem Halted.finish (h : Halted c) (ht : c.task ≠ .finished) : Halted c.finish := by
  have hstopped := h.stopped_eq_false (.inl ht)
  unfold Connection.finish
  dsimp only
  split
  · next hterminal => simp [Halted, stop, hterminal]
  · next hterminal => simp [Halted, hstopped, hterminal]

theorem Halted.handle (h : Halted c) (m : Message) : Halted (c.handle m).1 := by
  cases m with
  | connected | failed | ended => exact h.transition _ _
  | received => exact h
  | send f =>
    obtain ⟨queue, hq, -⟩ := handle_send c f
    rw [hq]
    exact h

/-- While its task goes on, the actor does not stop. -/
theorem Halted.of_running (h : Halted c) (ht : c.task ≠ .finished) (ht' : c'.task ≠ .finished)
    (hstopped : c'.stopped = c.stopped) : Halted c' := by
  simp [Halted, hstopped, h.stopped_eq_false (.inl ht), ht']

theorem Halted.step (h : Halted c) (hcourse : Course c reads events) (hs : Step c a c' es) :
    Halted c' := by
  cases hs with
  | @handle m rest => exact Halted.handle (c := { c with inbox := rest }) h m
  | start ht hstopped =>
    rw [start_eq (hcourse.idle ht)]
    cases c.fault with
    | none => simp [Halted, hstopped]
    | some e => simp [Halted, post, hstopped, ConnectionState.isTerminal]
  | connected ht => exact h.of_running (by simp [ht]) (by simp [post]) rfl
  | refused ht | connectExpired ht => exact Halted.finish (c := c.post _) h (by simp [post, ht])
  | wrote ht => exact h.of_running (by simp [ht]) (by simp [ht]) rfl
  | unwritten ht | queueClosed ht => exact h.of_running (by simp [ht]) (by simp [leave]) rfl
  | @received _ x ht =>
    cases x <;> exact h.of_running (by simp [ht]) (by simp [take, leave, post, ht]) rfl
  | disconnected ht => exact h.finish (by simp [ht])

/-! ## The end of the task -/

/-- When an action leaves the loop of the task for the disconnecting, if it does. -/
def Action.leaving? : Action → Option Nat
  | wrote now (some _) | received now (.failed _) | received now .ended => some now
  | _ => none

/-- How a task has come to its end by some actions, or why there is none. -/
inductive Concluded (fault : Option TransportError) (timeout : Nat) (as : List Action) : Prop
  /-- There was no transport. -/
  | missing : fault.isSome → .connected none ∉ as → Concluded fault timeout as
  /-- Connecting has failed, or taken too long. -/
  | unconnected {a : Action} : a ∈ as →
      (∃ e, a = .connected (some e)) ∨ (∃ now, a = .connectExpired now) →
      .connected none ∉ as → Concluded fault timeout as
  /-- After its loop, disconnecting has ended, or taken too long. -/
  | disconnected {before mid after : List Action} {a b : Action} {now : Nat} :
      as = before ++ a :: mid ++ b :: after → .connected none ∈ before → a.leaving? = some now →
      b = .disconnected ∨ (∃ later, b = .disconnectExpired later ∧ now + timeout ≤ later) →
      Concluded fault timeout as

/-- How far the actions have brought the task. -/
inductive Progress (fault : Option TransportError) (timeout : Nat) (as : List Action) :
    Task → Prop
  | unstarted : .connected none ∉ as → Progress fault timeout as .unstarted
  | connecting {d : Nat} : .connected none ∉ as → Progress fault timeout as (.connecting d)
  | serving : .connected none ∈ as → Progress fault timeout as .serving
  | disconnecting {before mid : List Action} {a : Action} {now : Nat} :
      as = before ++ a :: mid → .connected none ∈ before → a.leaving? = some now →
      Progress fault timeout as (.disconnecting (now + timeout))
  | finished : Concluded fault timeout as → Progress fault timeout as .finished

variable {fault : Option TransportError} {timeout : Nat} {as : List Action}

/-- The end of a task is not undone. -/
theorem Concluded.append (h : Concluded fault timeout as) (ha : a ≠ .connected none) :
    Concluded fault timeout (as ++ [a]) := by
  cases h with
  | missing hfault has => exact .missing hfault (by simp [has, ha.symm])
  | unconnected hmem hkind has =>
    exact .unconnected (List.mem_append_left _ hmem) hkind (by simp [has, ha.symm])
  | @disconnected before mid after a' b now heq hconnected hleaving hend =>
    have heq' : as ++ [a] = before ++ a' :: mid ++ b :: (after ++ [a]) := by simp [heq]
    exact .disconnected heq' hconnected hleaving hend

/-- The task stays where it is by actions of the actor. -/
theorem Progress.handle {t : Task} (h : Progress fault timeout as t) :
    Progress fault timeout (as ++ [.handle]) t := by
  cases h with
  | unstarted has => exact .unstarted (by simp [has])
  | connecting has => exact .connecting (by simp [has])
  | serving has => exact .serving (by simp [has])
  | @disconnecting before mid a now heq hconnected hleaving =>
    have heq' : as ++ [.handle] = before ++ a :: (mid ++ [.handle]) := by simp [heq]
    exact .disconnecting heq' hconnected hleaving
  | finished h => exact .finished (h.append (by simp))

theorem Progress.serve (h : Progress fault timeout as .serving) :
    Progress fault timeout (as ++ [a]) .serving := by
  cases h with
  | serving has => exact .serving (List.mem_append_left _ has)

/-- Connecting that fails or takes too long is the end. -/
theorem Progress.giveUp {d : Nat} (h : Progress fault timeout as (.connecting d))
    (ha : (∃ e, a = .connected (some e)) ∨ ∃ now, a = .connectExpired now) :
    Progress fault timeout (as ++ [a]) .finished := by
  cases h with
  | connecting has =>
    have hmem : a ∈ as ++ [a] := List.mem_append_right _ List.mem_cons_self
    refine .finished (.unconnected hmem ha ?_)
    rcases ha with ⟨e, rfl⟩ | ⟨now, rfl⟩ <;> simp [has]

theorem Progress.leave {now : Nat} (h : Progress fault timeout as .serving)
    (hleaving : a.leaving? = some now) :
    Progress fault timeout (as ++ [a]) (.disconnecting (now + timeout)) := by
  cases h with
  | serving has => exact .disconnecting (show as ++ [a] = as ++ a :: [] from rfl) has hleaving

/-- Disconnecting ends by itself or takes too long. -/
theorem Progress.disconnect {d : Nat} (h : Progress fault timeout as (.disconnecting d))
    (ha : a = .disconnected ∨ ∃ now, d ≤ now ∧ a = .disconnectExpired now) :
    Progress fault timeout (as ++ [a]) .finished := by
  cases h with
  | @disconnecting before mid a' now heq hconnected hleaving =>
    have heq' : as ++ [a] = before ++ a' :: mid ++ a :: [] := by rw [heq]
    refine .finished (.disconnected heq' hconnected hleaving ?_)
    rcases ha with rfl | ⟨later, hlater, rfl⟩
    · exact .inl rfl
    · exact .inr ⟨later, rfl, hlater⟩

theorem task_finish (c : Connection) : c.finish.task = .finished := by
  obtain ⟨canQueue, stopped, hf⟩ := finish_eq c
  rw [hf]

/-- Every step goes on from there. -/
theorem Progress.step (h : Progress c.fault c.params.connectTimeout as c.task)
    (hcourse : Course c reads events) (hs : Step c a c' es) :
    Progress c'.fault c'.params.connectTimeout (as ++ [a]) c'.task := by
  rw [(hs.frame hcourse).1, hs.lasting.1]
  cases hs with
  | @handle m rest hi =>
    rw [(hcourse.handled hi rfl).2.2.1]
    exact h.handle
  | start ht =>
    rw [ht] at h
    rw [start_eq (hcourse.idle ht)]
    cases h with
    | unstarted has =>
      cases hfault : c.fault with
      | none => exact .connecting (by simp [has])
      | some e => exact .finished (.missing rfl (by simp [has]))
  | connected => exact .serving (by simp)
  | refused ht =>
    rw [task_finish]
    exact (ht ▸ h).giveUp (.inl ⟨_, rfl⟩)
  | connectExpired ht =>
    rw [task_finish]
    exact (ht ▸ h).giveUp (.inr ⟨_, rfl⟩)
  | wrote ht =>
    rw [ht] at h
    rw [show ({ c with queue := _ } : Connection).task = .serving from ht]
    exact h.serve
  | unwritten ht => exact (ht ▸ h).leave rfl
  | queueClosed ht hq =>
    -- only an end closes the queue, and none has been reported
    simp [hcourse.serving ht] at hq
  | @received now x ht =>
    rw [ht] at h
    cases x with
    | frame f =>
      show Progress _ _ _ c.task
      rw [ht]
      exact h.serve
    | failed e | ended => exact h.leave rfl
  | disconnected ht ha =>
    rw [task_finish]
    exact (ht ▸ h).disconnect ha

/-! ## Runs to the end -/

/-- What goes with a run: its course, what was posted, whether the actor has stopped, and how far
    its task has come. -/
structure Ran.Kept (params : ConnectParams) (fault : Option TransportError) (as : List Action)
    (posted : List Message) (c : Connection) : Prop where
  params : c.params = params
  fault : c.fault = fault
  course : ∃ reads events, Course c reads events ∧
    posted.filterMap Message.event? = events ++ c.unreported
  halted : Halted c
  progress : Progress c.fault c.params.connectTimeout as c.task

variable {params : ConnectParams} {posted : List Message}

theorem Ran.kept (h : Ran params fault as posted c) : Ran.Kept params fault as posted c := by
  induction h with
  | new =>
    refine ⟨rfl, rfl, ⟨[], [], course_init params fault, rfl⟩, ?_, .unstarted (by simp)⟩
    simp [Halted]
  | @act as posted c c' a es _ hs ih =>
    have hstep := step_of_step? hs
    obtain ⟨reads, events, hcourse, hposted⟩ := ih.course
    refine ⟨hstep.lasting.1.trans ih.params, (hstep.frame hcourse).1.trans ih.fault,
      ⟨_, _, hcourse.step hstep, ?_⟩, ih.halted.step hcourse hstep, ih.progress.step hcourse hstep⟩
    rw [List.filterMap_append, hposted, List.append_assoc, List.append_assoc,
      hstep.unreported_eq hcourse]
  | ask f _ ih =>
    obtain ⟨reads, events, hcourse, hposted⟩ := ih.course
    refine ⟨ih.params, ih.fault, ⟨reads, events, hcourse.post_send f, ?_⟩, ih.halted, ih.progress⟩
    rw [unreported_post, hposted]
    exact (List.append_nil _).symm

/-- A connection never dies in silence and never stops early, whatever its transport does and
    in whatever order its actor and its task go on. From every task that has left its loop, and
    from none before, the actor has got one message of the end; once the task has ended and
    nothing it has posted waits, the state is terminal and the actor has stopped; it stops in a
    terminal state only, after the end of its task; and a task has its end from a missing
    transport, from connecting or, if it was connected, from disconnecting, for which it waits as
    long as it may take. -/
theorem stops_after_task (h : Ran params fault as posted c) :
    posted.countP (·.isTerminal) = (if c.task.isOver then 1 else 0) ∧
    (c.task = .finished → c.unreported = [] → c.state.isTerminal ∧ c.stopped) ∧
    (c.stopped → c.state.isTerminal ∧ c.task = .finished) ∧
    (c.task = .finished → Concluded fault params.connectTimeout as) := by
  obtain ⟨rfl, rfl, ⟨reads, events, hcourse, hposted⟩, hhalted, hprogress⟩ := h.kept
  refine ⟨?_, fun ht hquiet => ?_, fun hstopped => (hhalted.1 hstopped).symm, fun ht => ?_⟩
  · rw [countP_isTerminal, hposted]
    exact hcourse.story.countP_end
  · have hterminal := hcourse.isTerminal_of_isOver (by rw [ht]; rfl) hquiet
    exact ⟨hterminal, hhalted.2 ⟨ht, hterminal⟩⟩
  · rw [ht] at hprogress
    cases hprogress with
    | finished hconcluded => exact hconcluded

/-- The remote end closes, the actor learns of it while its task is still disconnecting, and
    that takes as long as it may. -/
theorem stops_after_task_expired : ∃ posted c,
    Ran { url := "ws://host", connectTimeout := 5 } none [.start 0, .connected none, .handle,
      .received 3 .ended, .handle, .disconnectExpired 8] posted c ∧
    posted.countP (·.isTerminal) = 1 ∧ c.state.isTerminal ∧ c.stopped ∧
    Concluded none 5 [.start 0, .connected none, .handle, .received 3 .ended, .handle,
      .disconnectExpired 8] := by
  have hnew : Ran { url := "ws://host", connectTimeout := 5 } none [] [] _ := .new
  have hstarted := hnew.act (a := .start 0) rfl
  have hserving := hstarted.act (a := .connected none) rfl
  have hopened := hserving.act (a := .handle) rfl
  have hleaving := hopened.act (a := .received 3 .ended) rfl
  have hclosed := hleaving.act (a := .handle) rfl
  have hexpired := hclosed.act (a := .disconnectExpired 8) rfl
  obtain ⟨hcount, hstops, -, hconcluded⟩ := stops_after_task hexpired
  exact ⟨_, _, hexpired, hcount, (hstops rfl rfl).1, (hstops rfl rfl).2, hconcluded rfl⟩

end Connection

end PartyLine
