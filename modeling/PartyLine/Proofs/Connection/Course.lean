import Mathlib.Data.List.Basic
import PartyLine.Proofs.Connection.Story

/-!
# The course of a connection

What a connection has reported, followed by what the messages in its inbox will
make it report, is its story so far. The state of the actor lags behind the task,
but it is always the state that the events reported so far lead to; so no message of
the task is ever refused, and none is lost.

So the state need not be tracked through the messages: it is a function of what has been reported,
and what is reported next is what the next message says. A step of the task adds a message, and with
it at most one event to the story; a step of the actor moves one event from what is unreported to
what is reported. That the story stays one, whatever the transport answers, is a matter of the
task alone, which posts nothing after its end and no frame before its opening.

* `Course`: a connection, its readings and its events fit one story;
* `Course.step`: every small step keeps the course;
* `Course.isOver`: once the task has left its loop, nothing more is written.
-/

namespace PartyLine

namespace Connection

/-- What a message makes the actor report, unless its state refuses it. -/
def Message.event? : Message → Option ConnectionEvent
  | connected => some .opened
  | received f => some (.frame f)
  | failed e => some (.failed e)
  | ended => some .closed
  | send _ => none

/-- What the messages in the inbox are to report. -/
def unreported (c : Connection) : List ConnectionEvent := c.inbox.filterMap Message.event?

/-- The handling of a message that is to report something: it is reported, and the
    state goes with it. -/
theorem handle_of_event {c : Connection} {m : Message} {e : ConnectionEvent} {s : ConnectionState}
    (hm : m.event? = some e) (ht : c.task ≠ .unstarted) (hs : c.state.after? e = some s) :
    ∃ stopped, c.handle m =
      ({ c with state := s, canQueue := c.canQueue && !s.isTerminal, stopped }, [e]) := by
  have transition (signal : Signal) (hs : c.state.next signal = some s) : ∃ stopped,
      c.transition signal [e] =
        ({ c with state := s, canQueue := c.canQueue && !s.isTerminal, stopped }, [e]) := by
    cases hterminal : s.isTerminal
    · exact ⟨c.stopped, by simp [Connection.transition, hs, hterminal]⟩
    cases hrunning : c.task.isRunning
    · -- the actor is behind: its task has finished before
      have hfinished : c.task = .finished := by
        cases hc : c.task <;> simp_all [Task.isRunning]
      exact ⟨true, by
        simp [Connection.transition, hs, hterminal, Task.isRunning, stop, hfinished]⟩
    · exact ⟨c.stopped, by simp [Connection.transition, hs, hterminal, hrunning]⟩
  cases m with
  | connected => cases hm; exact transition .opened hs
  | failed e => cases hm; exact transition .failed hs
  | ended => cases hm; exact transition .closed hs
  | received f =>
    cases hm
    simp only [ConnectionState.after?, Option.ite_none_right_eq_some, Option.some.injEq] at hs
    obtain ⟨hopen, rfl⟩ := hs
    have : c.state.isTerminal = false := by
      cases hc : c.state <;> simp_all [ConnectionState.isOpen, ConnectionState.isTerminal]
    exact ⟨c.stopped, by simp [Connection.handle, hopen, this]⟩
  | send f => cases hm

/-- The handling of a request to write: at most it is queued. -/
theorem handle_send (c : Connection) (f : String) : ∃ queue,
    c.handle (.send f) = ({ c with queue }, []) ∧
      (queue = c.queue ∨ c.state = .opened ∧ queue = c.queue ++ [f]) ∧
      (c.state = .opened → c.canQueue → queue = c.queue ++ [f]) := by
  by_cases h : c.state.isOpen ∧ c.canQueue
  · refine ⟨c.queue ++ [f], by simp [Connection.handle, h], .inr ⟨?_, rfl⟩, fun _ _ => rfl⟩
    simpa [ConnectionState.isOpen] using h.1
  · refine ⟨c.queue, by simp [Connection.handle, h], .inl rfl, fun ho hc => absurd ⟨?_, hc⟩ h⟩
    simpa [ConnectionState.isOpen] using ho

/-- A connection that has read and reported so much is on course: its readings, its
    events and its inbox fit one story, and its state is the one reported. -/
structure Course (c : Connection) (reads : List Received) (events : List ConnectionEvent) :
    Prop where
  story : Story c.task reads (events ++ c.unreported)
  idle : c.task = .unstarted → c.state = .idle
  reported : c.task ≠ .unstarted →
    events.foldlM ConnectionState.after? .connecting = some c.state
  canQueue : c.task.isRunning → c.state.isTerminal = false → c.canQueue

variable {c c' : Connection} {reads : List Received} {events es : List ConnectionEvent}

/-- A new connection is on course. -/
theorem course_init (params : ConnectParams) (fault : Option TransportError) :
    Course { params, fault } [] [] where
  story := .unstarted
  idle _ := rfl
  reported h := absurd rfl h
  canQueue h := nomatch h

/-- Requests to write do not change the course. -/
theorem Course.post_send (h : Course c reads events) (f : String) :
    Course (c.post (.send f)) reads events where
  story := by simpa [unreported, post, List.filterMap_cons, Message.event?] using h.story
  idle := h.idle
  reported := h.reported
  canQueue := h.canQueue

/-- On course, the actor reports what a message is to report. -/
theorem Course.handle_event {m : Message} {rest : List Message} {e : ConnectionEvent}
    (h : Course c reads events) (hi : c.inbox = m :: rest) (hm : m.event? = some e) :
    c.task ≠ .unstarted ∧ ∃ s stopped, c.state.after? e = some s ∧
      { c with inbox := rest }.handle m = ({ c with
        inbox := rest, state := s, canQueue := c.canQueue && !s.isTerminal, stopped }, [e]) := by
  -- an unstarted task has posted nothing
  have ht : c.task ≠ .unstarted := fun ht => by
    have hes := (h.story.of_undecided (.inl ht)).2
    simp [unreported, hi, hm] at hes
  have story : Story c.task reads (events ++ e :: rest.filterMap Message.event?) := by
    simpa [unreported, hi, hm] using h.story
  obtain ⟨s, hs⟩ := story.next_reportable (h.reported ht)
  obtain ⟨stopped, hh⟩ := handle_of_event (c := { c with inbox := rest }) hm ht hs
  exact ⟨ht, s, stopped, hs, hh⟩

theorem Course.handle {m : Message} {rest : List Message} (h : Course c reads events)
    (hi : c.inbox = m :: rest) :
    Course ({ c with inbox := rest }.handle m).1 reads
      (events ++ ({ c with inbox := rest }.handle m).2) := by
  cases hm : m.event? with
  | none =>
    cases m with
    | send f =>
      obtain ⟨queue, hq, _⟩ := handle_send { c with inbox := rest } f
      rw [hq]
      exact ⟨by simpa [unreported, hi, List.filterMap_cons, Message.event?] using h.story, h.idle,
        by simpa using h.reported, h.canQueue⟩
    | connected | received f | failed e | ended => cases hm
  | some e =>
    obtain ⟨ht, s, stopped, hs, hh⟩ := h.handle_event hi hm
    rw [hh]
    refine ⟨by simpa [unreported, hi, hm] using h.story, fun ht' => absurd ht' ht, fun _ => ?_,
      fun hr ht' => ?_⟩
    · rw [List.foldlM_append, h.reported ht]
      simp [hs]
    · simp [h.canQueue hr (ConnectionState.isTerminal_of_after? hs), ht']

/-- A message posted by the task goes on with the story. -/
theorem unreported_post (c : Connection) (m : Message) (events : List ConnectionEvent) :
    events ++ (c.post m).unreported = events ++ c.unreported ++ m.event?.toList := by
  simp only [unreported, post, List.filterMap_append, List.append_assoc]
  cases m <;> rfl

/-- Starting a connection that is idle. -/
theorem start_eq (hs : c.state = .idle) (now : Nat) : c.start now = match c.fault with
    | some e => { c with state := .connecting, task := .finished }.post (.failed e)
    | none => { c with
        state := .connecting, task := .connecting (now + c.params.connectTimeout),
        canQueue := true } := by
  simp only [start, transition, hs, ConnectionState.next, ConnectionState.isTerminal]
  rfl

/-- The end of the task changes no more than this. -/
theorem finish_eq (c : Connection) : ∃ canQueue stopped,
    c.finish = { c with task := .finished, canQueue, stopped } := by
  cases h : c.state.isTerminal
  · exact ⟨c.canQueue, c.stopped, by simp [finish, h]⟩
  · exact ⟨false, true, by simp [finish, h, stop]⟩

/-- While the task is in its loop, no end has been reported. -/
theorem Course.serving (h : Course c reads events) (ht : c.task = .serving) :
    c.state.isTerminal = false ∧ c.canQueue := by
  have hstate : c.state.isTerminal = false := by
    obtain ⟨fs, _, hes⟩ := Story.of_serving (ht ▸ h.story)
    have hfs := foldlM_frames fs []
    rw [List.append_nil, ← foldlM_opened, ← hes, List.foldlM_append,
      h.reported (by simp [ht])] at hfs
    cases hc : c.state.isTerminal with
    | false => rfl
    | true =>
      rw [← (ConnectionState.eq_nil_of_isTerminal hc hfs).2] at hc
      cases hc
  exact ⟨hstate, h.canQueue (by rw [ht]; rfl) hstate⟩

/-- The attempt fails, and the task with it. -/
theorem Course.fail {d : Nat} (h : Course c reads events) (ht : c.task = .connecting d)
    (e : TransportError) : Course (c.post (.failed e)).finish reads events := by
  obtain ⟨rfl, hes⟩ := h.story.of_undecided (.inr ⟨d, ht⟩)
  obtain ⟨canQueue, stopped, hc⟩ := finish_eq (c.post (.failed e))
  rw [hc]
  refine ⟨?_, nofun, fun _ => h.reported (by simp [ht]), nofun⟩
  show Story .finished [] (events ++ (c.post (.failed e)).unreported)
  rw [unreported_post, hes]
  exact .unconnected

/-- The task leaves its loop with a message of the end. -/
theorem Course.leave {m : Message} {e : ConnectionEvent} {more : List Received} {fs : List String}
    (h : Course c reads events) (ht : c.task = .serving) (hfs : reads = fs.map .frame)
    (hm : m.event? = some e) (he : Ending fs (reads ++ more) e) (now : Nat) :
    Course ((c.post m).leave now) (reads ++ more) events := by
  -- the frames read are those of the story so far
  obtain ⟨fs', hfs', hes⟩ := Story.of_serving (ht ▸ h.story)
  have : fs = fs' := List.map_injective_iff.2 (fun _ _ => Received.frame.inj) (hfs ▸ hfs')
  subst this
  refine ⟨?_, nofun, fun _ => h.reported (by simp [ht]), fun _ => h.canQueue (by rw [ht]; rfl)⟩
  show Story (.disconnecting _) _ (events ++ (c.post m).unreported)
  rw [unreported_post, hes, hm]
  exact .past rfl he

/-- Every small step keeps the course. -/
theorem Course.step {a : Action} (h : Course c reads events) (hs : Step c a c' es) :
    Course c' (reads ++ a.reading) (events ++ es) := by
  have started {t : Task} (ht : c.task = t) (hne : t ≠ .unstarted) :=
    h.reported (ht ▸ hne)
  cases hs with
  | handle hi _ => simpa [Action.reading] using h.handle hi
  | start ht _ =>
    obtain ⟨rfl, hes⟩ := h.story.of_undecided (.inl ht)
    obtain ⟨rfl, _⟩ := List.append_eq_nil_iff.1 hes
    rw [start_eq (h.idle ht)]
    cases c.fault with
    | some e =>
      refine ⟨?_, nofun, fun _ => rfl, nofun⟩
      rw [unreported_post]
      show Story .finished [] ([] ++ c.unreported ++ [.failed e])
      rw [hes]
      exact .unconnected
    | none =>
      -- a task on its attempt has written nothing of its story yet
      refine ⟨?_, nofun, fun _ => rfl, fun _ _ => rfl⟩
      show Story (.connecting _) [] ([] ++ c.unreported)
      rw [hes]
      exact .connecting
  | connected ht =>
    obtain ⟨rfl, hes⟩ := h.story.of_undecided (.inr ⟨_, ht⟩)
    refine ⟨?_, nofun, fun _ => ?_, fun _ => h.canQueue (by rw [ht]; rfl)⟩
    · rw [unreported_post]
      show Story .serving [] (events ++ [] ++ c.unreported ++ [.opened])
      rw [List.append_nil, hes]
      exact .serving []
    · rw [List.append_nil]
      exact started ht nofun
  | refused ht => simpa [Action.reading] using h.fail ht _
  | connectExpired ht _ => simpa [Action.reading] using h.fail ht _
  | wrote ht _ => simpa [Action.reading] using ⟨h.story, h.idle, h.reported, h.canQueue⟩
  | @unwritten _ _ rest e ht _ =>
    have h' : Course { c with queue := rest } reads events :=
      ⟨h.story, h.idle, h.reported, h.canQueue⟩
    obtain ⟨fs, hfs, _⟩ := Story.of_serving (ht ▸ h.story)
    rw [List.append_nil]
    exact h'.leave ht hfs rfl (by simpa [hfs, Action.reading] using .unwritten e) _
  | queueClosed ht hc =>
    -- only an end closes the queue, and none has been reported
    simp [h.serving ht] at hc
  | @received _ x ht _ _ =>
    obtain ⟨fs, hfs, hes⟩ := Story.of_serving (ht ▸ h.story)
    rw [List.append_nil]
    cases x with
    | frame f =>
      refine ⟨?_, h.idle, h.reported, h.canQueue⟩
      show Story c.task _ (events ++ (c.post (.received f)).unreported)
      rw [unreported_post, hes, ht, hfs]
      simpa [Action.reading, Message.event?] using Story.serving (fs ++ [f])
    | failed e => exact h.leave ht hfs rfl (by simpa [hfs, Action.reading] using .unread e) _
    | ended => exact h.leave ht hfs rfl (by simpa [hfs, Action.reading] using .ended) _
  | @disconnected d a ht ha =>
    obtain ⟨canQueue, stopped, hc⟩ := finish_eq c
    rw [hc]
    have hreading : a.reading = [] := by
      rcases ha with rfl | ⟨now, -, rfl⟩ <;> rfl
    rw [hreading, List.append_nil, List.append_nil]
    exact ⟨(ht ▸ h.story).disconnected, nofun, fun _ => h.reported (by simp [ht]), nofun⟩

/-- Until the task is over, no end has been reported. -/
theorem Course.isTerminal_eq_false (h : Course c reads events) (ht : c.task.isOver = false) :
    c.state.isTerminal = false := by
  cases hc : c.task with
  | unstarted => rw [h.idle hc]; rfl
  | connecting d =>
    obtain ⟨-, hes⟩ := h.story.of_undecided (.inr ⟨d, hc⟩)
    obtain ⟨rfl, -⟩ := List.append_eq_nil_iff.1 hes
    have := h.reported (by simp [hc])
    rw [← Option.some.inj this]
    rfl
  | serving => exact (h.serving hc).1
  | disconnecting | finished => rw [hc] at ht; cases ht

/-- A connection that has been open has reported it. -/
theorem Course.events_ne_nil (h : Course c reads events) (hs : c.state = .opened) :
    events ≠ [] := by
  rintro rfl
  by_cases ht : c.task = .unstarted
  · rw [h.idle ht] at hs
    cases hs
  · rw [← Option.some.inj (h.reported ht)] at hs
    cases hs

/-- The state goes with what has been reported, once that is something. -/
theorem Course.reported_of_ne_nil (h : Course c reads events) (he : events ≠ []) :
    events.foldlM ConnectionState.after? .connecting = some c.state := by
  refine h.reported fun ht => he ?_
  obtain ⟨-, hes⟩ := h.story.of_undecided (.inl ht)
  exact (List.append_eq_nil_iff.1 hes).1

/-- A connection that has reported something is past its attempt. -/
theorem Course.not_early (h : Course c reads events) (he : events ≠ []) :
    ¬(c.state = .idle ∨ c.state = .connecting) := by
  have hs := h.reported_of_ne_nil he
  obtain ⟨es, e, rfl⟩ := (List.eq_nil_or_concat' events).resolve_left he
  rw [List.foldlM_append] at hs
  obtain ⟨s, -, hs⟩ := Option.bind_eq_some_iff.1 hs
  exact ConnectionState.not_early_of_after? (by simpa using hs)

/-- Once the task is over, it stays so, and nothing more is written. -/
theorem Course.isOver {a : Action} (hc : Course c reads events) (ht : c.task.isOver)
    (hs : Step c a c' es) : c.writing a = [] ∧ c'.task.isOver := by
  cases hs with
  | @handle m rest hi _ =>
    refine ⟨rfl, ?_⟩
    cases hm : m.event? with
    | none =>
      cases m with
      | send f =>
        obtain ⟨queue, hq, -⟩ := handle_send { c with inbox := rest } f
        rw [hq]
        exact ht
      | connected | received f | failed e | ended => cases hm
    | some e =>
      obtain ⟨-, s, stopped, -, hh⟩ := hc.handle_event hi hm
      rw [hh]
      exact ht
  | disconnected ht' ha =>
    obtain ⟨canQueue, stopped, hf⟩ := finish_eq c
    rw [hf]
    exact ⟨by rcases ha with rfl | ⟨now, -, rfl⟩ <;> rfl, rfl⟩
  | start ht' _ | connected ht' | refused ht' | connectExpired ht' hd | wrote ht' hq
  | unwritten ht' hq | queueClosed ht' hcq | received ht' hq hcq => rw [ht'] at ht; cases ht

end Connection

end PartyLine
