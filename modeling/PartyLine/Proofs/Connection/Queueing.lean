import PartyLine.Proofs.Connection.History

/-!
# When frames can be queued

The actor of a connection has its end of the queue from the beginning of an attempt with a
transport to the end of the connection, however far the task may be ahead of it. So the end is
there whenever the connection is open, and whenever the task asks the queue.

* `Queueing`: when the actor can queue frames, and what there is not without a transport;
* `Queueing.step`: every small step leaves it so.
-/

namespace PartyLine

/-- Nothing but the opening leads to the open state from another one. -/
theorem ConnectionState.of_after?_eq_opened {s : ConnectionState} {e : ConnectionEvent}
    (h : s.after? e = some .opened) : e = .opened ∨ s = .opened := by
  cases s <;> cases e <;> simp_all [after?, next]

namespace Connection

/-- A task that is running has begun. -/
theorem Task.ne_unstarted {t : Task} (h : t.isRunning) : t ≠ .unstarted := by
  rintro rfl
  cases h

/-- A task that has begun and is not running is over. -/
theorem Task.eq_finished {t : Task} (hne : t ≠ .unstarted) (h : t.isRunning = false) :
    t = .finished := by
  cases t with
  | finished => rfl
  | unstarted => exact absurd rfl hne
  | connecting | serving | disconnecting => cases h

variable {c c' : Connection} {a : Action} {reads : List Received}
  {events es : List ConnectionEvent}

/-- The actor can queue frames from the beginning of an attempt with a transport to the end of the
    connection. Without a transport no task is running, and none opens the connection. -/
structure Queueing (c : Connection) : Prop where
  canQueue : c.canQueue = (c.fault.isNone && c.task != .unstarted && !c.state.isTerminal)
  fault : c.task.isRunning ∨ .connected ∈ c.inbox ∨ c.state = .opened → c.fault = none

/-- A new connection has no queue. -/
theorem queueing_init (params : ConnectParams) (fault : Option TransportError) :
    Queueing { params, fault } where
  canQueue := by cases fault <;> rfl
  fault h := by simp [Task.isRunning] at h

/-- Requests to write change nothing about it. -/
theorem Queueing.post_send (h : Queueing c) (f : String) : Queueing (c.post (.send f)) where
  canQueue := h.canQueue
  fault hc := h.fault (by simpa [post] using hc)

/-- While the task is running, the actor can queue until the end. -/
theorem Queueing.of_isRunning (h : Queueing c) (ht : c.task.isRunning) :
    c.fault = none ∧ c.canQueue = !c.state.isTerminal := by
  have hfault := h.fault (.inl ht)
  exact ⟨hfault, by simp [h.canQueue, hfault, Task.ne_unstarted ht]⟩

/-- While the connection is open, the actor can queue, whatever has become of the task. -/
theorem Queueing.of_opened (h : Queueing c) (hcourse : Course c reads events)
    (hs : c.state = .opened) : c.task ≠ .unstarted ∧ c.canQueue := by
  have hne : c.task ≠ .unstarted := fun ht => by
    rw [hcourse.idle ht] at hs
    cases hs
  exact ⟨hne, by simp [h.canQueue, h.fault (.inr (.inr hs)), hne, hs, ConnectionState.isTerminal]⟩

/-- Once the connection has ended, the actor cannot queue. -/
theorem Queueing.canQueue_of_isTerminal (h : Queueing c) (hs : c.state.isTerminal) :
    c.canQueue = false := by
  simp [h.canQueue, hs]

/-- What a task does while it is running leaves the actor what it has, unless the actor stops. -/
theorem Queueing.of_running (h : Queueing c) (ht : c.task.isRunning) (hfault : c'.fault = c.fault)
    (ht' : c'.task ≠ .unstarted) (hs : c'.state = c.state)
    (hq : c'.canQueue = (c.canQueue && !c.state.isTerminal)) : Queueing c' := by
  obtain ⟨hnone, hcan⟩ := h.of_isRunning ht
  rw [hnone] at hfault
  exact ⟨by simp [hq, hcan, hfault, ht', hs], fun _ => hfault⟩

theorem canQueue_finish (c : Connection) :
    c.finish.canQueue = (c.canQueue && !c.state.isTerminal) := by
  cases hterminal : c.state.isTerminal <;> simp [Connection.finish, hterminal, stop]

theorem Queueing.finish (h : Queueing c) (ht : c.task.isRunning) : Queueing c.finish := by
  obtain ⟨canQueue, stopped, hf⟩ := finish_eq c
  have hq := canQueue_finish c
  rw [hf] at hq ⊢
  exact h.of_running ht rfl (by simp) rfl hq

/-- The actor loses its end of the queue with the last event that it reports. -/
theorem Queueing.handle {m : Message} {rest : List Message} (h : Queueing c)
    (hcourse : Course c reads events) (hi : c.inbox = m :: rest) :
    Queueing ({ c with inbox := rest }.handle m).1 := by
  have hmem (hc : .connected ∈ rest) : .connected ∈ c.inbox := by
    rw [hi]
    exact List.mem_cons_of_mem _ hc
  cases hm : m.event? with
  | none =>
    cases m with
    | send f =>
      obtain ⟨queue, hq, -⟩ := handle_send { c with inbox := rest } f
      rw [hq]
      exact ⟨h.canQueue, fun hc => h.fault (hc.imp_right (.imp_left hmem))⟩
    | connected | received f | failed e | ended => cases hm
  | some e =>
    obtain ⟨-, s, stopped, hs, hh⟩ := hcourse.handle_event hi hm
    rw [hh]
    refine ⟨by simp [h.canQueue, ConnectionState.isTerminal_of_after? hs], fun hc => h.fault ?_⟩
    rcases hc with ht | hc | hc
    · exact .inl ht
    · exact .inr (.inl (hmem hc))
    · -- a connection that opens now has just taken the message of it
      obtain rfl : s = .opened := hc
      rcases ConnectionState.of_after?_eq_opened hs with rfl | hopen
      · obtain rfl : m = .connected := by cases m <;> cases hm; rfl
        exact .inr (.inl (by simp [hi]))
      · exact .inr (.inr hopen)

/-- Every small step leaves it so. -/
theorem Queueing.step (h : Queueing c) (hcourse : Course c reads events) (hs : Step c a c' es) :
    Queueing c' := by
  -- what is true of the queue while the task is running, told in the way of `finish`
  have kept {t : Task} (ht : c.task = t) (hrunning : t.isRunning) : c.task.isRunning ∧
      c.canQueue = (c.canQueue && !c.state.isTerminal) := by
    rw [← ht] at hrunning
    exact ⟨hrunning, by rw [(h.of_isRunning hrunning).2, Bool.and_self]⟩
  cases hs with
  | handle hi => exact h.handle hcourse hi
  | start ht =>
    rw [start_eq (hcourse.idle ht)]
    cases hfault : c.fault with
    | none => exact ⟨by simp [ConnectionState.isTerminal], fun _ => rfl⟩
    | some e =>
      refine ⟨by simp [post, h.canQueue, hfault], fun hc => ?_⟩
      have hinbox : .connected ∈ c.inbox := by simpa [post, Task.isRunning] using hc
      rw [h.fault (.inr (.inl hinbox))] at hfault
      cases hfault
  | connected ht =>
    obtain ⟨hrunning, hq⟩ := kept ht rfl
    exact h.of_running hrunning rfl (by simp [post]) rfl hq
  | refused ht | connectExpired ht =>
    obtain ⟨hrunning, hq⟩ := kept ht rfl
    have hposted (e : TransportError) : Queueing (c.post (.failed e)) :=
      h.of_running hrunning rfl (by simp [post, ht]) rfl hq
    exact (hposted _).finish hrunning
  | wrote ht =>
    obtain ⟨hrunning, hq⟩ := kept ht rfl
    exact h.of_running hrunning rfl (by simp [ht]) rfl hq
  | unwritten ht | queueClosed ht =>
    obtain ⟨hrunning, hq⟩ := kept ht rfl
    exact h.of_running hrunning rfl (by simp [leave]) rfl hq
  | @received _ x ht =>
    obtain ⟨hrunning, hq⟩ := kept ht rfl
    cases x <;> exact h.of_running hrunning rfl (by simp [take, leave, post, ht]) rfl hq
  | disconnected ht => exact h.finish (kept ht rfl).1

/-- So it is all the life of a connection. -/
theorem Lived.queueing {params : ConnectParams} {fault : Option TransportError} {r : History}
    (h : Lived params fault c r) : Queueing c := by
  induction h with
  | new => exact queueing_init params fault
  | act hlived hs ih => exact ih.step hlived.kept.2.course (step_of_step? hs)
  | ask f _ ih => exact ih.post_send f

end Connection

end PartyLine
