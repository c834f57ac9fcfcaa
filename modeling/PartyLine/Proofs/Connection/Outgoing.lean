import PartyLine.Proofs.Connection.Course

/-!
# What a connection writes

The frames that a connection is asked to write, once it is open, go from its inbox to
the queue of its task and from there to the transport. Until the task is over none of
them is lost on the way.

The three places are kept in one equation: what was asked for is what was written, then what is
queued, then what waits in the inbox, as long as the task is on. A request moves from the inbox to
the queue when the actor handles it, and from the queue to the transport when the task writes it.
Once the task is over the equation is given up, and what was written stays a beginning of what was
asked for.

* `Outgoing`: what a connection was asked to write, and what became of it;
* `Outgoing.step`: every small step keeps account of it;
* `Step.inbox_eq`: what is asked for is asked by the owner alone;
* `Step.load_le`: nothing is written that was not asked for, or twice.
-/

namespace PartyLine

namespace Connection

/-- The frame that a message asks to write. -/
def Message.request? : Message → Option String
  | send f => some f
  | _ => none

/-- The frames that the messages in the inbox ask to write. -/
def requested (c : Connection) : List String := c.inbox.filterMap Message.request?

variable {c c' : Connection} {reads : List Received} {events es : List ConnectionEvent}
  {asked written : List String}

/-- What a connection was asked to write, and what it has written with success: until
    its task is over, all it was asked is written, queued or still in the inbox; and
    nothing is asked for before it is open. -/
structure Outgoing (c : Connection) (asked written : List String) : Prop where
  written_prefix : written <+: asked
  accounted : c.task.isOver = false → written ++ c.queue ++ c.requested = asked
  early : c.state = .idle ∨ c.state = .connecting → asked = []

/-- A new connection is asked for nothing. -/
theorem outgoing_init (params : ConnectParams) (fault : Option TransportError) :
    Outgoing { params, fault } [] [] :=
  ⟨List.prefix_rfl, fun _ => rfl, fun _ => rfl⟩

@[simp] theorem requested_post (c : Connection) (m : Message) :
    (c.post m).requested = c.requested ++ m.request?.toList := by
  simp only [requested, post, List.filterMap_append]
  cases m <;> rfl

/-- Asking to write, once the connection has been open. -/
theorem Outgoing.post_send (h : Outgoing c asked written)
    (hs : ¬(c.state = .idle ∨ c.state = .connecting)) (f : String) :
    Outgoing (c.post (.send f)) (asked ++ [f]) written where
  written_prefix := h.written_prefix.trans (List.prefix_append _ _)
  accounted ht := by
    rw [requested_post, ← h.accounted ht]
    simp [Message.request?, post]
  early hs' := absurd hs' hs

/-- The actor passes on what it is asked to write, or refuses it when the task is over. -/
theorem Outgoing.handle {m : Message} {rest : List Message} (hc : Course c reads events)
    (h : Outgoing c asked written) (hi : c.inbox = m :: rest) :
    Outgoing ({ c with inbox := rest }.handle m).1 asked written := by
  cases hm : m.event? with
  | none =>
    cases m with
    | send f =>
      obtain ⟨queue, hq, -, hopen⟩ := handle_send { c with inbox := rest } f
      rw [hq]
      refine ⟨h.written_prefix, fun ht => ?_, h.early⟩
      have hterminal := hc.isTerminal_eq_false ht
      have hasked := h.accounted ht
      simp only [requested, hi, List.filterMap_cons, Message.request?] at hasked
      -- the frame was asked for, so the connection has been open and still is
      have hstate : c.state = .opened := by
        have hearly : ¬(c.state = .idle ∨ c.state = .connecting) := fun hs => by
          rw [h.early hs] at hasked
          simp at hasked
        cases hs : c.state <;> simp_all [ConnectionState.isTerminal]
      have hrunning : c.task.isRunning := by
        cases ht' : c.task with
        | unstarted => rw [hc.idle ht'] at hstate; cases hstate
        | finished => rw [ht'] at ht; cases ht
        | connecting | serving | disconnecting => rfl
      rw [hopen hstate (hc.canQueue hrunning hterminal), ← hasked]
      simp [requested]
    | connected | received f | failed e | ended => cases hm
  | some e =>
    obtain ⟨-, s, stopped, hs, hh⟩ := hc.handle_event hi hm
    rw [hh]
    refine ⟨h.written_prefix, fun ht => ?_,
      fun hs' => absurd hs' (ConnectionState.not_early_of_after? hs)⟩
    have hr : m.request? = none := by
      cases m with
      | send f => cases hm
      | connected | received f | failed e | ended => rfl
    simpa [requested, hi, hr] using h.accounted ht

/-- Every small step keeps account of what is written. -/
theorem Outgoing.step {a : Action} (hc : Course c reads events) (h : Outgoing c asked written)
    (hs : Step c a c' es) : Outgoing c' asked (written ++ c.writing a) := by
  cases hs with
  | handle hi _ => simpa [writing] using h.handle hc hi
  | start ht _ =>
    have hidle := hc.idle ht
    have hasked := h.early (.inl hidle)
    rw [start_eq hidle, show c.writing (.start _) = [] from rfl, List.append_nil]
    cases c.fault with
    | some e => exact ⟨h.written_prefix, by rintro ⟨⟩, fun _ => hasked⟩
    | none => exact ⟨h.written_prefix, fun _ => h.accounted (by rw [ht]; rfl), fun _ => hasked⟩
  | connected ht =>
    refine ⟨by simpa [writing] using h.written_prefix, fun _ => ?_, h.early⟩
    rw [requested_post]
    simpa [writing, post, requested, Message.request?] using h.accounted (by rw [ht]; rfl)
  | refused ht | connectExpired ht hd =>
    obtain ⟨canQueue, stopped, hf⟩ := finish_eq (c.post (.failed _))
    rw [hf]
    exact ⟨by simpa [writing] using h.written_prefix, by rintro ⟨⟩, h.early⟩
  | @wrote _ f rest ht hq =>
    have hasked := h.accounted (by rw [ht]; rfl)
    have hw (now : Nat) : c.writing (.wrote now none) = [f] := by simp [writing, hq]
    refine ⟨?_, fun _ => ?_, h.early⟩
    · rw [hw, ← hasked, hq]
      exact ⟨rest ++ c.requested, by simp⟩
    · rw [hw, ← hasked, hq]
      simp [requested]
  | unwritten ht hq => exact ⟨by simpa [writing] using h.written_prefix, by rintro ⟨⟩, h.early⟩
  | queueClosed ht hcq =>
    -- only an end closes the queue, and none has been reported
    simp [hc.serving ht] at hcq
  | @received _ x ht hq _ =>
    cases x with
    | frame f =>
      refine ⟨by simpa [writing] using h.written_prefix, fun _ => ?_, h.early⟩
      rw [show c.take _ (.frame f) = c.post (.received f) from rfl, requested_post]
      simpa [writing, post, Message.request?] using h.accounted (by rw [ht]; rfl)
    | failed e | ended => exact ⟨by simpa [writing] using h.written_prefix, by rintro ⟨⟩, h.early⟩
  | @disconnected d a ht ha =>
    obtain ⟨canQueue, stopped, hf⟩ := finish_eq c
    have hw : c.writing a = [] := by rcases ha with rfl | ⟨now, -, rfl⟩ <;> rfl
    rw [hf, hw, List.append_nil]
    exact ⟨h.written_prefix, by rintro ⟨⟩, h.early⟩

/-! ## What is still to be written -/

/-- Whether an action gives the transport a frame to write, with or without success. -/
def Action.isWrite : Action → Bool
  | wrote _ _ => true
  | _ => false

/-- All steps but those of the actor put messages behind those that wait, and none of these
    asks to write. -/
theorem Step.inbox_eq (h : Course c reads events) (hs : Step c a c' es) (ha : a ≠ .handle) :
    es = [] ∧ ∃ ms, c'.inbox = c.inbox ++ ms ∧ ms.filterMap Message.request? = [] := by
  have posted (m : Message) (hm : m.request? = none) : ∃ ms, c.inbox ++ [m] = c.inbox ++ ms ∧
      ms.filterMap Message.request? = [] := ⟨[m], rfl, by simp [hm]⟩
  have silent : ∃ ms, c.inbox = c.inbox ++ ms ∧ ms.filterMap Message.request? = [] :=
    ⟨[], (List.append_nil _).symm, rfl⟩
  cases hs with
  | handle => exact absurd rfl ha
  | start ht _ =>
    rw [start_eq (h.idle ht)]
    cases c.fault with
    | none => exact ⟨rfl, silent⟩
    | some e => exact ⟨rfl, posted (.failed e) rfl⟩
  | connected => exact ⟨rfl, posted .connected rfl⟩
  | @refused _ e =>
    obtain ⟨canQueue, stopped, hf⟩ := finish_eq (c.post (.failed e))
    rw [hf]
    exact ⟨rfl, posted (.failed e) rfl⟩
  | connectExpired =>
    obtain ⟨canQueue, stopped, hf⟩ := finish_eq (c.post (.failed .timeout))
    rw [hf]
    exact ⟨rfl, posted (.failed .timeout) rfl⟩
  | wrote | queueClosed => exact ⟨rfl, silent⟩
  | @unwritten _ _ _ e => exact ⟨rfl, posted (.failed e) rfl⟩
  | @received _ x =>
    cases x with
    | frame f => exact ⟨rfl, posted (.received f) rfl⟩
    | failed e => exact ⟨rfl, posted (.failed e) rfl⟩
    | ended => exact ⟨rfl, posted .ended rfl⟩
  | disconnected =>
    obtain ⟨canQueue, stopped, hf⟩ := finish_eq c
    rw [hf]
    exact ⟨rfl, silent⟩

/-- Whoever writes a frame takes it from the queue, and nothing but handling puts one there. -/
theorem Step.queue_eq {a : Action} (h : Course c reads events) (hs : Step c a c' es)
    (ha : a ≠ .handle) : (if a.isWrite then 1 else 0) + c'.queue.length = c.queue.length := by
  cases hs with
  | handle => exact absurd rfl ha
  | start ht _ =>
    rw [start_eq (h.idle ht)]
    cases c.fault <;> simp [Action.isWrite, post]
  | connected | queueClosed => simp [Action.isWrite, post, leave]
  | refused | connectExpired =>
    obtain ⟨canQueue, stopped, hf⟩ := finish_eq (c.post (.failed _))
    rw [hf]
    simp [Action.isWrite, post]
  | wrote _ hq | unwritten _ hq => simp [hq, Action.isWrite, post, leave, Nat.add_comm]
  | @received _ x => cases x <;> simp [Action.isWrite, take, post, leave]
  | disconnected _ ha =>
    obtain ⟨canQueue, stopped, hf⟩ := finish_eq c
    rcases ha with rfl | ⟨now, -, rfl⟩ <;> simp [hf, Action.isWrite]

/-- Only what is queued is written, and only what was asked for is queued. -/
theorem Step.load_le {a : Action} (h : Course c reads events) (hs : Step c a c' es) :
    (if a.isWrite then 1 else 0) + c'.queue.length + c'.requested.length ≤
      c.queue.length + c.requested.length := by
  by_cases ha : a = .handle
  · subst ha
    cases hs with
    | @handle m rest hi =>
      have hrequested : c.requested = m.request?.toList ++ rest.filterMap Message.request? := by
        rw [requested, hi, List.filterMap_cons]
        cases m.request? <;> rfl
      cases hm : m.event? with
      | some e =>
        obtain ⟨-, s, stopped, -, hh⟩ := h.handle_event hi hm
        rw [hh, hrequested]
        simp [requested, Action.isWrite]
      | none =>
        cases m with
        | send f =>
          obtain ⟨queue, hq, hqueue, -⟩ := handle_send { c with inbox := rest } f
          have hlength : queue.length ≤ c.queue.length + 1 := by
            rcases hqueue with rfl | ⟨-, rfl⟩ <;> simp
          rw [hq, hrequested]
          simp only [requested, Action.isWrite, Message.request?, Option.toList_some,
            List.singleton_append, List.length_cons, Bool.false_eq_true, if_false]
          omega
        | connected | received f | failed e | ended => cases hm
    | disconnected _ ha => simp at ha
  · obtain ⟨-, ms, hinbox, hms⟩ := hs.inbox_eq h ha
    have hrequested : c'.requested.length = c.requested.length := by
      rw [requested, hinbox, List.filterMap_append, hms, List.append_nil]
      rfl
    have hqueue := hs.queue_eq h ha
    omega

end Connection

end PartyLine
