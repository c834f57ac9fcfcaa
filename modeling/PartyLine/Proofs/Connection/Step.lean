import PartyLine.Connection

/-!
# Steps of a connection

The small steps of a connection one by one, with what each of them reads and writes.

The relation has one case for each line of `Connection.step?` that gives a step, with the conditions
that it asks for as hypotheses. Every invariant of connections is proved by cases on it, and a
change of `step?` is met here first.

* `Connection.Step`: the steps;
* `Connection.step_of_step?`: there are no others;
* `Action.reading`, `writing`: what a step reads and writes;
* `Step.lasting`: every step leaves the parameters, and a terminal state.
-/

namespace PartyLine

namespace Connection

/-- What an action reads. -/
def Action.reading : Action → List Received
  | received _ x => [x]
  | _ => []

/-- What an action writes with success. -/
def writing (c : Connection) : Action → List String
  | .wrote _ none => c.queue.take 1
  | _ => []

/-- Whether the task has left its loop. -/
def Task.isOver : Task → Bool
  | disconnecting _ | finished => true
  | _ => false

/-- The small steps of a connection, one by one. -/
inductive Step (c : Connection) : Action → Connection → List ConnectionEvent → Prop
  | start {now : Nat} : c.task = .unstarted → c.stopped = false →
      Step c (.start now) (c.start now) []
  | handle {m : Message} {rest : List Message} : c.inbox = m :: rest → c.stopped = false →
      Step c .handle ({ c with inbox := rest }.handle m).1 ({ c with inbox := rest }.handle m).2
  | connected {d : Nat} : c.task = .connecting d →
      Step c (.connected none) ({ c with task := .serving }.post .connected) []
  | refused {d : Nat} {e : TransportError} : c.task = .connecting d →
      Step c (.connected (some e)) (c.post (.failed e)).finish []
  | connectExpired {d now : Nat} : c.task = .connecting d → d ≤ now →
      Step c (.connectExpired now) (c.post (.failed .timeout)).finish []
  | wrote {now : Nat} {f : String} {rest : List String} : c.task = .serving → c.queue = f :: rest →
      Step c (.wrote now none) { c with queue := rest } []
  | unwritten {now : Nat} {f : String} {rest : List String} {e : TransportError} :
      c.task = .serving → c.queue = f :: rest →
      Step c (.wrote now (some e)) (({ c with queue := rest }.post (.failed e)).leave now) []
  | queueClosed {now : Nat} : c.task = .serving → c.canQueue = false →
      Step c (.queueClosed now) (c.leave now) []
  | received {now : Nat} {x : Received} : c.task = .serving → c.queue = [] → c.canQueue →
      Step c (.received now x) (c.take now x) []
  | disconnected {d : Nat} {a : Action} : c.task = .disconnecting d →
      a = .disconnected ∨ (∃ now, d ≤ now ∧ a = .disconnectExpired now) → Step c a c.finish []

/-- Whatever a connection does is one of its small steps. -/
theorem step_of_step? {c c' : Connection} {a : Action} {es : List ConnectionEvent}
    (h : c.step? a = some (c', es)) : Step c a c' es := by
  cases a with
  | start now =>
    simp only [step?, Option.ite_none_right_eq_some, Option.some.injEq, Prod.mk.injEq] at h
    obtain ⟨⟨ht, hs⟩, rfl, rfl⟩ := h
    exact .start ht (by simpa using hs)
  | handle =>
    simp only [step?] at h
    split at h
    · cases h
    · next hs =>
      split at h
      · cases h
      · next m rest hi =>
        rw [Option.some.injEq] at h
        have := Step.handle hi (by simpa using hs)
        rwa [h] at this
  | connected answer =>
    simp only [step?] at h
    split at h
    · next ht => cases h; exact .connected ht
    · next ht => cases h; exact .refused ht
    · cases h
  | connectExpired now =>
    simp only [step?] at h
    split at h
    · next ht =>
      rw [Option.ite_none_right_eq_some] at h
      obtain ⟨hd, h⟩ := h
      cases h
      exact .connectExpired ht hd
    · cases h
  | wrote now answer =>
    simp only [step?] at h
    split at h
    · next ht hq => cases h; exact .wrote ht hq
    · next ht hq => cases h; exact .unwritten ht hq
    · cases h
  | queueClosed now =>
    -- the queue is empty then, which is of no account
    simp only [step?, Option.ite_none_right_eq_some] at h
    obtain ⟨⟨ht, _, hc⟩, h⟩ := h
    cases h
    exact .queueClosed ht (by simpa using hc)
  | received now x =>
    simp only [step?, Option.ite_none_right_eq_some] at h
    obtain ⟨⟨ht, hq, hc⟩, h⟩ := h
    cases h
    exact .received ht (List.isEmpty_iff.1 hq) hc
  | disconnected =>
    simp only [step?] at h
    split at h
    · next ht => cases h; exact .disconnected ht (.inl rfl)
    · cases h
  | disconnectExpired now =>
    simp only [step?] at h
    split at h
    · next ht =>
      rw [Option.ite_none_right_eq_some] at h
      obtain ⟨hd, h⟩ := h
      cases h
      exact .disconnected ht (.inr ⟨now, hd, rfl⟩)
    · cases h

/-! ## What lasts -/

variable {c c' : Connection} {a : Action} {es : List ConnectionEvent}

/-- A signal changes the state, and no more than goes with that. -/
theorem transition_eq (c : Connection) (signal : Signal) (report : List ConnectionEvent) :
    ∃ state task canQueue stopped,
      (c.transition signal report).1 = { c with state, task, canQueue, stopped } := by
  unfold transition
  split
  · exact ⟨_, _, _, _, rfl⟩
  · dsimp only
    split
    · split <;> exact ⟨_, _, _, _, rfl⟩
    · exact ⟨_, _, _, _, rfl⟩

theorem params_transition (c : Connection) (signal : Signal) (report : List ConnectionEvent) :
    (c.transition signal report).1.params = c.params := by
  obtain ⟨state, task, canQueue, stopped, h⟩ := c.transition_eq signal report
  rw [h]

/-- In a terminal state no signal does anything. -/
theorem transition_of_isTerminal (h : c.state.isTerminal) (signal : Signal)
    (report : List ConnectionEvent) : c.transition signal report = (c, []) := by
  simp [transition, ConnectionState.next_of_isTerminal h]

theorem handle_lasting (c : Connection) (m : Message) : (c.handle m).1.params = c.params ∧
    (c.state.isTerminal → (c.handle m).1.state = c.state) := by
  cases m with
  | connected => exact ⟨params_transition .., fun h => by simp [handle, transition_of_isTerminal h]⟩
  | failed e => exact ⟨params_transition .., fun h => by simp [handle, transition_of_isTerminal h]⟩
  | ended => exact ⟨params_transition .., fun h => by simp [handle, transition_of_isTerminal h]⟩
  | received f => exact ⟨rfl, fun _ => rfl⟩
  | send f =>
    simp only [handle]
    split <;> exact ⟨rfl, fun _ => rfl⟩

theorem start_lasting (c : Connection) (now : Nat) : (c.start now).params = c.params ∧
    (c.state.isTerminal → (c.start now).state = c.state) := by
  have hparams := params_transition c .initiate []
  refine ⟨?_, fun h => ?_⟩
  · unfold start
    split
    next c' _ hc =>
    rw [hc] at hparams
    split <;> exact hparams
  · simp only [start, transition_of_isTerminal h]
    split <;> rfl

theorem finish_lasting (c : Connection) :
    c.finish.params = c.params ∧ c.finish.state = c.state := by
  unfold finish
  dsimp only
  split <;> exact ⟨rfl, rfl⟩

/-- Every small step leaves the parameters, and a terminal state. -/
theorem Step.lasting (h : Step c a c' es) :
    c'.params = c.params ∧ (c.state.isTerminal → c'.state = c.state) := by
  rcases h with ⟨-, -⟩ | ⟨-, -⟩ | - | - | - | - | - | - | @⟨now, x, -, -, -⟩ | -
  · exact start_lasting c _
  · exact handle_lasting _ _
  · exact ⟨rfl, fun _ => rfl⟩
  · obtain ⟨hparams, hstate⟩ := finish_lasting (c.post (.failed _))
    exact ⟨hparams, fun _ => hstate⟩
  · obtain ⟨hparams, hstate⟩ := finish_lasting (c.post (.failed .timeout))
    exact ⟨hparams, fun _ => hstate⟩
  · exact ⟨rfl, fun _ => rfl⟩
  · exact ⟨rfl, fun _ => rfl⟩
  · exact ⟨rfl, fun _ => rfl⟩
  · cases x <;> exact ⟨rfl, fun _ => rfl⟩
  · obtain ⟨hparams, hstate⟩ := finish_lasting c
    exact ⟨hparams, fun _ => hstate⟩

end Connection

end PartyLine
