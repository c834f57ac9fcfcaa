import PartyLine.Proofs.Connection.History
import PartyLine.Transport.FarEnd

/-!
# What far ends do

A far end acts of its own, and answers the task of the connection. It answers an attempt once; and
of a far end that is timely, the task has only those timeouts that are its own.

What the task does next is a function of the clock, the connection and the far end. It is opened
once, into a relation with a case for each answer (`Answers`), of which it is then a matter of
one `cases` that an answer leaves the gate alone, comes in time or is no timeout.

* `Move`, `outcome?_act`: what it does, and that the first answer counts;
* `Answers`, `answers_of_next?`: its answers to the task, one by one;
* `Answers.gate`: by answering it does not decide an attempt;
* `Timely`, `Answers.timely`: no timeout comes of it.
-/

namespace PartyLine

namespace FarEnd

/-- What a far end does of its own. -/
inductive Move where
  | letThrough
  | refuse (e : TransportError)
  | send (x : Received)
  | vanish

/-- The far end after a move. -/
def Move.act : Move → FarEnd → FarEnd
  | letThrough, r => r.letThrough
  | refuse e, r => r.refuse e
  | send x, r => r.send x
  | vanish, r => r.vanish

/-- What an attempt is to report that meets the gate. -/
def Gate.outcome? : Gate → Option ConnectionEvent
  | held => none
  | passed => some .opened
  | refused e => some (.failed e)

/-- What an attempt is to report that a move decides. -/
def Move.outcome? : Move → Option ConnectionEvent
  | letThrough => some .opened
  | refuse e => some (.failed e)
  | send _ => none
  | vanish => some (.failed (.connectionFailed vanished))

/-- The first move that decides the attempt counts. -/
theorem outcome?_act (m : Move) (r : FarEnd) :
    (m.act r).gate.outcome? = r.gate.outcome?.or m.outcome? := by
  cases m <;> cases hgate : r.gate <;>
    simp [Move.act, letThrough, refuse, send, vanish, hgate, Gate.outcome?, Move.outcome?]

theorem written_act (m : Move) (r : FarEnd) : (m.act r).written = r.written := by
  cases m with
  | send x => rfl
  | letThrough =>
    simp only [Move.act, letThrough]
    split <;> rfl
  | refuse e =>
    simp only [Move.act, refuse]
    split <;> rfl
  | vanish =>
    simp only [Move.act, vanish, refuse]
    split <;> rfl

theorem Gate.outcome?_eq_none_iff {g : Gate} : g.outcome? = none ↔ g = .held := by
  cases g <;> simp [Gate.outcome?]

/-! ## Its answers -/

/-- The answers of a far end to the task of a connection, one by one. -/
inductive Answers (now : Nat) (c : Connection) (r : FarEnd) : Connection.Action → FarEnd → Prop
  | passed {d : Nat} : c.task = .connecting d → r.gate = .passed →
      Answers now c r (.connected none) r
  | refused {d : Nat} {e : TransportError} : c.task = .connecting d → r.gate = .refused e →
      Answers now c r (.connected (some e)) r
  | connectExpired {d : Nat} : c.task = .connecting d → r.gate = .held → d ≤ now →
      Answers now c r (.connectExpired now) r
  | written {f : String} {rest : List String} : c.task = .serving → c.queue = f :: rest →
      Answers now c r (.wrote now (r.write f).1) (r.write f).2
  | read {x : Received} {r' : FarEnd} : c.task = .serving → c.queue = [] → c.canQueue →
      r.read? = some (x, r') → Answers now c r (.received now x) r'
  | queueClosed : c.task = .serving → c.queue = [] → c.canQueue = false →
      Answers now c r (.queueClosed now) r
  | disconnected {d : Nat} {b : Bool} : c.task = .disconnecting d →
      Answers now c r .disconnected { r with disconnected := b }
  | disconnectExpired {d : Nat} : c.task = .disconnecting d → d ≤ now →
      Answers now c r (.disconnectExpired now) r

variable {now : Nat} {c : Connection} {a : Connection.Action} {r r' : FarEnd} {x : Received}

/-- There are no others. -/
theorem answers_of_next? (h : next? now c r = some (a, r')) : Answers now c r a r' := by
  -- by what the task is doing: there is nothing for one that is unstarted or finished
  unfold next? at h
  split at h
  · cases h
  · cases h
  · next ht =>
    split at h
    · next hgate =>
      cases h
      exact .passed ht hgate
    · next hgate =>
      cases h
      exact .refused ht hgate
    · next hgate =>
      obtain ⟨hd, h⟩ := Option.ite_none_right_eq_some.1 h
      cases h
      exact .connectExpired ht hgate hd
  · next ht =>
    split at h
    · next hq =>
      cases h
      exact .written ht hq
    · next hq =>
      split at h
      · next hcan =>
        obtain ⟨⟨x, r''⟩, hread, hx⟩ := Option.map_eq_some_iff.1 h
        cases hx
        exact .read ht hq hcan hread
      · next hcan =>
        cases h
        exact .queueClosed ht hq (by simpa using hcan)
  · next ht =>
    split at h
    · cases h
      exact .disconnected (b := r.disconnected) ht
    · obtain ⟨hd, h⟩ := Option.ite_none_right_eq_some.1 h
      cases h
      exact .disconnectExpired ht hd
    · split at h
      · next hd =>
        cases h
        exact .disconnectExpired ht hd
      · cases h
        exact .disconnected ht

/-- An attempt has to wait while the gate is held, before its deadline. -/
theorem next?_eq_none_iff {d : Nat} (ht : c.task = .connecting d) :
    next? now c r = none ↔ r.gate = .held ∧ now < d := by
  unfold next?
  rw [ht]
  cases hgate : r.gate <;> simp

theorem gate_write (r : FarEnd) (f : String) : (r.write f).2.gate = r.gate := by
  unfold FarEnd.write
  split <;> rfl

/-- What is read was sent, or is the end of a far end that is gone. -/
theorem read?_eq_some (h : r.read? = some (x, r')) : r.inbound = x :: r'.inbound ∧
    r' = { r with inbound := r'.inbound } ∨ x = .ended ∧ r' = r := by
  unfold FarEnd.read? at h
  split at h
  · next hinbound =>
    cases h
    exact .inl ⟨hinbound, rfl⟩
  · split at h
    · cases h
      exact .inr ⟨rfl, rfl⟩
    · cases h

/-- By answering, the far end does not let through or refuse what it has held. -/
theorem Answers.gate (h : Answers now c r a r') : r'.gate = r.gate := by
  cases h with
  | written => exact gate_write r _
  | read _ _ _ hread =>
    rcases read?_eq_some hread with ⟨-, heq⟩ | ⟨-, rfl⟩
    · rw [heq]
    · rfl
  | _ => rfl

/-- The task can go on with the answer. -/
theorem Answers.isSome_step? (h : Answers now c r a r') :
    (c.step? a).isSome ∧ a ≠ .handle ∧ ∀ t, a ≠ .start t := by
  cases h with
  | written ht hq => cases (r.write _).1 <;> simp [Connection.step?, ht, hq]
  | passed ht | refused ht | disconnected ht => simp [Connection.step?, ht]
  | connectExpired ht _ hd | disconnectExpired ht hd => simp [Connection.step?, ht, hd]
  | read ht hq hcan | queueClosed ht hq hcan => simp [Connection.step?, ht, hq, hcan]

/-! ## Timeouts that it reports -/

/-- No timeout comes of the far end, be it read or met in writing. -/
structure Timely (r : FarEnd) : Prop where
  inbound : .failed .timeout ∉ r.inbound
  send : ∀ needle, r.faults.send ≠ some (needle, .timeout)

theorem Timely.act (h : r.Timely) {m : Move} (hm : m ≠ .send (.failed .timeout)) :
    (m.act r).Timely := by
  have refuse (e : TransportError) : (r.refuse e).Timely := by
    unfold FarEnd.refuse
    split
    · exact ⟨h.inbound, h.send⟩
    · exact h
  cases m with
  | send x =>
    refine ⟨?_, h.send⟩
    rw [Move.act, FarEnd.send, List.mem_append, List.mem_singleton]
    exact fun hmem => hmem.elim h.inbound fun heq => hm (heq ▸ rfl)
  | letThrough =>
    simp only [Move.act, letThrough]
    split
    · exact ⟨h.inbound, h.send⟩
    · exact h
  | refuse e => exact refuse e
  | vanish => exact ⟨(refuse _).inbound, (refuse _).send⟩

theorem Timely.write (h : r.Timely) (f : String) :
    (r.write f).1 ≠ some .timeout ∧ (r.write f).2.Timely := by
  have herror : r.writeError? f ≠ some .timeout := by
    have hgone : (if r.gone then some (TransportError.sendFailed vanished) else none) ≠
        some .timeout := by split <;> simp
    unfold writeError?
    cases hsend : r.faults.send with
    | none => exact hgone
    | some p =>
      dsimp only
      split
      · exact fun heq =>
          h.send p.1 (hsend.trans (congrArg some (Prod.ext rfl (Option.some.inj heq))))
      · exact hgone
  unfold FarEnd.write
  split
  · next e he => exact ⟨he ▸ herror, h⟩
  · exact ⟨by simp, h.inbound, h.send⟩

theorem Timely.read (h : r.Timely) (hread : r.read? = some (x, r')) :
    x ≠ .failed .timeout ∧ r'.Timely := by
  rcases read?_eq_some hread with ⟨hinbound, heq⟩ | ⟨rfl, rfl⟩
  · have hmem := h.inbound
    rw [hinbound, List.mem_cons, not_or] at hmem
    exact ⟨Ne.symm hmem.1, hmem.2, heq ▸ h.send⟩
  · exact ⟨by simp, h⟩

/-- No answer of a timely far end brings a timeout, unless it is the attempt that does. -/
theorem Answers.timely (h : Answers now c r a r') (hr : r.Timely) : r'.Timely ∧
    ∀ o, r.gate.outcome? = some o → o ≠ .failed .timeout → a.error? ≠ some .timeout := by
  cases h with
  | refused _ hgate =>
    refine ⟨hr, fun o ho hne => ?_⟩
    rw [hgate] at ho
    cases ho
    simpa [Connection.Action.error?] using hne
  | connectExpired _ hgate => exact ⟨hr, by simp [hgate, Gate.outcome?]⟩
  | written => exact ⟨(hr.write _).2, fun _ _ _ => (hr.write _).1⟩
  | @read x _ _ _ _ hread =>
    obtain ⟨hne, hr'⟩ := hr.read hread
    refine ⟨hr', fun _ _ _ => ?_⟩
    cases x with
    | failed e => simpa [Connection.Action.error?] using hne
    | frame f | ended => simp [Connection.Action.error?]
  | disconnected => exact ⟨⟨hr.inbound, hr.send⟩, by simp [Connection.Action.error?]⟩
  | passed | queueClosed | disconnectExpired =>
    exact ⟨hr, by simp [Connection.Action.error?]⟩

end FarEnd

end PartyLine
