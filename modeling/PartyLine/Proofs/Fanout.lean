import PartyLine.Fanout

/-!
# Calls on a set of subscribers

Whatever is called on a set, a subscriber whose flag is clear hears nothing of it:
delivering, reporting and terminating ask for the flag at each turn. Only inserting
does not, once the set has ended.

* `Fanout.Call`: the calls;
* `Audience.heard_perform`: what a call makes a listener hear whose flag is clear.
-/

namespace PartyLine

namespace Fanout

@[simp] theorem termination_store (f : Fanout) (e : Entry) :
    (f.store e).termination = f.termination := by
  unfold store
  split <;> rfl

/-- Storing an entry brings no other. -/
theorem mem_store {f : Fanout} {e x : Entry} (h : x ∈ (f.store e).entries) :
    x = e ∨ x ∈ f.entries := by
  rw [store] at h
  split at h
  · obtain ⟨old, hold, rfl⟩ := List.mem_map.1 h
    split
    · exact .inl rfl
    · exact .inr hold
  · rcases List.mem_append.1 h with h | h
    · exact .inr h
    · exact .inl (List.mem_singleton.1 h)

/-- Nobody is stored any more once the end is latched. -/
def Emptied (f : Fanout) : Prop := f.termination.isSome → f.entries = []

theorem Emptied.remove {f : Fanout} (h : f.Emptied) (id : Nat) : (f.remove id).2.Emptied := by
  intro hlatch
  simp [Fanout.remove, h hlatch]

/-- A call on a set of subscribers. -/
inductive Call where
  | insert (e : Entry)
  | remove (id : Nat)
  | deliver (e : Envelope)
  | report (e : ChannelError)
  | terminate (t : Termination)

/-- The set and its host after a call. -/
def perform {σ : Type} (h : Host σ) (f : Fanout) (world : σ) : Call → Fanout × σ
  | .insert e => (f.insert h e world).2
  | .remove id => ((f.remove id).2, world)
  | .deliver e => (f, (f.deliver h e world).2)
  | .report e => (f, (f.report h e world).2)
  | .terminate t => (f.terminate h t world).2

/-- What a call makes a listener hear that comes after the end. -/
def late (f : Fanout) (i : Nat) : Call → List Note
  | .insert e =>
      if e.listener = i then f.termination.elim [] fun t => [t.note].filter e.subscriber.wants
      else []
  | _ => []

end Fanout

namespace Audience

variable {a : Audience} {i : Nat} {l : Listener}

/-- Nothing that happens to another listener is heard. -/
theorem getElem?_update_of_ne {j : Nat} (g : Listener → Listener) (hj : j ≠ i) :
    (a.update j g)[i]? = a[i]? := by
  simp [update, hj]

/-- A clear flag stays clear, whoever's is cleared. -/
theorem getElem?_deactivate (hl : a[i]? = some l) (hactive : l.active = false) (j : Nat) :
    (host.deactivate j a)[i]? = some l := by
  by_cases hj : j = i
  · subst hj
    simp [host, setActive, update, hl, ← hactive]
  · exact (getElem?_update_of_ne _ hj).trans hl

/-- Whoever has its turn with its flag set is another listener. -/
theorem ne_of_isActive (hl : a[i]? = some l) (hactive : l.active = false) {j : Nat}
    (hj : a.isActive j) : j ≠ i := by
  rintro rfl
  simp [isActive, hl, hactive] at hj

/-- What another is told is not heard. -/
theorem getElem?_tell_of_ne {j : Nat} (hj : j ≠ i) (s : Subscriber) (n : Note) :
    (host.tell j s n a)[i]? = a[i]? := by
  unfold Host.tell
  split
  · exact getElem?_update_of_ne _ hj
  · rfl

/-- Whoever has its flag clear hears nothing of a round. -/
theorem getElem?_tellAll (hactive : l.active = false) (n : Note) {es : List Fanout.Entry}
    {a : Audience} (hl : a[i]? = some l) : (Fanout.tellAll host n es a).2[i]? = some l := by
  induction es generalizing a with
  | nil => exact hl
  | cons e es ih =>
    rw [Fanout.tellAll]
    split
    · next he => exact ih ((getElem?_tell_of_ne (ne_of_isActive hl hactive he) _ _).trans hl)
    · exact ih hl

/-- Nor does it of the round of the end. -/
theorem getElem?_finishAll (hactive : l.active = false) (t : Termination) {es : List Fanout.Entry}
    {a : Audience} (hl : a[i]? = some l) : (Fanout.finishAll host t es a).2[i]? = some l := by
  induction es generalizing a with
  | nil => exact hl
  | cons e es ih =>
    rw [Fanout.finishAll]
    split
    · next he =>
      refine ih ((getElem?_tell_of_ne (ne_of_isActive hl hactive he) _ _).trans ?_)
      exact getElem?_deactivate hl hactive _
    · exact ih hl

/-- What a call makes a listener hear whose flag is clear. -/
theorem heard_perform (f : Fanout) (hl : a[i]? = some l) (hactive : l.active = false)
    (call : Fanout.Call) : (f.perform host a call).2[i]? =
      some { l with heard := l.heard ++ f.late i call } := by
  have silent : (some l : Option Listener) = some { l with heard := l.heard ++ [] } := by simp
  cases call with
  | remove id => exact hl.trans silent
  | deliver e =>
    simp only [Fanout.perform, Fanout.deliver]
    split
    · exact hl.trans silent
    · exact (getElem?_tellAll hactive _ hl).trans silent
  | report e =>
    simp only [Fanout.perform, Fanout.report]
    split
    · exact hl.trans silent
    · exact (getElem?_tellAll hactive _ hl).trans silent
  | terminate t =>
    simp only [Fanout.perform, Fanout.terminate]
    split
    · exact hl.trans silent
    · exact (getElem?_finishAll hactive _ hl).trans silent
  | insert e =>
    cases ht : f.termination with
    | none =>
      simp only [Fanout.perform, Fanout.insert, Fanout.late, ht]
      split <;> split <;> simp [hl]
    | some t =>
      -- here the flag is not asked for
      have hdeactivated := getElem?_deactivate hl hactive e.listener
      simp only [Fanout.perform, Fanout.insert, Fanout.late, ht, Option.elim]
      split
      · next hi =>
        subst hi
        unfold Host.tell
        split
        · next hw =>
          show (hear _ _ _ _)[e.listener]? = _
          simp [hear, update, hdeactivated, hactive, hw]
        · next hw => simpa [hw] using hdeactivated
      · next hi => exact ((getElem?_tell_of_ne hi _ _).trans hdeactivated).trans silent

end Audience

end PartyLine
