import PartyLine.Proofs.Fanout

/-!
# Rounds

Whatever is told to the stored subscribers goes round: each has its turn, if its flag is then set.
What a host shows of its worlds is the flags, so that a round goes the same way in worlds that the
host does not tell apart.

* `Fanout.round`: rounds, `tellAll_eq_round` and `finishAll_eq_round` for the two kinds;
* `Host.Respects`: worlds not told apart, `insert_related` and the like for the calls on a set.
-/

namespace PartyLine

/-- Worlds that are related show the same flags, and go on being related whatever is done. -/
structure Host.Respects {σ : Type} (h : Host σ) (R : σ → σ → Prop) : Prop where
  isActive {w w' : σ} {i : Nat} : R w w' → h.isActive w i = h.isActive w' i
  deactivate {w w' : σ} (i : Nat) : R w w' → R (h.deactivate i w) (h.deactivate i w')
  notify {w w' : σ} (i : Nat) (s : Subscriber) (n : Note) :
    R w w' → R (h.notify i s n w) (h.notify i s n w')

namespace Fanout

/-- A round: each entry has its turn if its flag is set then, and these are counted. -/
def round (h : Host σ) (turn : Entry → σ → σ) : List Entry → σ → Nat × σ
  | [], w => (0, w)
  | e :: es, w =>
      if h.isActive w e.listener then
        let (n, w) := round h turn es (turn e w)
        (n + 1, w)
      else
        round h turn es w

theorem tellAll_eq_round (h : Host σ) (note : Note) (es : List Entry) (w : σ) :
    tellAll h note es w = round h (fun e => h.tell e.listener e.subscriber note) es w := by
  induction es generalizing w with
  | nil => rfl
  | cons e es ih => rw [tellAll, round, ih, ih]

theorem finishAll_eq_round (h : Host σ) (t : Termination) (es : List Entry) (w : σ) :
    finishAll h t es w = round h (fun e w =>
      h.tell e.listener e.subscriber t.note (h.deactivate e.listener w)) es w := by
  induction es generalizing w with
  | nil => rfl
  | cons e es ih => rw [finishAll, round, ih, ih]

section Related

variable {σ : Type} {h : Host σ} {R : σ → σ → Prop} {w w' : σ} {f : Fanout}

theorem tell_related (hR : h.Respects R) (i : Nat) (s : Subscriber) (n : Note) (hw : R w w') :
    R (h.tell i s n w) (h.tell i s n w') := by
  unfold Host.tell
  split
  · exact hR.notify i s n hw
  · exact hw

/-- A round goes the same way in related worlds. -/
theorem round_related (hR : h.Respects R) {turn : Entry → σ → σ}
    (hturn : ∀ e {w w' : σ}, R w w' → R (turn e w) (turn e w')) (es : List Entry) (hw : R w w') :
    (round h turn es w).1 = (round h turn es w').1 ∧
      R (round h turn es w).2 (round h turn es w').2 := by
  induction es generalizing w w' with
  | nil => exact ⟨rfl, hw⟩
  | cons e es ih =>
    rw [round, round, hR.isActive hw]
    split
    · obtain ⟨hcount, hworld⟩ := ih (hturn e hw)
      exact ⟨congrArg (· + 1) hcount, hworld⟩
    · exact ih hw

theorem tellAll_related (hR : h.Respects R) (n : Note) (es : List Entry) (hw : R w w') :
    R (tellAll h n es w).2 (tellAll h n es w').2 := by
  rw [tellAll_eq_round, tellAll_eq_round]
  exact (round_related hR (fun e _ _ => tell_related hR e.listener e.subscriber n) es hw).2

theorem finish_related (hR : h.Respects R) (t : Termination) (e : Entry) (hw : R w w') :
    R (h.tell e.listener e.subscriber t.note (h.deactivate e.listener w))
      (h.tell e.listener e.subscriber t.note (h.deactivate e.listener w')) :=
  tell_related hR e.listener e.subscriber t.note (hR.deactivate e.listener hw)

/-- The end comes to the same. -/
theorem terminate_related (hR : h.Respects R) (t : Termination) (hw : R w w') :
    (f.terminate h t w).2.1 = (f.terminate h t w').2.1 ∧
      R (f.terminate h t w).2.2 (f.terminate h t w').2.2 := by
  unfold Fanout.terminate
  split
  · exact ⟨rfl, hw⟩
  · rw [finishAll_eq_round, finishAll_eq_round]
    exact ⟨rfl, (round_related hR (fun e _ _ => finish_related hR t e) f.entries hw).2⟩

/-- So does an insertion. -/
theorem insert_related (hR : h.Respects R) (e : Entry) (hw : R w w') :
    (f.insert h e w).1 = (f.insert h e w').1 ∧
      (f.insert h e w).2.1 = (f.insert h e w').2.1 ∧
      R (f.insert h e w).2.2 (f.insert h e w').2.2 := by
  unfold Fanout.insert
  rw [hR.isActive hw]
  cases f.termination with
  | some t => exact ⟨rfl, rfl, finish_related hR t e hw⟩
  | none =>
    dsimp only
    split <;> exact ⟨rfl, rfl, hw⟩

end Related

end Fanout

end PartyLine
