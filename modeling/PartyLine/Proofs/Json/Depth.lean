import PartyLine.Json.Reader
import PartyLine.Proofs.Json.Members

/-!
# What can be read

Whatever the text, a document that is read from it has no more levels of arrays and objects
than the reader allows, and it is no object unless the text begins with a brace.

* `Reader.Yields`: what is so of all that a reader may give, composed by `Yields.bind`;
* `Reader.yields_value`: the depth of what is read with so many levels;
* `depth_of_ofChars`: the depth of a whole text;
* `ofChars_ne_object`: a text without the brace.
-/

namespace PartyLine

namespace Json

namespace Reader

/-- Whatever is read is such. -/
def Yields {α : Type} (P : α → Prop) (outcome : Outcome α) : Prop := ∀ x, outcome = .ok x → P x

section Yields

variable {α β : Type} {P : α → Prop} {Q : β → Prop} {outcome : Outcome α} {x : α}

theorem yields_ok (h : P x) : Yields P (.ok x) := by
  rintro _ ⟨⟩
  exact h

theorem yields_error (f : Fault Problem) : Yields P (.error f) := by
  rintro _ ⟨⟩

/-- Of two things that are read one after the other, the second may go by the first. -/
theorem Yields.bind {f : α → Outcome β} (h : Yields P outcome)
    (hf : ∀ x, P x → Yields Q (f x)) : Yields Q (outcome >>= f) := by
  cases houtcome : outcome with
  | error => exact yields_error _
  | ok x => exact hf x (h x houtcome)

/-- Nothing may be known of the first. -/
theorem yields_bind {f : α → Outcome β} (hf : ∀ x, Yields Q (f x)) : Yields Q (outcome >>= f) :=
  Yields.bind (P := fun _ => True) (fun _ _ => trivial) fun x _ => hf x

end Yields

variable {levels : Nat} {item : List Char → Outcome (Json × List Char)}

/-- Items are as deep as the deepest of them. -/
theorem yields_items (hitem : ∀ s, Yields (fun p => p.1.depth ≤ levels) (item s)) (fuel : Nat)
    (first : Bool) (s : List Char) :
    Yields (fun p => p.1.depth ≤ levels) (items item fuel first s) := by
  -- what is read is one item and then what the rest yields
  induction fuel generalizing first s with
  | zero => exact yields_error _
  | succ fuel ih =>
    rw [items]
    refine yields_bind fun next => ?_
    cases next with
    | inr rest => exact yields_ok (Nat.zero_le _)
    | inl s =>
      exact (hitem s).bind fun p hp => (ih false p.2).bind fun q hq =>
        yields_ok (Nat.max_le.2 ⟨hp, hq⟩)

/-- And so are members. -/
theorem yields_members (hitem : ∀ s, Yields (fun p => p.1.depth ≤ levels) (item s)) (fuel : Nat)
    (first : Bool) (s : List Char) :
    Yields (fun p => p.1.depth ≤ levels) (members item fuel first s) := by
  induction fuel generalizing first s with
  | zero => exact yields_error _
  | succ fuel ih =>
    rw [members]
    refine yields_bind fun next => ?_
    cases next with
    | inr rest => exact yields_ok (Nat.zero_le _)
    | inl key =>
      refine yields_bind fun s => ?_
      exact (hitem s).bind fun p hp => (ih false p.2).bind fun q hq =>
        yields_ok (Nat.max_le.2 ⟨hp, hq⟩)

theorem depth_toJson (x : Scalar) : x.toJson.depth = 0 := by
  cases x <;> rfl

/-- With so many levels nothing deeper is read. -/
theorem yields_value (levels : Nat) (s : List Char) :
    Yields (fun p => p.1.depth ≤ levels) (value levels s) := by
  induction levels generalizing s with
  | zero =>
    rw [value]
    split
    · exact yields_error _
    · exact yields_error _
    · exact yields_bind fun p => yields_ok (Nat.le_of_eq (depth_toJson p.1))
  | succ levels ih =>
    rw [value]
    split
    · next r _ =>
      exact (yields_items ih _ true r).bind fun p hp => yields_ok (Nat.succ_le_succ hp)
    · next r _ =>
      exact (yields_members ih _ true r).bind fun p hp => yields_ok (Nat.succ_le_succ hp)
    · refine yields_bind fun p => yields_ok ?_
      rw [depth_toJson]
      exact Nat.zero_le _

/-- An object begins with a brace. -/
theorem yields_ne_object {s : List Char} (h : (skipBlanks s).head? ≠ some '\x7b') (levels : Nat) :
    Yields (fun p => ∀ ms, p.1 ≠ .object ms) (value levels s) := by
  rw [value]
  split
  · split
    · exact yields_error _
    · refine yields_bind fun p => yields_ok ?_
      rintro ms ⟨⟩
  · next hbrace => simp [hbrace] at h
  · refine yields_bind fun p => yields_ok fun ms => ?_
    cases p.1 <;> rintro ⟨⟩

end Reader

/-- A document that is read from a text has no more levels than are allowed. -/
theorem depth_of_ofChars {s : List Char} {v : Json} (h : ofChars s = .ok v) :
    v.depth ≤ Reader.maxDepth := by
  have hyields : Reader.Yields (fun v => v.depth ≤ Reader.maxDepth) (ofChars s) :=
    (Reader.yields_value Reader.maxDepth s).bind fun p hp =>
      Reader.yields_bind fun _ => Reader.yields_ok hp
  exact hyields v h

/-- Of a text without the brace no object is read. -/
theorem ofChars_ne_object {s : List Char} {v : Json}
    (hbrace : (Reader.skipBlanks s).head? ≠ some '\x7b') (h : ofChars s = .ok v) (ms : Members) :
    v ≠ .object ms := by
  have hyields : Reader.Yields (fun v => ∀ ms, v ≠ .object ms) (ofChars s) :=
    (Reader.yields_ne_object hbrace Reader.maxDepth).bind fun p hp =>
      Reader.yields_bind fun _ => Reader.yields_ok hp
  exact hyields v h ms

end Json

end PartyLine
