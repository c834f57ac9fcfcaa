import PartyLine.Configuration.Environment
import PartyLine.Proofs.Json.Integer

/-!
# Names and texts of the environment

The case of a variable's name does not matter. A text is a boolean, an integer or a
real, in this order, or else it stands for itself; no text is both a boolean and a
number, since the one starts with a letter and the other with a digit or a sign.

* `Environment.key?_congr`: names that agree up to case;
* `Environment.IsLiteral`: the texts that do not stand for themselves;
* `Environment.boolean?_of_natural?`: no text is a boolean and a number;
* `Environment.scalar_of_integer?`: an integer counts as an integer;
* `Environment.natural?_toDigits`, `Environment.splitSign_toDigits`: decimal digits are read as
  their number, and begin with no sign.
-/

namespace PartyLine

namespace Configuration

namespace Environment

/-- A text that counts as a boolean or a number. -/
def IsLiteral (s : String) : Prop :=
  boolean? s ≠ none ∨ integer? s.toList ≠ none ∨ real? s.toList ≠ none

instance (s : String) : Decidable (IsLiteral s) := inferInstanceAs (Decidable (_ ∨ _))

/-- Names that agree up to case are of one setting. -/
theorem key?_congr {name other : String} (h : Text.lowercase name = Text.lowercase other) :
    key? name = key? other := by
  simp only [key?, h]

theorem scalar_of_not_isLiteral {s : String} (h : ¬ IsLiteral s) : scalar s = .text s := by
  simp only [IsLiteral, not_or, ne_eq, Decidable.not_not] at h
  simp only [scalar, h]

theorem scalar_of_boolean? {s : String} {b : Bool} (h : boolean? s = some b) :
    scalar s = .boolean b := by
  simp only [scalar, h]

/-! ### Numbers are no booleans -/

/-- A digit or a sign. -/
def opensNumber (c : Char) : Bool := c.isDigit || c == '-' || c == '+'

/-- An ASCII character in front of a text has its lower-case form there. -/
theorem head?_lowercase {s : String} {c : Char} {rest : List Char} (hs : s.toList = c :: rest)
    (hc : c < '\x80') : (Text.lowercase s).toList.head? = some c.toLower := by
  have hsigma : c ≠ '\u03a3' := by rintro rfl; exact absurd hc (by decide)
  simp [Text.lowercase, hs, Text.lowercaseAfter, hsigma, Text.lowercaseChar, hc]

/-- What opens a number is ASCII and has no case. -/
theorem toLower_of_opensNumber {c : Char} (h : opensNumber c) : c < '\x80' ∧ c.toLower = c := by
  simp only [opensNumber, Bool.or_eq_true, beq_iff_eq] at h
  rcases h with (h | rfl) | rfl
  · simp only [Char.isDigit, Bool.and_eq_true, decide_eq_true_eq] at h
    have hle : c.val ≤ 57 := h.2
    refine ⟨Nat.lt_of_le_of_lt (UInt32.le_iff_toNat_le.1 hle) (by decide), ?_⟩
    have hlow : ¬ (c.val ≥ 'A'.val ∧ c.val ≤ 'Z'.val) := fun hup =>
      absurd (UInt32.le_trans hup.1 hle) (by decide)
    exact dif_neg hlow
  · exact ⟨by decide, rfl⟩
  · exact ⟨by decide, rfl⟩

theorem boolean?_of_opensNumber {s : String} {c : Char} {rest : List Char}
    (hs : s.toList = c :: rest) (hc : opensNumber c) : boolean? s = none := by
  obtain ⟨hascii, hlower⟩ := toLower_of_opensNumber hc
  have hhead := head?_lowercase hs hascii
  rw [hlower] at hhead
  -- "true" and "false" do not start with what opens a number
  unfold boolean?
  split
  · next h => rw [h] at hhead; obtain rfl := Option.some.inj hhead; cases hc
  · next h => rw [h] at hhead; obtain rfl := Option.some.inj hhead; cases hc
  · rfl

/-- Digits with a sign at will open a number. -/
theorem opensNumber_of_natural? {s : List Char} {n : Nat}
    (h : Path.natural? (splitSign s).2 = some n) :
    ∃ c rest, s = c :: rest ∧ opensNumber c := by
  unfold splitSign at h
  split at h
  · exact ⟨_, _, rfl, rfl⟩
  · exact ⟨_, _, rfl, rfl⟩
  · cases s with
    | nil => simp [Path.natural?] at h
    | cons c rest =>
      refine ⟨c, rest, rfl, ?_⟩
      simp only [Path.natural?, Option.ite_none_left_eq_some, Bool.or_eq_true,
        Bool.not_eq_true', not_or, Bool.not_eq_false, List.all_cons, Bool.and_eq_true] at h
      simp [opensNumber, h.1.2.1]

/-- No text is a boolean and a number. -/
theorem boolean?_of_natural? {s : String} {n : Nat}
    (h : Path.natural? (splitSign s.toList).2 = some n) : boolean? s = none := by
  obtain ⟨c, rest, hs, hc⟩ := opensNumber_of_natural? h
  exact boolean?_of_opensNumber hs hc

/-- An integer that fits counts as an integer. -/
theorem scalar_of_integer? {s : String} {i : Int} (h : integer? s.toList = some i) :
    scalar s = .integer i := by
  have hboolean : boolean? s = none := by
    simp only [integer?, Option.filter_eq_some_iff, Option.map_eq_some_iff,
      Option.bind_eq_bind, Option.bind_eq_some_iff] at h
    obtain ⟨⟨_, ⟨n, hn, -⟩, -⟩, -⟩ := h
    exact boolean?_of_natural? hn
  simp only [scalar, hboolean, h]

/-! ### Decimal digits -/

theorem natural?_toDigits (n : Nat) : Path.natural? (Nat.toDigits 10 n) = some n := by
  have hvalue : (Nat.toDigits 10 n).foldl (fun n c => 10 * n + (c.toNat - '0'.toNat)) 0 = n :=
    Nat.ofDigitChars_ten_toDigits
  have hall : (Nat.toDigits 10 n).all Char.isDigit :=
    List.all_eq_true.2 fun _ => Json.Reader.isDigit_of_mem_toDigits
  rw [Path.natural?, hvalue]
  simp [Nat.toDigits_ne_nil, hall]

theorem splitSign_toDigits (n : Nat) :
    splitSign (Nat.toDigits 10 n) = (false, Nat.toDigits 10 n) := by
  unfold splitSign
  split
  · next h =>
    have hminus : '-'.isDigit := Json.Reader.isDigit_of_mem_toDigits (h ▸ List.mem_cons_self)
    cases hminus
  · next h =>
    have hplus : '+'.isDigit := Json.Reader.isDigit_of_mem_toDigits (h ▸ List.mem_cons_self)
    cases hplus
  · rfl

end Environment

end Configuration

end PartyLine
