import PartyLine.Proofs.Json.Escape
import PartyLine.Proofs.Json.Integer

/-!
# Texts of a document

The texts in which a document with whole numbers is written: any spelling of its strings, and
any blanks around values, keys, colons, commas and brackets. The printer's own text is the one
without blanks.

Items and members are written from the first on, or from a later one on, which takes a comma before
it, up to the bracket that closes them; so the relation follows the document as the readers do.
Doubles are left out, as a double has texts that it is not read back from.

* `Quoted`: the texts of a string;
* `Written`, `WrittenItems`, `WrittenMembers`: the texts of documents, of items up to the
  closing bracket and of members up to the closing brace;
* `Json.integral`: all numbers are whole;
* `written_render`: what is printed is written.
-/

namespace PartyLine

namespace Json

open Reader

/-- Blanks only. -/
def Blank (s : List Char) : Prop := ∀ c ∈ s, isBlank c = true

/-- What stands before an item or a member: blanks, and a comma among them unless it is the
    first. -/
inductive Lead : Bool → List Char → Prop
  | first {b : List Char} : Blank b → Lead true b
  | next {b b' : List Char} : Blank b → Blank b' → Lead false (b ++ ',' :: b')

/-- A text of a string, with its quotes. -/
inductive Quoted : String → List Char → Prop
  | quotes {s : String} {t : List Char} : SpelledAll s.toList t → Quoted s ('"' :: (t ++ ['"']))

mutual

/-- A text of a document. -/
inductive Written : Json → List Char → Prop
  | nullWord : Written .null ['n', 'u', 'l', 'l']
  | trueWord : Written (.bool true) ['t', 'r', 'u', 'e']
  | falseWord : Written (.bool false) ['f', 'a', 'l', 's', 'e']
  | integer (i : Int) (h : -0x8000000000000000 ≤ i ∧ i < 0x10000000000000000) :
      Written (.number (.integer i h)) (integerText i)
  | string {s : String} {t : List Char} : Quoted s t → Written (.string s) t
  | array {xs : Items} {t : List Char} : WrittenItems true xs t → Written (.array xs) ('[' :: t)
  | object {ms : Members} {t : List Char} :
      WrittenMembers true ms t → Written (.object ms) ('\x7b' :: t)

/-- A text of the items of an array from the first on, or from a later one on, with the
    closing bracket. -/
inductive WrittenItems : Bool → Items → List Char → Prop
  | nil {first : Bool} {b : List Char} : Blank b → WrittenItems first .nil (b ++ [']'])
  | cons {first : Bool} {l s t : List Char} {x : Json} {xs : Items} : Lead first l →
      Written x s → WrittenItems false xs t → WrittenItems first (.cons x xs) (l ++ s ++ t)

/-- A text of the members of an object from the first on, or from a later one on, with the
    closing brace. -/
inductive WrittenMembers : Bool → Members → List Char → Prop
  | nil {first : Bool} {b : List Char} : Blank b → WrittenMembers first .nil (b ++ ['\x7d'])
  | cons {first : Bool} {l q b b' s t : List Char} {key : String} {x : Json} {ms : Members} :
      Lead first l → Quoted key q → Blank b → Blank b' → Written x s →
      WrittenMembers false ms t →
      WrittenMembers first (.cons key x ms) (l ++ q ++ b ++ ':' :: b' ++ s ++ t)

end

/-! ## Beginnings -/

/-- Whether a value can begin with a character. -/
def startsValue (c : Char) : Bool :=
  c == 'n' || c == 't' || c == 'f' || c == '"' || c == '-' || c == '[' || c == '\x7b' || c.isDigit

theorem blank_nil : Blank [] := by simp [Blank]

/-- Blanks before what is no blank are skipped. -/
theorem skipBlanks_append {b : List Char} (hb : Blank b) {c : Char} (hc : isBlank c = false)
    (s : List Char) : skipBlanks (b ++ c :: s) = c :: s := by
  rw [skipBlanks, List.dropWhile_append_of_pos hb, List.dropWhile_cons_of_neg (by simp [hc])]

theorem isBlank_of_startsValue {c : Char} (h : startsValue c) : isBlank c = false := by
  rw [← Bool.not_eq_true]
  intro hc
  simp only [isBlank, Bool.or_eq_true, beq_iff_eq, or_assoc] at hc
  rcases hc with rfl | rfl | rfl | rfl <;> cases h

/-- An integer begins with its sign or with a digit. -/
theorem integerText_starts (i : Int) :
    ∃ c t, integerText i = c :: t ∧ (c = '-' ∨ c.isDigit) := by
  cases i with
  | ofNat n =>
    obtain ⟨c, t, ht⟩ := List.exists_cons_of_ne_nil (@Nat.toDigits_ne_nil n 10)
    exact ⟨c, t, ht, .inr (isDigit_of_mem_toDigits (ht ▸ List.mem_cons_self))⟩
  | negSucc n => exact ⟨_, _, rfl, .inl rfl⟩

/-- Every text of a value begins with a character that says of what kind it is. -/
theorem Written.starts {v : Json} {s : List Char} (h : Written v s) :
    ∃ c t, s = c :: t ∧ startsValue c ∧ (v.depth = 0 → c ≠ '[' ∧ c ≠ '\x7b') := by
  cases h with
  | nullWord | trueWord | falseWord => exact ⟨_, _, rfl, rfl, fun _ => by decide⟩
  | string hs =>
    obtain ⟨-⟩ := hs
    exact ⟨_, _, rfl, rfl, fun _ => by decide⟩
  | integer i h =>
    obtain ⟨c, t, ht, hc⟩ := integerText_starts i
    refine ⟨c, t, ht, ?_, fun _ => ⟨?_, ?_⟩⟩
    · rcases hc with rfl | hc
      · rfl
      · simp [startsValue, hc]
    · rintro rfl
      exact absurd hc (by decide)
    · rintro rfl
      exact absurd hc (by decide)
  | array | object =>
    refine ⟨_, _, rfl, rfl, fun hv => ?_⟩
    rw [depth] at hv
    cases hv

theorem isNumeric_of_isBlank {c : Char} (h : isBlank c) : isNumeric c = false := by
  simp only [isBlank, Bool.or_eq_true, beq_iff_eq, or_assoc] at h
  rcases h with rfl | rfl | rfl | rfl <;> rfl

/-- Blanks and then what goes on no number do not go on a number. -/
theorem bounded_append {b : List Char} (hb : Blank b) {s : List Char} (hs : Bounded s) :
    Bounded (b ++ s) := by
  cases b with
  | nil => exact hs
  | cons c b => exact bounded_cons.2 (isNumeric_of_isBlank (hb c List.mem_cons_self))

theorem Lead.bounded {l : List Char} (h : Lead false l) (s : List Char) : Bounded (l ++ s) := by
  rcases h with - | ⟨hb, -⟩
  rw [List.append_assoc]
  exact bounded_append hb (bounded_cons.2 rfl)

/-- What follows an item does not go on a number. -/
theorem WrittenItems.bounded {xs : Items} {t : List Char} (h : WrittenItems false xs t)
    (rest : List Char) : Bounded (t ++ rest) := by
  rcases h with hb | ⟨hl, -, -⟩
  · rw [List.append_assoc]
    exact bounded_append hb (bounded_cons.2 rfl)
  · simp only [List.append_assoc]
    exact hl.bounded _

/-- What follows a member does not go on a number. -/
theorem WrittenMembers.bounded {ms : Members} {t : List Char} (h : WrittenMembers false ms t)
    (rest : List Char) : Bounded (t ++ rest) := by
  rcases h with hb | ⟨hl, -, -, -, -, -⟩
  · rw [List.append_assoc]
    exact bounded_append hb (bounded_cons.2 rfl)
  · simp only [List.append_assoc]
    exact hl.bounded _

/-! ## The printed text -/

/-- What is printed of a string is a text of it. -/
theorem quoted_renderString (s : String) : Quoted s (renderString s) :=
  .quotes (spelledAll_escape s.toList)

mutual

/-- Whether all numbers are whole. -/
def integral : Json → Bool
  | .number (.double _) => false
  | .array items => items.integral
  | .object members => members.integral
  | _ => true

/-- Whether all numbers in the items are whole. -/
def Items.integral : Items → Bool
  | .nil => true
  | .cons head tail => head.integral && tail.integral

/-- Whether all numbers in the members are whole. -/
def Members.integral : Members → Bool
  | .nil => true
  | .cons _ value tail => value.integral && tail.integral

end

/-- Items that could be the first are later ones behind a comma. -/
theorem WrittenItems.comma {x : Json} {xs : Items} {t : List Char}
    (h : WrittenItems true (.cons x xs) t) : WrittenItems false (.cons x xs) (',' :: t) := by
  rcases h with - | ⟨⟨hb⟩, hx, hxs⟩
  exact .cons (.next blank_nil hb) hx hxs

/-- Members that could be the first are later ones behind a comma. -/
theorem WrittenMembers.comma {key : String} {x : Json} {ms : Members} {t : List Char}
    (h : WrittenMembers true (.cons key x ms) t) :
    WrittenMembers false (.cons key x ms) (',' :: t) := by
  rcases h with - | ⟨⟨hb⟩, hkey, hcolon, hvalue, hx, hms⟩
  exact .cons (.next blank_nil hb) hkey hcolon hvalue hx hms

mutual

/-- What is printed of a document with whole numbers is a text of it. -/
theorem written_render : (v : Json) → v.integral → Written v v.render
  | .null, _ => by rw [render]; exact .nullWord
  | .bool true, _ => by rw [render]; exact .trueWord
  | .bool false, _ => by rw [render]; exact .falseWord
  | .number (.integer i h), _ => by rw [render]; exact .integer i h
  | .number (.double _), h => by simp [integral] at h
  | .string s, _ => by rw [render]; exact .string (quoted_renderString s)
  | .array xs, h => by
      rw [integral] at h
      rw [render]
      exact .array (Items.written_render xs h)
  | .object ms, h => by
      rw [integral] at h
      rw [render]
      exact .object (Members.written_render ms h)

theorem Items.written_render : (xs : Items) → xs.integral →
    WrittenItems true xs (xs.render ++ [']'])
  | .nil, _ => by
      rw [Items.render]
      exact .nil blank_nil
  | .cons x .nil, h => by
      simp only [Items.integral, Bool.and_eq_true] at h
      rw [Items.render]
      exact .cons (.first blank_nil) (Json.written_render x h.1) (.nil blank_nil)
  | .cons x (.cons y ys), h => by
      rw [Items.integral, Bool.and_eq_true] at h
      have htail := (Items.written_render (.cons y ys) h.2).comma
      rw [Items.render, List.append_assoc]
      · exact .cons (.first blank_nil) (Json.written_render x h.1) htail
      · rintro ⟨⟩

theorem Members.written_render : (ms : Members) → ms.integral →
    WrittenMembers true ms (ms.render ++ ['\x7d'])
  | .nil, _ => by
      rw [Members.render]
      exact .nil blank_nil
  | .cons key x .nil, h => by
      rw [Members.integral, Bool.and_eq_true] at h
      have hmember := WrittenMembers.cons (.first blank_nil) (quoted_renderString key) blank_nil
        blank_nil (Json.written_render x h.1) (.nil blank_nil)
      rw [Members.render]
      simpa using hmember
  | .cons key x (.cons key' y ms), h => by
      rw [Members.integral, Bool.and_eq_true] at h
      have htail := (Members.written_render (.cons key' y ms) h.2).comma
      have hmember := WrittenMembers.cons (.first blank_nil) (quoted_renderString key) blank_nil
        blank_nil (Json.written_render x h.1) htail
      rw [Members.render]
      · simpa using hmember
      · rintro ⟨⟩

end

end Json

end PartyLine
