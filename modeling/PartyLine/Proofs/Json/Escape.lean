import PartyLine.Json.Printer
import PartyLine.Json.Reader

/-!
# Strings in text

A character of a string may stand for itself, unless it is the quote, the backslash or below
the space; or it is escaped, by a letter or by the number of one or two units of UTF-16 in
hexadecimal digits of either case. However its characters are spelled, a string is read; the
spelling of the printer is one among these.

The spellings are a relation on characters and texts, so that reading a string is proved for all
of them at once, character by character. A character beyond the basic plane takes two units, and
these are the only spelling that is longer than one escape; half a pair spells nothing.

* `Spelled`: the ways to write a character inside a string;
* `Reader.unicodeEscape_unit`, `Reader.unicodeEscape_pair`: a character by its number;
* `Reader.string_spelled`: a string is read from any of its texts;
* `spelledAll_escape`: the text of the printer is one of them.
-/

namespace PartyLine

namespace Json

/-- A hexadecimal digit of either case and its value. -/
inductive HexDigit : Char → Nat → Prop
  | lower {n : Nat} : n < 16 → HexDigit (Nat.digitChar n) n
  | upper {n : Nat} : n < 16 → HexDigit (Nat.digitChar n).toUpper n

/-- Four hexadecimal digits and their number. -/
inductive HexNumber : List Char → Nat → Prop
  | digits {a b c d : Char} {k l m n : Nat} : HexDigit a k → HexDigit b l → HexDigit c m →
      HexDigit d n → HexNumber [a, b, c, d] (((k * 16 + l) * 16 + m) * 16 + n)

/-- The letters that stand for a character after a backslash. -/
def shortEscapes : List (Char × Char) :=
  [('"', '"'), ('\\', '\\'), ('/', '/'), ('b', '\x08'), ('f', '\x0c'), ('n', '\n'), ('r', '\r'),
    ('t', '\t')]

/-- A way to write a character inside a string. -/
inductive Spelled : Char → List Char → Prop
  | plain {c : Char} : c ≠ '"' → c ≠ '\\' → 0x20 ≤ c.toNat → Spelled c [c]
  | short {c l : Char} : (l, c) ∈ shortEscapes → Spelled c ['\\', l]
  | unit {c : Char} {s : List Char} : HexNumber s c.toNat → Spelled c ('\\' :: 'u' :: s)
  /-- A character that takes two units of UTF-16. -/
  | pair {c : Char} {high low : Nat} {s t : List Char} : HexNumber s (0xD800 + high) →
      HexNumber t (0xDC00 + low) → high < 0x400 → low < 0x400 →
      c.toNat = 0x10000 + high * 0x400 + low → Spelled c ('\\' :: 'u' :: s ++ '\\' :: 'u' :: t)

/-- A way to write characters inside a string, one after the other. -/
inductive SpelledAll : List Char → List Char → Prop
  | nil : SpelledAll [] []
  | cons {c : Char} {cs s t : List Char} : Spelled c s → SpelledAll cs t →
      SpelledAll (c :: cs) (s ++ t)

namespace Reader

/-! ## Characters by their numbers -/

theorem hexValue?_hexDigit {c : Char} {n : Nat} (h : HexDigit c n) : hexValue? c = some n := by
  have hlower : ∀ m < 16, hexValue? (Nat.digitChar m) = some m := by decide
  have hupper : ∀ m < 16, hexValue? (Nat.digitChar m).toUpper = some m := by decide
  cases h with
  | lower hn => exact hlower n hn
  | upper hn => exact hupper n hn

theorem hexQuad_hexNumber {s : List Char} {n : Nat} (h : HexNumber s n) (rest : List Char) :
    hexQuad (s ++ rest) = .ok (n, rest) := by
  obtain ⟨ha, hb, hc, hd⟩ := h
  simp only [hexQuad, List.cons_append, List.nil_append, hexValue?_hexDigit ha,
    hexValue?_hexDigit hb, hexValue?_hexDigit hc, hexValue?_hexDigit hd]
  rfl

/-- No character has the number of half a pair. -/
theorem isLeading_toNat (c : Char) : isLeading c.toNat = false ∧ isTrailing c.toNat = false := by
  have hvalid : c.toNat < 0xD800 ∨ 0xDFFF < c.toNat ∧ c.toNat < 0x110000 := c.valid
  exact ⟨decide_eq_false (by omega), decide_eq_false (by omega)⟩

/-- A character is read from its number. -/
theorem unicodeEscape_unit {c : Char} {s : List Char} (h : HexNumber s c.toNat)
    (rest : List Char) : unicodeEscape (s ++ rest) = .ok (c, rest) := by
  obtain ⟨hleading, htrailing⟩ := isLeading_toNat c
  rw [unicodeEscape, hexQuad_hexNumber h]
  show (if isTrailing c.toNat then _ else if isLeading c.toNat then _ else _) = _
  simp [htrailing, hleading, Char.ofNat_toNat]

/-- A character is read from the numbers of its two units. -/
theorem unicodeEscape_pair {c : Char} {high low : Nat} {s t : List Char}
    (hs : HexNumber s (0xD800 + high)) (ht : HexNumber t (0xDC00 + low)) (hhigh : high < 0x400)
    (hlow : low < 0x400) (hc : c.toNat = 0x10000 + high * 0x400 + low) (rest : List Char) :
    unicodeEscape (s ++ '\\' :: 'u' :: t ++ rest) = .ok (c, rest) := by
  have hfirst : isTrailing (0xD800 + high) = false := decide_eq_false (by omega)
  have hleading : isLeading (0xD800 + high) = true := decide_eq_true (by omega)
  have htrailing : isTrailing (0xDC00 + low) = true := decide_eq_true (by omega)
  have hnumber : (0xD800 + high - 0xD800) * 0x400 + (0xDC00 + low - 0xDC00) + 0x10000 =
      c.toNat := by omega
  rw [List.append_assoc, unicodeEscape, hexQuad_hexNumber hs]
  simp only [bind, Except.bind, hfirst, hleading, List.cons_append, hexQuad_hexNumber ht,
    htrailing, hnumber, Char.ofNat_toNat, if_true, Bool.false_eq_true, if_false]

/-! ## Strings -/

/-- A character is read however it is spelled, and then the rest of the string. -/
theorem stringChars_spelled {c : Char} {s : List Char} (h : Spelled c s) (fuel : Nat)
    (rest : List Char) :
    stringChars (fuel + 1) (s ++ rest) = (do
      let (cs, r) ← stringChars fuel rest
      return (c :: cs, r)) := by
  cases h with
  | plain hquote hbackslash hspace =>
    simp [stringChars, hquote, hbackslash, Nat.not_lt.2 hspace]
  | short hc =>
    simp only [shortEscapes, List.mem_cons, List.not_mem_nil, or_false, Prod.mk.injEq] at hc
    rcases hc with ⟨rfl, rfl⟩ | ⟨rfl, rfl⟩ | ⟨rfl, rfl⟩ | ⟨rfl, rfl⟩ | ⟨rfl, rfl⟩ | ⟨rfl, rfl⟩ |
      ⟨rfl, rfl⟩ | ⟨rfl, rfl⟩ <;> rfl
  | unit hs =>
    have hescape := unicodeEscape_unit hs rest
    simp only [List.cons_append, stringChars, escaped, hescape]
    rfl
  | pair hs ht hhigh hlow hc =>
    have hescape := unicodeEscape_pair hs ht hhigh hlow hc rest
    rw [List.append_assoc] at hescape
    simp only [List.cons_append, List.append_assoc, stringChars, escaped] at hescape ⊢
    rw [hescape]
    rfl

theorem Spelled.length_pos {c : Char} {s : List Char} (h : Spelled c s) : 0 < s.length := by
  cases h <;> exact Nat.zero_lt_succ _

/-- All characters of a string are read. -/
theorem stringChars_spelledAll {cs s : List Char} (h : SpelledAll cs s) (rest : List Char)
    {fuel : Nat} (hfuel : s.length < fuel) :
    stringChars fuel (s ++ '"' :: rest) = .ok (cs, rest) := by
  induction h generalizing fuel with
  | nil =>
    obtain ⟨fuel, rfl⟩ := Nat.exists_eq_add_one_of_ne_zero (Nat.ne_of_gt hfuel)
    rfl
  | cons hc _ ih =>
    have hpos := Spelled.length_pos hc
    rw [List.length_append] at hfuel
    obtain ⟨fuel, rfl⟩ := Nat.exists_eq_add_one_of_ne_zero (Nat.ne_of_gt (Nat.zero_lt_of_lt hfuel))
    rw [List.append_assoc, stringChars_spelled hc, ih (by omega)]
    rfl

/-- A string is read from any of its texts, after the opening quote. -/
theorem string_spelled {s : String} {t : List Char} (h : SpelledAll s.toList t)
    (rest : List Char) : string (t ++ '"' :: rest) = .ok (s, rest) := by
  have hfuel : t.length < (t ++ '"' :: rest).length + 1 := by
    rw [List.length_append]
    omega
  rw [string, stringChars_spelledAll h rest hfuel]
  show Except.ok (String.ofList s.toList, rest) = _
  rw [String.ofList_toList]

end Reader

/-! ## The printer's spelling -/

theorem hexDigit_hexDigit (n : Nat) : HexDigit (hexDigit n) (n % 16) :=
  .lower (Nat.mod_lt n (by decide))

/-- What the printer writes of a character spells it. -/
theorem spelled_escape (c : Char) : Spelled c (escape c) := by
  unfold escape
  split
  · exact .short (by decide)
  · exact .short (by decide)
  · exact .short (by decide)
  · exact .short (by decide)
  · exact .short (by decide)
  · exact .short (by decide)
  · exact .short (by decide)
  · next hquote hbackslash _ _ _ _ _ =>
    split
    · next hc =>
      have hzero : HexDigit '0' 0 := @HexDigit.lower 0 (by decide)
      have hnumber := HexNumber.digits hzero hzero (hexDigit_hexDigit (c.toNat / 16))
        (hexDigit_hexDigit c.toNat)
      rw [show ((0 * 16 + 0) * 16 + c.toNat / 16 % 16) * 16 + c.toNat % 16 = c.toNat by omega]
        at hnumber
      exact .unit hnumber
    · next hc => exact .plain hquote hbackslash (Nat.le_of_not_lt hc)

theorem spelledAll_escape (cs : List Char) : SpelledAll cs (cs.flatMap escape) := by
  induction cs with
  | nil => exact .nil
  | cons c cs ih =>
    rw [List.flatMap_cons]
    exact .cons (spelled_escape c) ih

end Json

end PartyLine
