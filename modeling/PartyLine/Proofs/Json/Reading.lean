import Mathlib.Data.List.TakeWhile
import PartyLine.Proofs.Json.Written

/-!
# Reading what is written

Every text of a document is read as that document if it is not nested too deeply for the
levels allowed, and refused for its depth if it is: nothing else can be wrong with it.

Whether the levels suffice is found out on the way, and where they do not, nothing is known of the
text that is left unread. So both outcomes are carried through the readers in one statement
(`Reads`): a part of some depth, with so many levels allowed, is read up to the rest of the text, or
refused for its depth. Of two parts the deeper one decides (`Reads.bind`).

* `Reads`: the one outcome of the two that the depth decides;
* `Reads.bind`: reading one thing after the other;
* `reads_value`, `reads_items`, `reads_members`: the texts of documents, items and members;
* `ofChars_written`, `ofChars_tooDeep`: a whole text.
-/

namespace PartyLine

namespace Json

open Reader

/-- What comes of reading something of a depth with so many levels allowed: the thing and
    the rest, or that it is too deep. -/
structure Reads {α : Type} (depth levels : Nat) (x : α) (rest : List Char)
    (outcome : Outcome (α × List Char)) : Prop where
  ok : depth ≤ levels → outcome = .ok (x, rest)
  tooDeep : levels < depth → ∃ unread, outcome = .error ⟨.tooDeep, unread⟩

section Reads

variable {α β : Type} {d d' levels : Nat} {x : α} {y : β} {s rest : List Char}
  {outcome : Outcome (α × List Char)}

/-- What has no depth is read. -/
theorem reads_zero (h : outcome = .ok (x, rest)) : Reads 0 levels x rest outcome :=
  ⟨fun _ => h, fun hlt => absurd hlt (Nat.not_lt_zero _)⟩

/-- Of two things that are read one after the other, the deeper decides. -/
theorem Reads.bind {f : α × List Char → Outcome (β × List Char)} (h : Reads d levels x s outcome)
    (hf : Reads d' levels y rest (f (x, s))) :
    Reads (max d d') levels y rest (outcome >>= f) := by
  refine ⟨fun hle => ?_, fun hlt => ?_⟩
  · rw [h.ok (by omega)]
    exact hf.ok (by omega)
  · by_cases hd : d ≤ levels
    · rw [h.ok hd]
      exact hf.tooDeep (by omega)
    · obtain ⟨unread, hfault⟩ := h.tooDeep (by omega)
      rw [hfault]
      exact ⟨unread, rfl⟩

/-- What is made of a thing once it is read does not matter to its reading. -/
theorem Reads.map (h : Reads d levels x rest outcome) (g : α → β) :
    Reads d levels (g x) rest (do
      let (x, rest) ← outcome
      return (g x, rest)) := by
  have := h.bind (f := fun p => .ok (g p.1, p.2)) (reads_zero rfl)
  rwa [Nat.max_zero] at this

end Reads

/-! ## What stands between -/

theorem nextItem_end {b : List Char} (hb : Blank b) (first : Bool) (rest : List Char) :
    nextItem first (b ++ ']' :: rest) = .ok (.inr rest) := by
  rw [nextItem, skipBlanks_append hb rfl]
  rfl

/-- Before an item, an array goes on. -/
theorem nextItem_lead {first : Bool} {l : List Char} (hl : Lead first l) {c : Char}
    (hc : startsValue c) (s : List Char) : nextItem first (l ++ c :: s) = .ok (.inl (c :: s)) := by
  have hblank := isBlank_of_startsValue hc
  have hend : c ≠ ']' := by
    rintro rfl
    cases hc
  cases hl with
  | first hb => simp [nextItem, skipBlanks_append hb hblank]
  | @next b b' hb hb' =>
    rw [List.append_assoc, List.cons_append, nextItem, skipBlanks_append hb rfl]
    simp [skipBlanks_append hb' hblank, hend]

theorem nextKey_end {b : List Char} (hb : Blank b) (first : Bool) (rest : List Char) :
    nextKey first (b ++ '\x7d' :: rest) = .ok (.inr rest) := by
  rw [nextKey, skipBlanks_append hb rfl]
  rfl

/-- A string is read from any of its texts. -/
theorem Quoted.string {s : String} {q : List Char} (h : Quoted s q) (rest : List Char) :
    ∃ text, q ++ rest = '"' :: text ∧ Reader.string text = .ok (s, rest) := by
  obtain ⟨h⟩ := h
  exact ⟨_, by simp, string_spelled h rest⟩

/-- Before a key, an object goes on. -/
theorem nextKey_lead {first : Bool} {l q : List Char} {key : String} (hl : Lead first l)
    (hq : Quoted key q) (s : List Char) : nextKey first (l ++ (q ++ s)) = .ok (.inl (key, s)) := by
  obtain ⟨text, htext, hkey⟩ := hq.string s
  rw [htext]
  cases hl with
  | first hb =>
    rw [nextKey, skipBlanks_append hb rfl]
    show (do return Sum.inl (← Reader.string text)) = _
    rw [hkey]
    rfl
  | @next b b' hb hb' =>
    rw [List.append_assoc, List.cons_append, nextKey, skipBlanks_append hb rfl]
    have hquote := skipBlanks_append hb' (show isBlank '"' = false from rfl) text
    simp [hquote, hkey]

/-- Blanks alone are skipped to the end. -/
theorem skipBlanks_eq_nil {b : List Char} (hb : Blank b) : skipBlanks b = [] :=
  List.dropWhile_eq_nil_iff.2 hb

theorem colon_append {b : List Char} (hb : Blank b) (s : List Char) :
    colon (b ++ ':' :: s) = .ok s := by
  rw [colon, skipBlanks_append hb rfl]
  rfl

/-! ## Values -/

/-- What begins like neither an array nor an object is a scalar. -/
theorem value_scalar {b : List Char} (hb : Blank b) {c : Char} (hc : isBlank c = false)
    (harray : c ≠ '[') (hobject : c ≠ '\x7b') (levels : Nat) (s : List Char) :
    value levels (b ++ c :: s) = (do
      let (v, rest) ← scalar (c :: s)
      return (v.toJson, rest)) := by
  rw [value, skipBlanks_append hb hc]
  split
  · next h => exact absurd (List.cons.inj h).1 harray
  · next h => exact absurd (List.cons.inj h).1 hobject
  · rfl

theorem value_array {b : List Char} (hb : Blank b) (levels : Nat) (s : List Char) :
    value (levels + 1) (b ++ '[' :: s) = (do
      let (xs, rest) ← items (value levels) (s.length + 1) true s
      return (.array xs, rest)) := by
  rw [value, skipBlanks_append hb rfl]
  rfl

theorem value_object {b : List Char} (hb : Blank b) (levels : Nat) (s : List Char) :
    value (levels + 1) (b ++ '\x7b' :: s) = (do
      let (ms, rest) ← members (value levels) (s.length + 1) true s
      return (.object ms, rest)) := by
  rw [value, skipBlanks_append hb rfl]
  rfl

/-- With no level left an array or object is too deep. -/
theorem value_tooDeep {b : List Char} (hb : Blank b) {c : Char} (hc : c = '[' ∨ c = '\x7b')
    (s : List Char) : ∃ unread, value 0 (b ++ c :: s) = .error ⟨.tooDeep, unread⟩ := by
  rcases hc with rfl | rfl
  · rw [value, skipBlanks_append hb rfl]
    exact ⟨_, rfl⟩
  · rw [value, skipBlanks_append hb rfl]
    exact ⟨_, rfl⟩

/-- An array or object is one level deeper than what it holds. -/
theorem reads_succ {d : Nat} {v : Json} {rest : List Char} (text : List Char)
    (hzero : ∃ unread, value 0 text = .error ⟨.tooDeep, unread⟩)
    (hsucc : ∀ levels, Reads d levels v rest (value (levels + 1) text)) (levels : Nat) :
    Reads (d + 1) levels v rest (value levels text) := by
  cases levels with
  | zero => exact ⟨fun hle => absurd hle (by omega), fun _ => hzero⟩
  | succ levels =>
    obtain ⟨hok, htooDeep⟩ := hsucc levels
    exact ⟨fun hle => hok (by omega), fun hlt => htooDeep (by omega)⟩

/-- What is written of a scalar is read. -/
theorem scalar_written {v : Json} {s rest : List Char} (h : Written v s) (hv : v.depth = 0)
    (hrest : Bounded rest) : ∃ x : Scalar, x.toJson = v ∧ scalar (s ++ rest) = .ok (x, rest) := by
  cases h with
  | nullWord => exact ⟨.null, rfl, rfl⟩
  | trueWord => exact ⟨.bool true, rfl, rfl⟩
  | falseWord => exact ⟨.bool false, rfl, rfl⟩
  | integer i h => exact ⟨.number (.integer i h), rfl, scalar_integerText i h hrest⟩
  | @string t _ hq =>
    obtain ⟨text, htext, ht⟩ := hq.string rest
    refine ⟨.string t, rfl, ?_⟩
    rw [htext]
    simp only [scalar, ht]
    rfl
  | array | object =>
    rw [depth] at hv
    cases hv

/-- A scalar is read at any level. -/
theorem reads_scalar {v : Json} {s b rest : List Char} (h : Written v s) (hv : v.depth = 0)
    (hb : Blank b) (hrest : Bounded rest) (levels : Nat) :
    Reads v.depth levels v rest (value levels (b ++ (s ++ rest))) := by
  obtain ⟨x, rfl, hx⟩ := scalar_written h hv hrest
  obtain ⟨c, t, rfl, hc, hkind⟩ := h.starts
  obtain ⟨harray, hobject⟩ := hkind hv
  rw [hv]
  refine reads_zero ?_
  rw [List.cons_append] at hx ⊢
  rw [value_scalar hb (isBlank_of_startsValue hc) harray hobject, hx]
  rfl

/-- The readers of items and members allow one turn for each character. -/
theorem lt_length_append (t rest : List Char) : t.length < (t ++ rest).length + 1 := by
  rw [List.length_append]
  omega

mutual

/-- Every text of a document is read. -/
theorem reads_value (v : Json) {s : List Char} (h : Written v s) {b : List Char} (hb : Blank b)
    {rest : List Char} (hrest : Bounded rest) (levels : Nat) :
    Reads v.depth levels v rest (value levels (b ++ (s ++ rest))) := by
  cases v with
  | null | bool b | number n | string s =>
    exact reads_scalar h (by rw [depth] <;> simp) hb hrest levels
  | array xs =>
    obtain - | - | - | - | - | ⟨ht⟩ := h
    rw [depth, List.cons_append]
    refine reads_succ _ (value_tooDeep hb (.inl rfl) _) (fun levels => ?_) levels
    rw [value_array hb]
    exact (reads_items xs ht rest levels (lt_length_append _ rest)).map Json.array
  | object ms =>
    obtain - | - | - | - | - | - | ⟨ht⟩ := h
    rw [depth, List.cons_append]
    refine reads_succ _ (value_tooDeep hb (.inr rfl) _) (fun levels => ?_) levels
    rw [value_object hb]
    exact (reads_members ms ht rest levels (lt_length_append _ rest)).map Json.object

/-- Every text of items is read up to the closing bracket. -/
theorem reads_items (xs : Items) {first : Bool} {t : List Char} (h : WrittenItems first xs t)
    (rest : List Char) (levels : Nat) {fuel : Nat} (hfuel : t.length < fuel) :
    Reads xs.depth levels xs rest (items (value levels) fuel first (t ++ rest)) := by
  obtain ⟨fuel, rfl⟩ := Nat.exists_eq_add_one_of_ne_zero (Nat.ne_of_gt (Nat.zero_lt_of_lt hfuel))
  cases xs with
  | nil =>
    obtain ⟨hb⟩ := h
    refine reads_zero ?_
    rw [items, List.append_assoc, List.singleton_append, nextItem_end hb]
    rfl
  | cons x xs =>
    obtain - | @⟨_, l, _, t, _, _, hl, hx, hxs⟩ := h
    have hitem := reads_value x hx blank_nil (hxs.bounded rest) levels
    obtain ⟨c, s, rfl, hc, -⟩ := hx.starts
    simp only [List.length_append, List.length_cons] at hfuel
    have htail := reads_items xs hxs rest levels (show t.length < fuel by omega)
    rw [Items.depth, items, List.append_assoc, List.append_assoc, List.cons_append,
      nextItem_lead hl hc]
    exact hitem.bind (htail.map (Items.cons x))

/-- Every text of members is read up to the closing brace. -/
theorem reads_members (ms : Members) {first : Bool} {t : List Char}
    (h : WrittenMembers first ms t) (rest : List Char) (levels : Nat) {fuel : Nat}
    (hfuel : t.length < fuel) :
    Reads ms.depth levels ms rest (members (value levels) fuel first (t ++ rest)) := by
  obtain ⟨fuel, rfl⟩ := Nat.exists_eq_add_one_of_ne_zero (Nat.ne_of_gt (Nat.zero_lt_of_lt hfuel))
  cases ms with
  | nil =>
    obtain ⟨hb⟩ := h
    refine reads_zero ?_
    rw [members, List.append_assoc, List.singleton_append, nextKey_end hb]
    rfl
  | cons key x ms =>
    obtain - | @⟨_, l, q, b, b', s, t, _, _, _, hl, hq, hb, hb', hx, hms⟩ := h
    have hvalue := reads_value x hx hb' (hms.bounded rest) levels
    simp only [List.length_append, List.length_cons] at hfuel
    have htail := reads_members ms hms rest levels (show t.length < fuel by omega)
    have htext : l ++ q ++ b ++ ':' :: b' ++ s ++ t ++ rest =
        l ++ (q ++ (b ++ ':' :: (b' ++ (s ++ (t ++ rest))))) := by simp
    rw [Members.depth, members, htext, nextKey_lead hl hq]
    show Reads _ _ _ _ (do
      let s ← colon (b ++ ':' :: (b' ++ (s ++ (t ++ rest))))
      let (value, s) ← value levels s
      let (tail, s) ← members (Reader.value levels) fuel false s
      return (Members.cons key value tail, s))
    rw [colon_append hb]
    exact hvalue.bind (htail.map (Members.cons key x))

end

/-- A whole text of a document that is not too deep is that document. -/
theorem ofChars_written {v : Json} {s b b' : List Char} (h : Written v s) (hb : Blank b)
    (hb' : Blank b') (hdepth : v.depth ≤ maxDepth) : ofChars (b ++ (s ++ b')) = .ok v := by
  have hbounded : Bounded b' := by simpa using bounded_append hb' bounded_nil
  have hfinish : finish b' = .ok () := by
    rw [finish, skipBlanks_eq_nil hb']
  rw [ofChars, (reads_value v h hb hbounded maxDepth).ok hdepth]
  show (do finish b'; return v) = _
  rw [hfinish]
  rfl

/-- A whole text of a document that is too deep is refused for that. -/
theorem ofChars_tooDeep {v : Json} {s b b' : List Char} (h : Written v s) (hb : Blank b)
    (hb' : Blank b') (hdepth : maxDepth < v.depth) :
    ∃ unread, ofChars (b ++ (s ++ b')) = .error ⟨.tooDeep, unread⟩ := by
  have hbounded : Bounded b' := by simpa using bounded_append hb' bounded_nil
  obtain ⟨unread, hfault⟩ := (reads_value v h hb hbounded maxDepth).tooDeep hdepth
  rw [ofChars, hfault]
  exact ⟨unread, rfl⟩

end Json

end PartyLine
