import Mathlib.Data.List.Infix
import Mathlib.Data.List.TakeWhile
import PartyLine.Proofs.Fanout.Order

/-!
# Windows

Of the moves made on a set, a subscriber has a *window*: what follows its insertion, up to the
first move that removes it, clears its flag or ends the set. It is to hear the notes of these
moves that it wants, one after the other, until it leaves by itself. Whoever is inserted after the
end is to hear of the end, and of nothing else.

All of this is read off the list of moves alone, whatever is stored meanwhile, and for one
subscriber at a time.

* `Subscriber.attended`: what is heard of some notes, `Subscriber.leaves` being the end of it;
* `Fanout.Entry.window`, `Fanout.Entry.transcript`: what a subscriber is to hear;
* `Fanout.expected`: what a move is to answer;
* `transcript_of_isPresent`, `of_not_isPresent`: what one move more makes of it.
-/

namespace PartyLine

namespace Subscriber

/-- Whether a subscriber asks to leave, having heard just this. -/
def leaves (s : Subscriber) (heard : List Note) : Bool := (s.respond heard).any (·.isLeave)

/-- What a subscriber hears of some notes: all up to the first on which it leaves. -/
def attended (s : Subscriber) (notes : List Note) : List Note :=
  (notes.inits.tail.find? s.leaves).getD notes

/-- Whether it leaves on none of them. -/
def stays (s : Subscriber) (notes : List Note) : Bool := !notes.inits.tail.any s.leaves

variable {s : Subscriber} {notes : List Note}

theorem tail_inits_append_singleton (notes : List Note) (n : Note) :
    (notes ++ [n]).inits.tail = notes.inits.tail ++ [notes ++ [n]] := by
  rw [List.inits_append]
  cases notes <;> simp

theorem attended_of_stays (h : s.stays notes) : s.attended notes = notes := by
  have hnone : notes.inits.tail.find? s.leaves = none := by
    simpa [stays, List.find?_eq_none] using h
  rw [attended, hnone, Option.getD_none]

theorem stays_append_singleton (n : Note) :
    s.stays (notes ++ [n]) = (s.stays notes && !s.leaves (notes ++ [n])) := by
  rw [stays, stays, tail_inits_append_singleton, List.any_append]
  simp

/-- The note on which it leaves is still heard. -/
theorem attended_append_singleton_of_stays (h : s.stays notes) (n : Note) :
    s.attended (notes ++ [n]) = notes ++ [n] := by
  have hnone : notes.inits.tail.find? s.leaves = none := by
    simpa [stays, List.find?_eq_none] using h
  rw [attended, tail_inits_append_singleton, List.find?_append, hnone, Option.none_or,
    List.find?_singleton]
  split <;> rfl

/-- After it has left nothing is. -/
theorem attended_append_singleton_of_not_stays (h : s.stays notes = false) (n : Note) :
    s.attended (notes ++ [n]) = s.attended notes := by
  obtain ⟨first, hfirst⟩ : ∃ first, notes.inits.tail.find? s.leaves = some first := by
    rw [← Option.isSome_iff_exists, List.find?_isSome]
    simpa [stays] using h
  rw [attended, attended, tail_inits_append_singleton, List.find?_append, hfirst]
  rfl

end Subscriber

namespace Fanout

/-! ## The specification -/

namespace Move

/-- Whether a move inserts the subscriber of that number. -/
def inserts (id : Nat) (m : Move) : Bool := m.entry?.any (·.id == id)

/-- Whether a move clears that flag. -/
def clears (i : Nat) : Move → Bool
  | clear j => j == i
  | call _ => false

/-- How a move ends the set. -/
def end? : Move → Option Termination
  | call (.terminate t) => some t
  | _ => none

/-- What a move has to tell. -/
def note? : Move → Option Note
  | call (.deliver e) => some (.message e)
  | call (.report e) => some (.error e)
  | call (.terminate t) => some t.note
  | _ => none

end Move

/-- How some moves end the set: the first end counts. -/
def endOf? (moves : List Move) : Option Termination := moves.findSome? Move.end?

namespace Entry

variable (e : Entry) (moves : List Move)

/-- Whether a move takes the entry out of the set. -/
def takenOutBy : Move → Bool
  | .call (.remove id) => e.id == id
  | .call (.terminate _) => true
  | _ => false

/-- Whether a move closes the entry's window. -/
def closedBy (m : Move) : Bool := e.takenOutBy m || m.clears e.listener

/-- The moves before its insertion. -/
def before : List Move := moves.takeWhile (!·.inserts e.id)

/-- The moves after its insertion. -/
def after : List Move := (moves.dropWhile (!·.inserts e.id)).tail

/-- The moves after its insertion, up to the one that closes its window. -/
def window : List Move :=
  (e.after moves).takeWhile (!e.closedBy ·) ++ ((e.after moves).find? e.closedBy).toList

/-- The notes in its window for which it has a callback. -/
def offered : List Note := ((e.window moves).filterMap Move.note?).filter e.subscriber.wants

/-- All that it hears. -/
def transcript : List Note :=
  match endOf? (e.before moves) with
  | some t => [t.note].filter e.subscriber.wants
  | none => e.subscriber.attended (e.offered moves)

/-- Whether it is stored after these moves. -/
def isStored : Bool := (endOf? (e.before moves)).isNone && !(e.after moves).any e.takenOutBy

/-- Whether it is stored with its flag set: its window is open and it has not left. -/
def isPresent : Bool :=
  (endOf? (e.before moves)).isNone && !(e.after moves).any e.closedBy &&
    e.subscriber.stays (e.offered moves)

end Entry

/-- What a move answers that comes after these. -/
def expected (moves : List Move) : Move → Answer
  | .call (.insert _) => .stored (endOf? moves).isNone
  | .call (.remove id) => .removed ((inserted moves).any fun e => e.id == id && e.isStored moves)
  | .call (.deliver _) | .call (.report _) | .call (.terminate _) =>
      .reached ((inserted moves).countP (·.isPresent moves))
  | .clear _ => .nothing

/-! ## One move more -/

theorem endOf?_append_singleton (moves : List Move) (m : Move) :
    endOf? (moves ++ [m]) = (endOf? moves).or m.end? := by
  simp [endOf?, List.findSome?_append]

namespace Entry

variable {e : Entry} {moves : List Move} {m : Move}

theorem exists_inserts (he : e ∈ inserted moves) : ∃ m ∈ moves, m.inserts e.id := by
  obtain ⟨m, hm, he⟩ := List.mem_filterMap.1 he
  exact ⟨m, hm, by simp [Move.inserts, he]⟩

theorem before_append (he : e ∈ inserted moves) (ms : List Move) :
    e.before (moves ++ ms) = e.before moves := by
  obtain ⟨m, hm, hinserts⟩ := exists_inserts he
  rw [before, before, List.takeWhile_append, if_neg]
  intro hlength
  have hall := List.takeWhile_eq_self_iff.1 ((List.takeWhile_prefix _).eq_of_length hlength)
  simpa [hinserts] using hall m hm

theorem after_append (he : e ∈ inserted moves) (ms : List Move) :
    e.after (moves ++ ms) = e.after moves ++ ms := by
  obtain ⟨m, hm, hinserts⟩ := exists_inserts he
  have hne : moves.dropWhile (!·.inserts e.id) ≠ [] := by
    intro hnil
    simpa [hinserts] using List.dropWhile_eq_nil_iff.1 hnil m hm
  rw [after, after, List.dropWhile_append, if_neg (by simpa using hne),
    List.tail_append_of_ne_nil hne]

/-- A number that is new is not inserted before. -/
theorem not_inserts {id : Nat} (hid : id ∉ (inserted moves).map (·.id)) :
    ∀ m ∈ moves, (!m.inserts id) = true := by
  intro m hm
  rw [Bool.not_eq_true', Bool.eq_false_iff]
  intro hinserts
  obtain ⟨e, he, hid'⟩ := (Option.any_eq_true _ _).1 hinserts
  exact hid (List.mem_map.2 ⟨e, List.mem_filterMap.2 ⟨m, hm, he⟩, by simpa using hid'⟩)

theorem inserts_insert (e : Entry) : (Move.call (.insert e)).inserts e.id = true := by
  simp [Move.inserts, Move.entry?]

/-- The entry that the last move inserts. -/
theorem before_insert (hid : e.id ∉ (inserted moves).map (·.id)) :
    e.before (moves ++ [.call (.insert e)]) = moves := by
  rw [before, List.takeWhile_append_of_pos (not_inserts hid)]
  simp [inserts_insert]

theorem after_insert (hid : e.id ∉ (inserted moves).map (·.id)) :
    e.after (moves ++ [.call (.insert e)]) = [] := by
  rw [after, List.dropWhile_append_of_pos (not_inserts hid)]
  simp [inserts_insert]

/-- The window grows until a move closes it. -/
theorem window_append_singleton (he : e ∈ inserted moves) (m : Move) :
    e.window (moves ++ [m]) =
      if (e.after moves).any e.closedBy then e.window moves else e.window moves ++ [m] := by
  rw [window, window, after_append he]
  split
  · next hclosed =>
    obtain ⟨x, hx, hcloses⟩ := List.any_eq_true.1 hclosed
    rw [List.takeWhile_append, if_neg, List.find?_append]
    · obtain ⟨y, hy⟩ : ∃ y, (e.after moves).find? e.closedBy = some y := by
        rw [← Option.isSome_iff_exists, List.find?_isSome]
        exact ⟨x, hx, hcloses⟩
      rw [hy]
      rfl
    · intro hlength
      have hall := List.takeWhile_eq_self_iff.1 ((List.takeWhile_prefix _).eq_of_length hlength)
      simpa [hcloses] using hall x hx
  · next hopen =>
    have hopen : ∀ x ∈ e.after moves, e.closedBy x = false := by simpa using hopen
    have hnone : (e.after moves).find? e.closedBy = none := by
      simpa [List.find?_eq_none] using hopen
    have hself : (e.after moves).takeWhile (!e.closedBy ·) = e.after moves :=
      List.takeWhile_eq_self_iff.2 fun x hx => by simp [hopen x hx]
    rw [List.takeWhile_append_of_pos fun x hx => by simp [hopen x hx], List.find?_append, hnone,
      hself]
    cases hm : e.closedBy m <;> simp [hm]

/-- What is wanted of what a move has to tell. -/
def heardOf (e : Entry) (m : Move) : List Note := m.note?.toList.filter e.subscriber.wants

theorem offered_append_singleton (he : e ∈ inserted moves) (m : Move) :
    e.offered (moves ++ [m]) =
      if (e.after moves).any e.closedBy then e.offered moves
      else e.offered moves ++ e.heardOf m := by
  rw [offered, window_append_singleton he]
  split
  · rfl
  · rw [List.filterMap_append, List.filter_append, offered, heardOf]
    cases h : m.note? <;> simp [h]

theorem heardOf_eq_nil_or (e : Entry) (m : Move) :
    e.heardOf m = [] ∨ ∃ n, e.heardOf m = [n] := by
  rw [heardOf]
  cases m.note? with
  | none => exact .inl rfl
  | some n =>
    rw [Option.toList_some, List.filter_singleton]
    cases e.subscriber.wants n with
    | true => exact .inr ⟨n, rfl⟩
    | false => exact .inl rfl

theorem isPresent_iff : e.isPresent moves ↔ endOf? (e.before moves) = none ∧
    (e.after moves).any e.closedBy = false ∧ e.subscriber.stays (e.offered moves) := by
  simp [isPresent, and_assoc]

/-- Whoever is present has heard all that it was offered. -/
theorem transcript_eq_offered (h : e.isPresent moves) : e.transcript moves = e.offered moves := by
  obtain ⟨hbefore, -, hstays⟩ := isPresent_iff.1 h
  rw [transcript, hbefore]
  exact Subscriber.attended_of_stays hstays

/-- Whoever is present hears of a move. -/
theorem transcript_of_isPresent (he : e ∈ inserted moves) (h : e.isPresent moves) (m : Move) :
    e.transcript (moves ++ [m]) = e.transcript moves ++ e.heardOf m := by
  obtain ⟨hbefore, hopen, hstays⟩ := isPresent_iff.1 h
  rw [transcript_eq_offered h, transcript, before_append he, hbefore]
  dsimp only
  rw [offered_append_singleton he, if_neg (by simp [hopen])]
  obtain hnone | ⟨n, hn⟩ := heardOf_eq_nil_or e m
  · rw [hnone, List.append_nil, Subscriber.attended_of_stays hstays]
  · rw [hn, Subscriber.attended_append_singleton_of_stays hstays]

/-- It is still there if the move does not close its window and it does not leave. -/
theorem isPresent_append_singleton (he : e ∈ inserted moves) (h : e.isPresent moves) (m : Move) :
    e.isPresent (moves ++ [m]) =
      (!e.closedBy m && e.subscriber.stays (e.transcript moves ++ e.heardOf m)) := by
  obtain ⟨hbefore, hopen, -⟩ := isPresent_iff.1 h
  rw [isPresent, before_append he, after_append he, hbefore, transcript_eq_offered h,
    offered_append_singleton he, if_neg (by simp [hopen]), List.any_append, hopen]
  simp

/-- Whoever is not present hears nothing and does not come back. -/
theorem of_not_isPresent (he : e ∈ inserted moves) (h : e.isPresent moves = false) (m : Move) :
    e.transcript (moves ++ [m]) = e.transcript moves ∧ e.isPresent (moves ++ [m]) = false := by
  rw [transcript, transcript, isPresent, before_append he, after_append he,
    offered_append_singleton he]
  cases hbefore : endOf? (e.before moves) with
  | some t => simp
  | none =>
    cases hclosed : (e.after moves).any e.closedBy with
    | true => simp [hclosed]
    | false =>
      -- it has left by itself
      have hstays : e.subscriber.stays (e.offered moves) = false := by
        simpa [isPresent, hbefore, hclosed] using h
      obtain hnone | ⟨n, hn⟩ := heardOf_eq_nil_or e m
      · simp [hnone, hstays]
      · simp only [hn, Bool.false_eq_true, if_false]
        rw [Subscriber.attended_append_singleton_of_not_stays hstays,
          Subscriber.stays_append_singleton, hstays]
        simp

/-- A move that tells nothing and does not close its window. -/
theorem of_silent (he : e ∈ inserted moves) (hm : m.note? = none) (hopen : e.closedBy m = false) :
    e.transcript (moves ++ [m]) = e.transcript moves ∧
      e.isPresent (moves ++ [m]) = e.isPresent moves := by
  have hnone : e.heardOf m = [] := by simp [heardOf, hm]
  cases h : e.isPresent moves with
  | true =>
    obtain ⟨-, -, hstays⟩ := isPresent_iff.1 h
    rw [transcript_of_isPresent he h, isPresent_append_singleton he h, hnone, List.append_nil,
      hopen, transcript_eq_offered h, hstays]
    exact ⟨rfl, rfl⟩
  | false => exact of_not_isPresent he h m

theorem isStored_append_singleton (he : e ∈ inserted moves) (m : Move) :
    e.isStored (moves ++ [m]) = (e.isStored moves && !e.takenOutBy m) := by
  rw [isStored, isStored, before_append he, after_append he, List.any_append]
  simp [Bool.and_assoc]

section New

variable (hid : e.id ∉ (inserted moves).map (·.id))

include hid

theorem isStored_insert :
    e.isStored (moves ++ [.call (.insert e)]) = (endOf? moves).isNone := by
  simp [isStored, before_insert hid, after_insert hid]

theorem isPresent_insert :
    e.isPresent (moves ++ [.call (.insert e)]) = (endOf? moves).isNone := by
  simp [isPresent, offered, window, before_insert hid, after_insert hid, Subscriber.stays]

theorem transcript_insert : e.transcript (moves ++ [.call (.insert e)]) =
    (endOf? moves).elim [] fun t => [t.note].filter e.subscriber.wants := by
  rw [transcript, offered, window, before_insert hid, after_insert hid]
  cases endOf? moves <;> rfl

end New

end Entry

end Fanout

end PartyLine
