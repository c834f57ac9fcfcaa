/-!
# Dates and times

A moment as TOML writes it: a date, a time or both, and then possibly an offset
from universal time. Seconds may be left out.

* `Toml.Datetime.read?`: the moment of a text;
* `Toml.Datetime.text`: its text in one standard form.
-/

namespace PartyLine

namespace Toml

/-- A day of the calendar. -/
structure Date where
  year : Nat
  month : Nat
  day : Nat
  deriving DecidableEq

/-- A time of day. -/
structure Time where
  hour : Nat
  minute : Nat
  second : Option Nat := none
  /-- The nanoseconds, of which at most nine digits are kept. -/
  nanosecond : Option Nat := none
  deriving DecidableEq

/-- How far a local time is ahead of universal time. -/
inductive Offset where
  | zulu
  | minutes (ahead : Int)
  deriving DecidableEq

/-- A date, a time or both. -/
structure Datetime where
  date : Option Date := none
  time : Option Time := none
  offset : Option Offset := none
  deriving DecidableEq

namespace Datetime

/-- The natural of so many digits in front of a text, and the rest. -/
def digits? (count : Nat) (s : List Char) : Option (Nat × List Char) :=
  let front := s.take count
  if front.length = count ∧ front.all Char.isDigit then
    some (front.foldl (fun n c => 10 * n + (c.toNat - '0'.toNat)) 0, s.drop count)
  else none

/-- The rest of a text after a mark. -/
def mark? (mark : Char) : List Char → Option (List Char)
  | c :: s => if c = mark then some s else none
  | [] => none

/-- Whether a year has a 29th of February. -/
def isLeap (year : Nat) : Bool := year % 4 == 0 && (year % 100 != 0 || year % 400 == 0)

/-- The number of days in a month. -/
def daysIn (year month : Nat) : Nat :=
  if month = 2 then (if isLeap year then 29 else 28)
  else if [4, 6, 9, 11].contains month then 30 else 31

/-- A date in front of a text. -/
def date? (s : List Char) : Option (Date × List Char) := do
  let (year, s) ← digits? 4 s
  let s ← mark? '-' s
  let (month, s) ← digits? 2 s
  let s ← mark? '-' s
  let (day, s) ← digits? 2 s
  if 1 ≤ month ∧ month ≤ 12 ∧ 1 ≤ day ∧ day ≤ daysIn year month then
    return ({ year, month, day }, s)
  else none

/-- A fraction of a second in nanoseconds, in front of a text. -/
def fraction? (s : List Char) : Option (Option Nat × List Char) :=
  match s with
  | '.' :: s =>
      let digits := s.takeWhile Char.isDigit
      if digits.isEmpty then none
      else (digits? 9 ((digits ++ List.replicate 9 '0').take 9)).map fun (n, _) =>
        (some n, s.drop digits.length)
  | s => some (none, s)

/-- A time in front of a text. -/
def time? (s : List Char) : Option (Time × List Char) := do
  let (hour, s) ← digits? 2 s
  let s ← mark? ':' s
  let (minute, s) ← digits? 2 s
  if 23 < hour ∨ 59 < minute then failure
  match s with
  | ':' :: s =>
      let (second, s) ← digits? 2 s
      if 60 < second then failure
      let (nanosecond, s) ← fraction? s
      return ({ hour, minute, second := some second, nanosecond }, s)
  | s => return ({ hour, minute }, s)

/-- An offset that is all of a text. -/
def offset? (s : List Char) : Option (Option Offset) :=
  let ahead (sign : Int) (s : List Char) : Option (Option Offset) := do
    let (hours, s) ← digits? 2 s
    let s ← mark? ':' s
    let (minutes, s) ← digits? 2 s
    if s.isEmpty ∧ hours ≤ 23 ∧ minutes ≤ 59 then
      return some (.minutes (sign * (60 * hours + minutes : Nat)))
    else none
  match s with
  | [] => some none
  | ['Z'] | ['z'] => some (some .zulu)
  | '+' :: s => ahead 1 s
  | '-' :: s => ahead (-1) s
  | _ => none

/-- The moment that a text is. -/
def read? (s : List Char) : Option Datetime :=
  match date? s with
  | some (date, []) => some { date := some date }
  | some (date, c :: s) => do
      if c ≠ 'T' ∧ c ≠ 't' ∧ c ≠ ' ' then failure
      let (time, s) ← time? s
      return { date := some date, time := some time, offset := ← offset? s }
  | none => do
      let (time, s) ← time? s
      if s.isEmpty then return { time := some time } else none

/-- A natural with at least so many digits. -/
def padded (count n : Nat) : List Char :=
  let digits := Nat.toDigits 10 n
  List.replicate (count - digits.length) '0' ++ digits

/-- The text of a date. -/
def dateText (d : Date) : List Char :=
  padded 4 d.year ++ '-' :: padded 2 d.month ++ '-' :: padded 2 d.day

/-- The text of a time; zeros at the end of a fraction are left out but for one. -/
def timeText (t : Time) : List Char :=
  padded 2 t.hour ++ ':' :: padded 2 t.minute ++
    (t.second.elim [] fun s => ':' :: padded 2 s) ++
    (t.nanosecond.elim [] fun n =>
      let digits := ((padded 9 n).reverse.dropWhile (· == '0')).reverse
      '.' :: if digits.isEmpty then ['0'] else digits)

/-- The text of an offset. -/
def offsetText : Offset → List Char
  | .zulu => ['Z']
  | .minutes ahead =>
      (if ahead < 0 then '-' else '+') ::
        padded 2 (ahead.natAbs / 60) ++ ':' :: padded 2 (ahead.natAbs % 60)

/-- The standard text of a moment. -/
def text (m : Datetime) : String :=
  String.ofList (m.date.elim [] dateText ++
    (if m.date.isSome ∧ m.time.isSome then ['T'] else []) ++
    m.time.elim [] timeText ++ m.offset.elim [] offsetText)

end Datetime

end Toml

end PartyLine
