import PartyLine.Proofs.Frame
import PartyLine.Proofs.Json.Printed

/-!
# Doubles on the wire

An envelope whose data has doubles comes back from its frame with each of them as it is read from
its own digits, and otherwise unchanged. Reading rounds the digits to a double and then the
product with a power of ten, so not every double is what it was: those are whose digits, as they
are printed, are themselves a double, if the power of ten is one too, but of others with sixteen
or seventeen digits the last bits may be lost.

Which doubles come back is decided double by double. Printing and reading a document change
nothing in it but its doubles (`PartyLine.Proofs.Json.Printed`), so that the frame of an envelope
is read as the envelope exactly if each double in it is read as itself. That in turn is said of
the digits and the exponent with which it is printed (`Double.reread`,
`PartyLine.Proofs.Json.Double`), without a word of text, and decided by evaluation for any double
in question.

* `decode_encode_eq_ok_iff`: what an envelope is read as again;
* `doubles_survive`: which envelopes come back, and doubles that always do;
* `not_doubles_survive`: one that does not.
-/

namespace PartyLine

namespace Envelope

variable {e e' : Envelope}

/-- The document of an envelope is read again if its data is. -/
theorem reread_toJson (e : Envelope) : e.toJson.reread = e.data.document.reread.map fun d =>
    .object (.cons "type" (.string e.kind) (.cons "data" d .nil)) := by
  simp only [toJson, Json.reread, Json.Members.reread, Option.bind_some, Option.map_bind,
    Option.map_some]
  cases e.data.document.reread <;> rfl

/-- An envelope is read again with its kind, and with its data as far as doubles allow. -/
theorem decode_encode_eq_ok_iff (hdepth : e.data.document.depth ≤ 126) :
    decode e.encode = .ok e' ↔
      e'.kind = e.kind ∧ e.data.document.reread = some e'.data.document := by
  have hlevels : e.toJson.depth ≤ Json.Reader.maxDepth := by
    rw [depth_toJson]
    exact Nat.succ_le_succ hdepth
  have htext : e.encode.toList = e.toJson.render := String.toList_ofList
  have hread := fun w => Json.ofChars_render (w := w) hlevels
  rw [reread_toJson, ← htext] at hread
  cases hdata : e.data.document.reread with
  | none =>
    rw [hdata] at hread
    refine ⟨fun h => ?_, fun h => (by cases h.2)⟩
    cases hchars : Json.ofChars e.encode.toList with
    | ok v => cases (hread v).1 hchars
    | error f =>
      obtain ⟨reason, hreason⟩ := decode_of_error hchars
      cases hreason.symm.trans h
  | some d =>
    rw [hdata] at hread
    have hnormal : d.normal := (Json.normal_of_reread hdata).trans e.data.normal
    have hdecode : decode e.encode = .ok { kind := e.kind, data := ⟨d, hnormal⟩ } := by
      rw [decode_of_ofChars ((hread _).2 rfl)]
      exact congrArg (Except.mapError _) (ofPayload_toJson { kind := e.kind, data := ⟨d, hnormal⟩ })
    rw [hdecode]
    constructor
    · intro h
      cases h
      exact ⟨rfl, rfl⟩
    · obtain ⟨kind, document, _⟩ := e'
      rintro ⟨rfl, hdocument⟩
      cases hdocument
      rfl

/-- An envelope whose data is not nested too deeply comes back exactly if all its doubles are
    read as themselves. A double is, if its digits as they are printed are a double and the power
    of ten is. -/
theorem doubles_survive (e : Envelope) (hdepth : e.data.document.depth ≤ 126) :
    (decode e.encode = .ok e ↔ ∀ x ∈ e.data.document.doubles, x.reread = some x) ∧
      ((∀ x ∈ e.data.document.doubles, x.RoundsOnce) → decode e.encode = .ok e) := by
  have hback : decode e.encode = .ok e ↔ ∀ x ∈ e.data.document.doubles, x.reread = some x := by
    rw [decode_encode_eq_ok_iff hdepth, ← Json.reread_eq_some_iff]
    exact and_iff_right rfl
  exact ⟨hback, fun h => hback.2 fun x hx => (h x hx).reread⟩

/-- Data of some doubles: `2.5`, `0.1`, `-1e22`, `1.5e-7`, `300.0` and a negative zero. -/
def readings : Json :=
  .object (.cons "v" (.array (.ofList [
    .number (.double ⟨false, 0x14000000000000, -51, by decide⟩),
    .number (.double ⟨false, 0x1999999999999a, -56, by decide⟩),
    .number (.double ⟨true, 0x10f0cf064dd592, 21, by decide⟩),
    .number (.double ⟨false, 0x1421f5f40d8376, -75, by decide⟩),
    .number (.double ⟨false, 0x12c00000000000, -44, by decide⟩),
    .number (.double (.zero true))])) .nil)

theorem doubles_survive_readings :
    decode (encode { kind := "readings", data := ⟨readings, rfl⟩ }) =
      .ok { kind := "readings", data := ⟨readings, rfl⟩ } := by
  refine (doubles_survive { kind := "readings", data := ⟨readings, rfl⟩ } (by decide)).2 ?_
  have hall : ∀ x ∈ readings.doubles, x.decimal.1 < 2 ^ 53 ∧ x.decimal.2.natAbs ≤ 22 := by
    decide +kernel
  exact fun x hx => Double.roundsOnce_of_lt (hall x hx).1 (hall x hx).2

/-- The envelope of a double of 53 bits. -/
def ofDouble (significand : Nat)
    (h : 0x10000000000000 ≤ significand ∧ significand < 0x20000000000000) : Envelope where
  kind := "x"
  data := ⟨.number (.double ⟨false, significand, 0, h.2, by decide, by decide, .inl h.1⟩), rfl⟩

/-- The greatest odd one, `9007199254740991.0`, comes back as its even neighbour: its digits
    with the zero behind the point are more than 53 bits. -/
theorem not_doubles_survive :
    decode (ofDouble 9007199254740991 (by decide)).encode =
        .ok (ofDouble 9007199254740990 (by decide)) ∧
      ¬ ∀ e : Envelope, e.data.document.depth ≤ 126 → decode e.encode = .ok e := by
  have hdecode : decode (ofDouble 9007199254740991 (by decide)).encode =
      .ok (ofDouble 9007199254740990 (by decide)) :=
    (decode_encode_eq_ok_iff (by decide)).2 ⟨rfl, by decide +kernel⟩
  refine ⟨hdecode, fun h => ?_⟩
  have hsame := hdecode.symm.trans (h (ofDouble 9007199254740991 (by decide)) (by decide))
  exact absurd (Except.ok.inj hsame) (by decide)

end Envelope

end PartyLine
