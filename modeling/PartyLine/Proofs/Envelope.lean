import PartyLine.Envelope
import PartyLine.Proofs.Json.Normal
import PartyLine.Proofs.Json.Reading

/-!
# Envelopes on the wire

An envelope comes back from its frame, whatever text it carries and however its data is
built, as long as the data is not nested too deeply. The object that an envelope is on the
wire takes one of the levels that a reader allows; data that takes all of them is refused
for its depth, and for nothing else.

The round trip goes through documents. The frame is a text of the document that the envelope is
written as (`written_encode`); what a reader makes of a text of a document with whole numbers is
that document, or the refusal of its depth (`PartyLine.Proofs.Json`); and from the document the
envelope is read again, member by member (`ofPayload_toJson`). Only the middle part looks at
characters. The depth of the document is one more than that of the data, which puts the bound at
126 levels of data.

* `ofPayload_toJson`: an envelope is read from the document that it is written as;
* `written_encode`, `depth_toJson`: its frame is a text of that document;
* `decode_encode`: the round trip, and where it ends.
-/

namespace PartyLine

namespace Envelope

/-- On the wire the kind comes first; in the normal form the data does. -/
theorem normalize_toJson (e : Envelope) : e.toJson.normalize =
    .object (.cons "data" e.data.document (.cons "type" (.string e.kind) .nil)) := by
  have hdata := Json.normalize_of_normal _ e.data.normal
  have hkeys : "data" < "type" := by decide
  have hback : ¬"type" < "data" := by decide
  simp only [toJson, Json.normalize, Json.Members.normalize, Json.Members.insert, hdata, hkeys,
    hback, if_true, if_false]

/-- The data and the kind of an envelope are read from the members in their normal form. -/
theorem ofPayload_object (kind : String) (data : Payload)
    (h : (Json.object (.cons "data" data.document (.cons "type" (.string kind) .nil))).normal) :
    ofPayload ⟨_, h⟩ = .ok { kind, data } := by
  rfl

/-- An envelope is read from the document that it is written as. -/
theorem ofPayload_toJson (e : Envelope) : ofPayload (Payload.ofJson e.toJson) = .ok e := by
  have hnormal := e.toJson.normal_normalize
  have hpayload : Payload.ofJson e.toJson = ⟨e.toJson.normalize, hnormal⟩ := rfl
  rw [hpayload]
  simp only [normalize_toJson]
  exact ofPayload_object e.kind e.data _

/-- The object of an envelope costs one level. -/
theorem depth_toJson (e : Envelope) : e.toJson.depth = e.data.document.depth + 1 := by
  simp [toJson, Json.depth, Json.Members.depth]

/-- The frame of an envelope whose data has whole numbers is a text of its document. -/
theorem written_encode (e : Envelope) (h : e.data.document.integral) :
    Json.Written e.toJson e.encode.toList := by
  have hintegral : e.toJson.integral := by simp [toJson, Json.integral, Json.Members.integral, h]
  rw [encode, Json.text, String.toList_ofList]
  exact Json.written_render e.toJson hintegral

/-- Reading the frame of an envelope, any data with whole numbers in it: the envelope comes
    back if its data is nested at most 126 deep; if it is nested deeper the frame is refused,
    as a whole, for the limit of nesting. -/
theorem decode_encode (e : Envelope) (h : e.data.document.integral) :
    (e.data.document.depth ≤ 126 → decode e.encode = .ok e) ∧
      (127 ≤ e.data.document.depth → ∃ position : Json.Position, decode e.encode = .error
        { reason := "recursion limit exceeded" ++ position.suffix, frame := e.encode }) := by
  have hwritten := written_encode e h
  refine ⟨fun hdepth => ?_, fun hdepth => ?_⟩
  · have hread : Json.ofChars e.encode.toList = .ok e.toJson := by
      simpa using Json.ofChars_written hwritten Json.blank_nil Json.blank_nil
        (show e.toJson.depth ≤ 127 by rw [depth_toJson]; omega)
    have hparse : Payload.parse e.encode = .ok (Payload.ofJson e.toJson) := by
      rw [Payload.parse, Json.parse, hread]
      rfl
    rw [decode, read, hparse]
    show (ofPayload (Payload.ofJson e.toJson)).mapError _ = _
    rw [ofPayload_toJson]
    rfl
  · obtain ⟨unread, hfault⟩ := Json.ofChars_tooDeep hwritten Json.blank_nil Json.blank_nil
      (show 127 < e.toJson.depth by rw [depth_toJson]; omega)
    rw [List.nil_append, List.append_nil] at hfault
    have hparse : ∃ position, Payload.parse e.encode = .error ⟨.tooDeep, position⟩ := by
      rw [Payload.parse, Json.parse, hfault]
      exact ⟨_, rfl⟩
    obtain ⟨position, hparse⟩ := hparse
    refine ⟨position, ?_⟩
    rw [decode, read, hparse]
    rfl

/-- Data in so many arrays, one in the other. -/
def nested : Nat → Json
  | 0 => .object (.cons "\"\\\n" (.number (.integer (-0x8000000000000000) (by decide))) .nil)
  | n + 1 => .array (.cons (nested n) .nil)

/-- It is a payload of whole numbers, one level deeper than there are arrays. -/
theorem nested_spec (n : Nat) :
    (nested n).normal ∧ (nested n).integral ∧ (nested n).depth = n + 1 := by
  induction n with
  | zero => exact ⟨rfl, rfl, rfl⟩
  | succ n ih =>
    simp only [nested, Json.normal, Json.Items.normal, Json.integral, Json.Items.integral,
      Json.depth, Json.Items.depth]
    simpa using ih

/-- The envelope of that data. -/
def ofNested (n : Nat) : Envelope := { kind := "deep", data := ⟨nested n, (nested_spec n).1⟩ }

theorem decode_encode_nested : decode (ofNested 125).encode = .ok (ofNested 125) ∧
    ∃ position : Json.Position, decode (ofNested 126).encode = .error
      { reason := "recursion limit exceeded" ++ position.suffix
        frame := (ofNested 126).encode } := by
  obtain ⟨-, hintegral, hdepth⟩ := nested_spec 125
  obtain ⟨-, hintegral', hdepth'⟩ := nested_spec 126
  exact ⟨(decode_encode (ofNested 125) hintegral).1 (Nat.le_of_eq hdepth),
    (decode_encode (ofNested 126) hintegral').2 (Nat.le_of_eq hdepth'.symm)⟩

end Envelope

end PartyLine
