import PartyLine.Proofs.Envelope
import PartyLine.Proofs.Json.Depth
import PartyLine.Proofs.Record

/-!
# Frames

Which frames are envelopes, and of which. Of an object its last member `type` must be a
string, and its last member `data`, if there is one, is the data; what else it has is of no
account, wherever it stands. Whatever begins like no object is refused.

A frame is read in two steps, of which only the first looks at characters. Any text of an object,
however it is spelled and spaced, is read as the payload of its members, and it is of these that
the rest is said: the last `type`, the last `data`. Since a payload is a document in normal form,
lookups in it are lookups of the last member of a name.

Whoever has read an envelope from a frame can send it on: the frame that it is written in is
read as the same envelope, since data that has been read leaves a level for the object around
it. No bound on the depth is asked for, as the reader has kept it.

* `ofPayload_typed`, `ofPayload_untyped`, `ofPayload_mistyped`: the envelope of an object;
* `decode_of_ofChars`, `decode_of_members`: the envelope of a text that has been read;
* `decode_object`: the frames that are envelopes;
* `decode_encode_of_decode`: sending on.
-/

namespace PartyLine

namespace Envelope

/-! ## Objects -/

section Object

variable {ms : Json.Members} (h : (Json.object ms).normal)

include h in
theorem normal_members : ms.normal := by
  rwa [Json.normal] at h

/-- The envelope of an object comes from its members, which are checked first. -/
theorem ofPayload_members : ofPayload ⟨.object ms, h⟩ = ((do
    Schema.checkMembers schema.fields ms (normal_members h)
    Schema.readMembers schema.fields ms (normal_members h)).map ofValues).mapError .shape := rfl

/-- Once the check has passed the fields are read. -/
theorem ofPayload_of_checkMembers
    (hcheck : Schema.checkMembers schema.fields ms (normal_members h) = .ok ()) :
    ofPayload ⟨.object ms, h⟩ =
      ((Schema.readMembers schema.fields ms (normal_members h)).map ofValues).mapError .shape := by
  rw [ofPayload_members, hcheck]
  rfl

/-- What is no string is no type. -/
theorem read_text {v : Json} (hv : v.normal) (hstring : ∀ kind, v ≠ .string kind) :
    FieldType.text.read v hv = .error (.invalidType (.ofJson v) "a string") := by
  cases v with
  | string kind => exact absurd rfl (hstring kind)
  | null | bool | number | array | object => rfl

/-- The field of the type. -/
def typeField : Field := { name := "type", type := .text }

/-- The field of the data. -/
def dataField : Field := { name := "data", type := .anything, absent := some .null }

theorem mem_fields {f : Field} (h : f ∈ schema.fields) : f = typeField ∨ f = dataField := by
  have h : f ∈ [typeField, dataField] := h
  simpa using h

/-- Of the two fields only the type can be ill-typed. -/
theorem read_field {f : Field} (hf : f ∈ schema.fields) (hname : f.name ≠ "type") (v : Json)
    (hv : v.normal) : ∃ y, f.type.read v hv = .ok y := by
  rcases mem_fields hf with rfl | rfl
  · exact absurd rfl hname
  · exact ⟨⟨v, hv⟩, by simp [dataField, FieldType.read]⟩

/-- The data is what is under its name, or null. -/
theorem readMembers_data {data : Payload}
    (hdata : data.document = (ms.get? "data").getD .null) :
    Schema.readMembers [dataField] ms (normal_members h) = .ok (data, ()) := by
  obtain ⟨v, hv⟩ := data
  cases hget : ms.get? "data" with
  | none =>
    obtain rfl : v = .null := by rw [hget] at hdata; exact hdata
    exact Schema.readMembers_default (f := dataField) _ hget rfl
  | some w =>
    obtain rfl : v = w := by rw [hget] at hdata; exact hdata
    have hread : dataField.type.read v hv = .ok ⟨v, hv⟩ := by simp [dataField, FieldType.read]
    exact Schema.readMembers_present (f := dataField) _ hv hget hread

/-- An object whose type is a string is an envelope. -/
theorem ofPayload_typed {kind : String} {data : Payload}
    (htype : ms.get? "type" = some (.string kind))
    (hdata : data.document = (ms.get? "data").getD .null) :
    ofPayload ⟨.object ms, h⟩ = .ok { kind, data } := by
  have hcheck : Schema.checkMembers schema.fields ms (normal_members h) = .ok () := by
    refine Schema.checkMembers_eq_ok _ fun f hf v hv hget => ?_
    by_cases hname : f.name = "type"
    · obtain rfl : v = .string kind := Option.some.inj (by rw [← hget, hname, htype])
      -- the data has another name
      rcases mem_fields hf with rfl | rfl
      · exact ⟨kind, rfl⟩
      · exact absurd hname (by decide)
    · exact read_field hf hname v hv
  have hread : Schema.readMembers schema.fields ms (normal_members h) = .ok (kind, data, ()) :=
    (Schema.readMembers_present (f := typeField) _ rfl htype rfl).trans
      (congrArg (Except.map (Prod.mk kind)) (readMembers_data h hdata))
  rw [ofPayload_of_checkMembers h hcheck, hread]
  rfl

/-- An object without a type is none. -/
theorem ofPayload_untyped (htype : ms.get? "type" = none) :
    ofPayload ⟨.object ms, h⟩ = .error (.shape (.missingField "type")) := by
  have hcheck : Schema.checkMembers schema.fields ms (normal_members h) = .ok () := by
    refine Schema.checkMembers_eq_ok _ fun f hf v hv hget => ?_
    refine read_field hf (fun hname => ?_) v hv
    rw [hname, htype] at hget
    cases hget
  have hread : Schema.readMembers schema.fields ms (normal_members h) =
      .error (.missingField "type") := Schema.readMembers_missing _ htype rfl
  rw [ofPayload_of_checkMembers h hcheck, hread]
  rfl

/-- Nor is one whose type is no string. -/
theorem ofPayload_mistyped {v : Json} (htype : ms.get? "type" = some v)
    (hstring : ∀ kind, v ≠ .string kind) : ofPayload ⟨.object ms, h⟩ =
      .error (.shape (.invalidType (.ofJson v) "a string")) := by
  have hv := Json.Members.normal_of_get? (normal_members h) htype
  have hcheck : Schema.checkMembers schema.fields ms (normal_members h) =
      .error (.invalidType (.ofJson v) "a string") :=
    Schema.checkMembers_eq_error _ (f := typeField) rfl htype hv
      (read_text hv hstring) fun f hf hname v hv _ => read_field hf hname v hv
  rw [ofPayload_members, hcheck]
  rfl

end Object

/-! ## Frames of documents -/

variable {frame : String} {e : Envelope}

/-- An envelope that is read from a document is that of an object, and has its data from it. -/
theorem ofPayload_eq_ok {p : Payload} (h : ofPayload p = .ok e) : ∃ ms : Json.Members,
    p.document = .object ms ∧ e.data.document = (ms.get? "data").getD .null := by
  obtain ⟨v, hv⟩ := p
  cases v with
  | null | bool | number | string | array => cases h
  | object ms =>
    refine ⟨ms, rfl, ?_⟩
    have hnormal : ((ms.get? "data").getD .null).normal := by
      cases hget : ms.get? "data" with
      | none => rfl
      | some v => exact Json.Members.normal_of_get? (normal_members hv) hget
    cases htype : ms.get? "type" with
    | none => cases (ofPayload_untyped hv htype).symm.trans h
    | some t =>
      by_cases hstring : ∃ kind, t = .string kind
      · obtain ⟨kind, rfl⟩ := hstring
        have hdata : (Payload.mk _ hnormal).document = (ms.get? "data").getD .null := rfl
        cases (ofPayload_typed hv htype hdata).symm.trans h
        rfl
      · cases (ofPayload_mistyped hv htype fun kind heq => hstring ⟨kind, heq⟩).symm.trans h

/-- A frame in which a document is read is an envelope if the document is. -/
theorem decode_of_ofChars {v : Json} (h : Json.ofChars frame.toList = .ok v) :
    decode frame = (ofPayload (.ofJson v)).mapError fun e => { reason := e.message, frame } := by
  have hparse : Payload.parse frame = .ok (.ofJson v) := by
    rw [Payload.parse, Json.parse, h]
    rfl
  rw [decode, read, hparse]
  rfl

/-- An envelope comes back from its frame if its data is not nested too deeply. -/
theorem decode_encode_of_depth_le (h : e.data.document.integral)
    (hdepth : e.data.document.depth ≤ 126) : decode e.encode = .ok e := by
  have hread : Json.ofChars e.encode.toList = .ok e.toJson := by
    simpa using Json.ofChars_written (written_encode e h) Json.blank_nil Json.blank_nil
      (show e.toJson.depth ≤ 127 by rw [depth_toJson]; omega)
  rw [decode_of_ofChars hread, ofPayload_toJson]
  rfl

/-- And one in which none is read is none. -/
theorem decode_of_error {f : Json.Fault Json.Problem} (h : Json.ofChars frame.toList = .error f) :
    ∃ reason, decode frame = .error { reason, frame } := by
  have hparse : ∃ error, Payload.parse frame = .error error := by
    rw [Payload.parse, Json.parse, h]
    exact ⟨_, rfl⟩
  obtain ⟨error, hparse⟩ := hparse
  rw [decode, read, hparse]
  exact ⟨_, rfl⟩

theorem ofPayload_noObject {v : Json} (h : ∀ ms, v ≠ .object ms) :
    ofPayload (.ofJson v) = .error .noObject := by
  cases v with
  | object ms => exact absurd rfl (h ms)
  | null | bool | number | string | array => rfl

theorem message_mistyped (found : Found) : (ShapeError.invalidType found "a string").message =
    "invalid type: " ++ found.message ++ ", expected a string" := by
  have hmessage : (ShapeError.invalidType found "a string").message =
    "invalid type: " ++ found.message ++ ", expected " ++ "a string" := rfl
  rw [hmessage, String.append_assoc]
  exact congrArg _ (by decide)

/-- The data of an object as it is written: the last member of that name counts. -/
def writtenData (ms : Json.Members) : Json := (ms.last? "data").getD .null

/-- What is meant by the members of an object counts, and of each name the last. -/
theorem decode_of_members {ms : Json.Members}
    (h : Json.ofChars frame.toList = .ok (.object ms)) :
    (∀ kind, ms.last? "type" = some (.string kind) →
      decode frame = .ok { kind, data := .ofJson (writtenData ms) }) ∧
    (ms.last? "type" = none →
      decode frame = .error { reason := "missing field " ++ Text.backquoted "type", frame }) ∧
    ∀ v, ms.last? "type" = some v → (∀ kind, v ≠ .string kind) →
      decode frame = .error
        { reason := "invalid type: " ++ (Found.ofJson v).message ++ ", expected a string"
          frame } := by
  have hnormal : (Json.object ms.normalize).normal := Json.normal_normalize (.object ms)
  have hpayload : Payload.ofJson (.object ms) = ⟨.object ms.normalize, hnormal⟩ := rfl
  have hget := fun name => Json.Members.get?_normalize name ms
  rw [decode_of_ofChars h, hpayload]
  refine ⟨fun kind htype => ?_, fun htype => ?_, fun v htype hstring => ?_⟩
  · have hdata : (Payload.ofJson (writtenData ms)).document =
        (ms.normalize.get? "data").getD .null := by
      show (writtenData ms).normalize = _
      rw [hget, writtenData]
      cases ms.last? "data" <;> rfl
    rw [ofPayload_typed hnormal (by rw [hget, htype]; rfl) hdata]
    rfl
  · rw [ofPayload_untyped hnormal (by rw [hget, htype]; rfl)]
    rfl
  · have hfound : Found.ofJson v.normalize = Found.ofJson v := by cases v <;> rfl
    have hstring' : ∀ kind, v.normalize ≠ .string kind := by
      cases v with
      | string kind => exact absurd rfl (hstring kind)
      | null | bool | number | array | object => rintro kind ⟨⟩
    rw [ofPayload_mistyped hnormal (by rw [hget, htype]; rfl) hstring', hfound]
    exact congrArg (fun reason => Except.error (MalformedFrame.mk reason frame))
      (message_mistyped _)

/-- The frames that are envelopes. An object, in any text of it, is one if its last member
    `type` is a string; then its data is what is meant by its last member `data`, and null if
    there is none, and inside the data, too, the last member of a name counts. Otherwise it is
    refused for that, with the frame. So is any other document, and whatever does not begin with
    a brace. -/
theorem decode_object (frame : String) :
    (∀ b ms t b', Json.Blank b → Json.WrittenMembers true ms t → Json.Blank b' →
      frame.toList = b ++ ('\x7b' :: t ++ b') → ms.depth ≤ 126 →
      (∀ kind, ms.last? "type" = some (.string kind) →
        decode frame = .ok { kind, data := .ofJson (writtenData ms) } ∧
          ∀ path, (Payload.ofJson (writtenData ms)).document.at? path =
            ((writtenData ms).at? path).map Json.normalize) ∧
      (ms.last? "type" = none →
        decode frame = .error { reason := "missing field " ++ Text.backquoted "type", frame }) ∧
      ∀ v, ms.last? "type" = some v → (∀ kind, v ≠ .string kind) →
        decode frame = .error
          { reason := "invalid type: " ++ (Found.ofJson v).message ++ ", expected a string"
            frame }) ∧
    (∀ b v s b', Json.Blank b → Json.Written v s → Json.Blank b' →
      frame.toList = b ++ (s ++ b') → v.depth ≤ 127 → (∀ ms, v ≠ .object ms) →
      decode frame = .error { reason := "expected a JSON object", frame }) ∧
    ((Json.Reader.skipBlanks frame.toList).head? ≠ some '\x7b' →
      ∃ reason, decode frame = .error { reason, frame }) := by
  refine ⟨fun b ms t b' hb hms hb' hframe hdepth => ?_,
    fun b v s b' hb hv hb' hframe hdepth hobject => ?_, fun hbrace => ?_⟩
  · have hread : Json.ofChars frame.toList = .ok (.object ms) := by
      rw [hframe]
      exact Json.ofChars_written (.object hms) hb hb' (Nat.succ_le_succ hdepth)
    obtain ⟨htyped, hrefused⟩ := decode_of_members hread
    exact ⟨fun kind htype => ⟨htyped kind htype, fun path => Json.at?_normalize path _⟩, hrefused⟩
  · have hread : Json.ofChars frame.toList = .ok v := by
      rw [hframe]
      exact Json.ofChars_written hv hb hb' hdepth
    rw [decode_of_ofChars hread, ofPayload_noObject hobject]
    rfl
  · cases hread : Json.ofChars frame.toList with
    | error f => exact decode_of_error hread
    | ok v =>
      -- a text may be read without the brace, but no object is read then
      rw [decode_of_ofChars hread,
        ofPayload_noObject (Json.ofChars_ne_object hbrace hread)]
      exact ⟨_, rfl⟩

/-- A frame with repeated keys, one of them spelled with an escape. -/
def repeated : String :=
  "\x7b\"type\" : 1 ,\"data\":\x7b\"k\":1,\"k\":2\x7d,\"x\":[null],\"t\\u0079pe\":\"chat\"\x7d\n"

/-- An integer below ten. -/
def digit (n : Fin 10) : Json := .number (.integer n (by omega))

/-- The data that is meant. -/
def repeatedData : Json.Members := .cons "k" (digit 2) .nil

/-- The members of that frame. -/
def repeatedMembers : Json.Members :=
  .cons "type" (digit 1) (.cons "data" (.object (.cons "k" (digit 1) repeatedData))
    (.cons "x" (.array (.cons .null .nil)) (.cons "type" (.string "chat") .nil)))

theorem quoted_escaped : Json.Quoted "type" ('"' :: ("t\\u0079pe".toList ++ ['"'])) := by
  have hnumber : Json.HexNumber ['0', '0', '7', '9'] 'y'.toNat :=
    .digits (.lower (n := 0) (by decide)) (.lower (n := 0) (by decide))
      (.lower (n := 7) (by decide)) (.lower (n := 9) (by decide))
  refine .quotes ?_
  show Json.SpelledAll ['t', 'y', 'p', 'e'] (['t'] ++ (('\\' :: 'u' :: ['0', '0', '7', '9']) ++
    (['p'] ++ (['e'] ++ []))))
  refine .cons (.plain ?_ ?_ ?_) (.cons (.unit hnumber) (.cons (.plain ?_ ?_ ?_)
    (.cons (.plain ?_ ?_ ?_) .nil))) <;> decide

theorem blank_singleton {c : Char} (h : Json.Reader.isBlank c) : Json.Blank [c] := by
  simpa [Json.Blank] using h

/-- Such is the frame. -/
theorem written_repeated : ∃ t, Json.WrittenMembers true repeatedMembers t ∧
    repeated.toList = [] ++ ('\x7b' :: t ++ ['\n']) := by
  have hspace : Json.Blank [' '] := blank_singleton rfl
  have hnil := Json.blank_nil
  have hfirst : Json.Lead true [] := .first hnil
  have hnext : Json.Lead false ([] ++ ',' :: []) := .next hnil hnil
  have hspaced : Json.Lead false ([' '] ++ ',' :: []) := .next hspace hnil
  have hquoted := Json.quoted_renderString
  refine ⟨_, .cons hfirst (hquoted "type") hspace hspace (.integer 1 _)
    (.cons hspaced (hquoted "data") hnil hnil
      (.object (.cons hfirst (hquoted "k") hnil hnil (.integer 1 _)
        (.cons hnext (hquoted "k") hnil hnil (.integer 2 _) (.nil hnil))))
      (.cons hnext (hquoted "x") hnil hnil (.array (.cons hfirst .nullWord (.nil hnil)))
        (.cons hnext quoted_escaped hnil hnil (.string (hquoted "chat")) (.nil hnil)))), rfl⟩

theorem decode_object_repeated :
    decode repeated = .ok { kind := "chat", data := ⟨.object repeatedData, by decide⟩ } ∧
      decode "\x7b\x7d" =
        .error { reason := "missing field " ++ Text.backquoted "type", frame := "\x7b\x7d" } ∧
      decode " [\"chat\"]" =
        .error { reason := "expected a JSON object", frame := " [\"chat\"]" } ∧
      ∃ reason, decode "" = .error { reason, frame := "" } := by
  obtain ⟨t, ht, hframe⟩ := written_repeated
  have hspace : Json.Blank [' '] := blank_singleton rfl
  have hline : Json.Blank ['\n'] := blank_singleton rfl
  have hnil := Json.blank_nil
  refine ⟨?_, ?_, ?_, ?_⟩
  · exact ((decode_object repeated).1 [] repeatedMembers t ['\n'] hnil ht hline hframe
      (by decide)).1 "chat" rfl |>.1
  · exact ((decode_object "\x7b\x7d").1 [] .nil ['\x7d'] [] hnil (.nil hnil) hnil rfl
      (by decide)).2.1 rfl
  · have harray : Json.Written (.array (.cons (.string "chat") .nil)) "[\"chat\"]".toList :=
      .array (.cons (.first hnil) (.string (Json.quoted_renderString "chat")) (.nil hnil))
    exact (decode_object " [\"chat\"]").2.1 [' '] _ _ [] hspace harray hnil rfl (by decide)
      fun ms h => by cases h
  · exact (decode_object "").2.2 (by decide)

/-! ## Sending on -/

/-- What has been read as an envelope leaves a level for the object around its data. -/
theorem depth_of_decode (h : decode frame = .ok e) : e.data.document.depth ≤ 126 := by
  cases hread : Json.ofChars frame.toList with
  | error f =>
    obtain ⟨reason, herror⟩ := decode_of_error hread
    cases herror.symm.trans h
  | ok v =>
    have hdepth : v.normalize.depth ≤ 127 :=
      Nat.le_trans (Json.depth_normalize_le v) (Json.depth_of_ofChars hread)
    rw [decode_of_ofChars hread] at h
    cases hpayload : ofPayload (.ofJson v) with
    | error error => rw [hpayload] at h; cases h
    | ok e' =>
      rw [hpayload] at h
      cases h
      -- the data stands in the object of the frame, one level below it
      obtain ⟨ms, hms, hdata⟩ := ofPayload_eq_ok hpayload
      rw [show v.normalize = .object ms from hms, Json.depth] at hdepth
      rw [hdata]
      cases hget : ms.get? "data" with
      | none => exact Nat.zero_le _
      | some w => exact Nat.le_trans (Json.Members.depth_le_of_get? hget) (by omega)

/-- The frame that a received envelope is sent on in is read as that envelope, and sent on
    again as the same frame, whatever the frame in which it was received. -/
theorem decode_encode_of_decode (h : decode frame = .ok e) (hintegral : e.data.document.integral) :
    e.data.document.depth ≤ 126 ∧ decode e.encode = .ok e ∧
      ∀ e', decode e.encode = .ok e' → e'.encode = e.encode := by
  have hdepth := depth_of_decode h
  have hread : Json.ofChars e.encode.toList = .ok e.toJson := by
    simpa using Json.ofChars_written (written_encode e hintegral) Json.blank_nil Json.blank_nil
      (show e.toJson.depth ≤ 127 by rw [depth_toJson]; omega)
  have hback : decode e.encode = .ok e := by
    rw [decode_of_ofChars hread, ofPayload_toJson]
    rfl
  refine ⟨hdepth, hback, fun e' he' => ?_⟩
  cases hback.symm.trans he'
  rfl

theorem decode_encode_of_decode_repeated : ∃ e, decode repeated = .ok e ∧
    e.data.document = .object repeatedData ∧ decode e.encode = .ok e := by
  have hread : Json.ofChars repeated.toList = .ok (.object repeatedMembers) := rfl
  have hdecode := (decode_of_members hread).1 "chat" rfl
  exact ⟨_, hdecode, by decide, (decode_encode_of_decode hdecode (by decide)).2.1⟩

end Envelope

end PartyLine
