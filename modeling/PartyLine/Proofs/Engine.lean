import PartyLine.Engine
import PartyLine.Proofs.Frame

/-!
# What the engine means

An envelope is an event of the engine if it has one of the engine's kinds and its body has the
shape that goes with it: an object, whose other members are ignored, or an array of the fields
in their order. An envelope of another kind is passed on, and there is nothing else.

The shapes are given by relations on bodies, one clause for an object and one for an array. That
they are what the readers accept is shown once for records of any schema
(`PartyLine.Proofs.Record`), by recursion over the fields, and then for the two schemas of the
engine. The relations say when something is read and what, so that a body of any other shape is an
error.

What the engine and its clients write is among these bodies, and comes through the wire
whatever text is in it: it has no doubles and little depth, so that the round trip of envelopes
applies to it without a condition.

* `Reports`, `Answers`: the bodies of reports and of answers;
* `read_entry`, `read_response`: they are the ones that are read;
* `ofEnvelope_recognises`: the envelopes that are events, those that are passed on, and those
  that are neither;
* `bodies_on_the_wire`: what is written is read.
-/

namespace PartyLine

theorem Json.Items.toList_eq_iff {xs : Json.Items} {ys : List Json} :
    xs.toList = ys ↔ xs = .ofList ys :=
  ⟨fun h => by rw [← h, ofList_toList], fun h => by rw [h, toList_ofList]⟩

namespace Engine

/-! ## Bodies -/

/-- The bodies of reports: a line, under its name or alone in an array. -/
inductive Reports : Json → String → Prop
  | object {ms : Json.Members} {line : String} : ms.get? "entry" = some (.string line) →
      Reports (.object ms) line
  | array {line : String} : Reports (.array (.ofList [.string line])) line

/-- What may stand in the place of an error, and the error: none for nothing and for null. -/
inductive Tells : Option Json → Option String → Prop
  | absent : Tells none none
  | null : Tells (some .null) none
  | text {s : String} : Tells (some (.string s)) (some s)

/-- The bodies of answers: whether it was a success, and perhaps an error, under their names or
    in an array. -/
inductive Answers : Json → RunResponse → Prop
  | object {ms : Json.Members} {success : Bool} {error : Option String} :
      ms.get? "success" = some (.bool success) → Tells (ms.get? "error") error →
      Answers (.object ms) { success, error }
  | array {success : Bool} {x : Option Json} {error : Option String} : Tells x error →
      Answers (.array (.ofList (.bool success :: x.toList))) { success, error }

/-! ## Reading bodies -/

/-- A text that may be missing is none if nothing or null stands there. -/
theorem takes_optionalText {name : String} {x : Option Json} {error : Option String} :
    (Field.mk name .optionalText (some none)).Takes x error ↔ Tells x error := by
  constructor
  · intro h
    cases x with
    | none =>
      obtain rfl := Option.some.inj h
      exact .absent
    | some v =>
      obtain ⟨hv, h⟩ := h
      cases v with
      | null => cases h; exact .null
      | string s => cases h; exact .text
      | bool | number | array | object => cases h
  · rintro (_ | _ | _)
    · rfl
    · exact ⟨rfl, rfl⟩
    · exact ⟨rfl, rfl⟩

theorem takesItems_entry {xs : List Json} {line : String} :
    Schema.TakesItems OutputEntry.schema.fields xs (line, ()) ↔ xs = [.string line] := by
  show (Field.mk "entry" .text none).Takes xs.head? line ∧ xs.tail = [] ↔ _
  rw [Field.takes_text]
  cases xs <;> simp

theorem takesItems_response {xs : List Json} {success : Bool} {error : Option String} :
    Schema.TakesItems RunResponse.schema.fields xs (success, error, ()) ↔
      ∃ x, Tells x error ∧ xs = .bool success :: x.toList := by
  show (Field.mk "success" .flag none).Takes xs.head? success ∧
    (Field.mk "error" .optionalText (some none)).Takes xs.tail.head? error ∧ xs.tail.tail = [] ↔ _
  rw [Field.takes_flag, takes_optionalText]
  constructor
  · rintro ⟨hsuccess, herror, hend⟩
    obtain ⟨rest, rfl⟩ := List.head?_eq_some_iff.1 hsuccess
    refine ⟨_, herror, ?_⟩
    cases rest with
    | nil => rfl
    | cons x rest => simpa using hend
  · rintro ⟨x, htells, rfl⟩
    cases x <;> exact ⟨rfl, htells, rfl⟩

/-- What is made of something read has been read if that has. -/
theorem map_eq_ok_iff {α β ε : Type} {g : α → β} {x : Except ε α} {z : β} :
    x.map g = .ok z ↔ ∃ v, x = .ok v ∧ g v = z := by
  cases x <;> simp [Except.map]

/-- A report is read from its bodies. -/
theorem read_entry {p : Payload} {o : OutputEntry} :
    (OutputEntry.schema.read p).map OutputEntry.ofValues = .ok o ↔ Reports p.document o.entry := by
  rw [map_eq_ok_iff]
  constructor
  · rintro ⟨⟨line, ⟨⟩⟩, hread, rfl⟩
    rcases Schema.read_eq_ok_iff.1 hread with ⟨ms, hms, hline, -⟩ | ⟨xs, hxs, hline⟩
    · rw [hms]
      exact .object (Field.takes_text.1 hline)
    · rw [hxs, Json.Items.toList_eq_iff.1 (takesItems_entry.1 hline)]
      exact .array
  · intro h
    refine ⟨(o.entry, ()), Schema.read_eq_ok_iff.2 ?_, rfl⟩
    generalize p.document = v at h
    cases h with
    | object hline => exact .inl ⟨_, rfl, Field.takes_text.2 hline, trivial⟩
    | array => exact .inr ⟨_, rfl, takesItems_entry.2 rfl⟩

/-- An answer is read from its bodies. -/
theorem read_response {p : Payload} {r : RunResponse} :
    (RunResponse.schema.read p).map RunResponse.ofValues = .ok r ↔ Answers p.document r := by
  rw [map_eq_ok_iff]
  constructor
  · rintro ⟨⟨success, error, ⟨⟩⟩, hread, rfl⟩
    rcases Schema.read_eq_ok_iff.1 hread with ⟨ms, hms, hsuccess, herror, -⟩ | ⟨xs, hxs, hitems⟩
    · rw [hms]
      exact .object (Field.takes_flag.1 hsuccess) (takes_optionalText.1 herror)
    · obtain ⟨x, htells, hlist⟩ := takesItems_response.1 hitems
      rw [hxs, Json.Items.toList_eq_iff.1 hlist]
      exact .array htells
  · intro h
    refine ⟨(r.success, r.error, ()), Schema.read_eq_ok_iff.2 ?_, rfl⟩
    generalize p.document = v at h
    cases h with
    | object hsuccess herror =>
      exact .inl ⟨_, rfl, Field.takes_flag.2 hsuccess, takes_optionalText.2 herror, trivial⟩
    | array htells =>
      exact .inr ⟨_, rfl, takesItems_response.2 ⟨_, htells, Json.Items.toList_ofList _⟩⟩

/-! ## Events -/

/-- The kinds of the engine by their names. -/
theorem ofName?_eq_some_iff {name : String} {k : Kind} :
    Kind.ofName? name = some k ↔ name = k.name := by
  constructor
  · intro h
    unfold Kind.ofName? at h
    have hname := List.find?_some h
    exact (beq_iff_eq.1 hname).symm
  · rintro rfl
    cases k <;> rfl

theorem ofName?_eq_none_iff {name : String} :
    Kind.ofName? name = none ↔ name ∉ ["LOG", "RESULT", "OUTPUT", "RUN", "COMPILE"] := by
  have hnames : name ∈ ["LOG", "RESULT", "OUTPUT", "RUN", "COMPILE"] ↔
      ∃ k : Kind, name = k.name := by
    constructor
    · simp only [List.mem_cons, List.not_mem_nil, or_false]
      rintro (rfl | rfl | rfl | rfl | rfl)
      exacts [⟨.log, rfl⟩, ⟨.result, rfl⟩, ⟨.output, rfl⟩, ⟨.run, rfl⟩, ⟨.compile, rfl⟩]
    · rintro ⟨k, rfl⟩
      cases k <;> simp [Kind.name]
  rw [hnames, Option.eq_none_iff_forall_ne_some]
  simp only [ne_eq, ofName?_eq_some_iff, not_exists]

/-- The events of the engine that envelopes are. -/
inductive Means (e : Envelope) : Event → Prop
  | log {o : OutputEntry} : e.kind = "LOG" → Reports e.data.document o.entry → Means e (.log o)
  | result {o : OutputEntry} : e.kind = "RESULT" → Reports e.data.document o.entry →
      Means e (.result o)
  | output {o : OutputEntry} : e.kind = "OUTPUT" → Reports e.data.document o.entry →
      Means e (.output o)
  | runFinished {r : RunResponse} : e.kind = "RUN" → Answers e.data.document r →
      Means e (.runFinished r)
  | compileFinished {r : RunResponse} : e.kind = "COMPILE" → Answers e.data.document r →
      Means e (.compileFinished r)
  | other : e.kind ∉ ["LOG", "RESULT", "OUTPUT", "RUN", "COMPILE"] → Means e (.other e)

variable {e : Envelope} {event : Event}

/-- What is read as an event is one. -/
theorem means_of_ofEnvelope (h : Event.ofEnvelope e = .ok event) : Means e event := by
  cases hkind : Kind.ofName? e.kind with
  | none =>
    rw [Event.ofEnvelope, hkind] at h
    cases h
    exact .other (ofName?_eq_none_iff.1 hkind)
  | some k =>
    have hname := ofName?_eq_some_iff.1 hkind
    rw [Event.ofEnvelope, hkind] at h
    cases k with
    | log =>
      obtain ⟨o, hread, rfl⟩ := map_eq_ok_iff.1 h
      exact .log hname (read_entry.1 hread)
    | result =>
      obtain ⟨o, hread, rfl⟩ := map_eq_ok_iff.1 h
      exact .result hname (read_entry.1 hread)
    | output =>
      obtain ⟨o, hread, rfl⟩ := map_eq_ok_iff.1 h
      exact .output hname (read_entry.1 hread)
    | run =>
      obtain ⟨r, hread, rfl⟩ := map_eq_ok_iff.1 h
      exact .runFinished hname (read_response.1 hread)
    | compile =>
      obtain ⟨r, hread, rfl⟩ := map_eq_ok_iff.1 h
      exact .compileFinished hname (read_response.1 hread)

/-- And every event is read as such. -/
theorem ofEnvelope_of_means (h : Means e event) : Event.ofEnvelope e = .ok event := by
  rw [Event.ofEnvelope]
  cases h with
  | other hkind => rw [ofName?_eq_none_iff.2 hkind]
  | log hkind hreports =>
    rw [(ofName?_eq_some_iff (k := .log)).2 hkind]
    exact map_eq_ok_iff.2 ⟨_, read_entry.2 hreports, rfl⟩
  | result hkind hreports =>
    rw [(ofName?_eq_some_iff (k := .result)).2 hkind]
    exact map_eq_ok_iff.2 ⟨_, read_entry.2 hreports, rfl⟩
  | output hkind hreports =>
    rw [(ofName?_eq_some_iff (k := .output)).2 hkind]
    exact map_eq_ok_iff.2 ⟨_, read_entry.2 hreports, rfl⟩
  | runFinished hkind hanswers =>
    rw [(ofName?_eq_some_iff (k := .run)).2 hkind]
    exact map_eq_ok_iff.2 ⟨_, read_response.2 hanswers, rfl⟩
  | compileFinished hkind hanswers =>
    rw [(ofName?_eq_some_iff (k := .compile)).2 hkind]
    exact map_eq_ok_iff.2 ⟨_, read_response.2 hanswers, rfl⟩

/-- Every envelope whose kind is none of the engine's is passed on as it is, and no other is. An
    envelope of a kind of the engine is its event if its body has the shape that goes with the
    kind, with what the body says, and otherwise an error. -/
theorem ofEnvelope_recognises (e : Envelope) :
    (∀ event, Event.ofEnvelope e = .ok event ↔ Means e event) ∧
    (∀ e', Event.ofEnvelope e = .ok (.other e') ↔
      e' = e ∧ e.kind ∉ ["LOG", "RESULT", "OUTPUT", "RUN", "COMPILE"]) ∧
    ((∃ error, Event.ofEnvelope e = .error error) ↔
      e.kind ∈ ["LOG", "RESULT", "OUTPUT", "RUN", "COMPILE"] ∧ ¬∃ event, Means e event) := by
  have hmeans (event : Event) : Event.ofEnvelope e = .ok event ↔ Means e event :=
    ⟨means_of_ofEnvelope, ofEnvelope_of_means⟩
  refine ⟨hmeans, fun e' => ?_, ?_⟩
  · rw [hmeans]
    constructor
    · rintro (_ | _ | _ | _ | _ | hkind)
      exact ⟨rfl, hkind⟩
    · rintro ⟨rfl, hkind⟩
      exact .other hkind
  · simp only [← hmeans]
    cases hread : Event.ofEnvelope e with
    | ok event => simp
    | error error =>
      -- what is passed on is no error
      have hkind : e.kind ∈ ["LOG", "RESULT", "OUTPUT", "RUN", "COMPILE"] := by
        by_contra hkind
        rw [ofEnvelope_of_means (.other hkind)] at hread
        cases hread
      simpa using hkind

/-! ## Bodies on the wire -/

/-- The envelope of a kind with a body. -/
def carrying (kind : String) (body : Json) : Envelope := { kind, data := .ofJson body }

/-- Whether an envelope arrives as an event, sent as a frame and read from it. -/
def Arrives (e : Envelope) (event : Event) : Prop :=
  ∃ e', Envelope.decode e.encode = .ok e' ∧ Event.ofEnvelope e' = .ok event

/-- Whether a body is sent as shallow data without doubles. -/
def IsPlain (body : Json) : Prop :=
  (Payload.ofJson body).document.integral ∧ (Payload.ofJson body).document.depth ≤ 1

/-- The envelope of a plain body comes back from its frame. -/
theorem decode_carrying {kind : String} {body : Json} (h : IsPlain body) :
    Envelope.decode (carrying kind body).encode = .ok (carrying kind body) :=
  Envelope.decode_encode_of_depth_le h.1 (Nat.le_trans h.2 (by decide))

/-- It arrives as the event that it means. -/
theorem arrives_carrying {kind : String} {body : Json} (h : IsPlain body)
    (hmeans : Means (carrying kind body) event) : Arrives (carrying kind body) event :=
  ⟨_, decode_carrying h, ofEnvelope_of_means hmeans⟩

theorem isPlain_text (name text : String) :
    IsPlain (.object (.cons name (.string text) .nil)) :=
  ⟨rfl, Nat.le_refl 1⟩

/-- The script of a request is read from what the request is written as. -/
theorem read_script (script : String) :
    (ScriptRequest.schema.read (.ofJson (ScriptRequest.mk script).toJson)).map
      ScriptRequest.ofValues = .ok { script } := by
  refine map_eq_ok_iff.2 ⟨(script, ()), Schema.read_eq_ok_iff.2 (.inl ⟨_, rfl, ?_⟩), rfl⟩
  exact ⟨Field.takes_text.2 rfl, trivial⟩

/-- What a report is written as is a body of it. -/
theorem reports_toJson (o : OutputEntry) : Reports (Payload.ofJson o.toJson).document o.entry :=
  .object rfl

/-- What an answer is written as is a body of it, where no member stands for no error. -/
theorem answers_toJson (r : RunResponse) :
    IsPlain r.toJson ∧ Answers (Payload.ofJson r.toJson).document r := by
  obtain ⟨success, error⟩ := r
  cases error with
  | none => exact ⟨⟨rfl, Nat.le_refl 1⟩, .object rfl .absent⟩
  | some text =>
    -- in the normal form the error comes first
    have hkeys : "error" < "success" := by decide
    have hback : ¬"success" < "error" := by decide
    have hdocument : (Payload.ofJson (RunResponse.mk success (some text)).toJson).document =
        .object (.cons "error" (.string text) (.cons "success" (.bool success) .nil)) := by
      simp only [Payload.ofJson, RunResponse.toJson, Json.normalize, Json.Members.normalize,
        Json.Members.insert, hkeys, hback, if_true, if_false]
    rw [IsPlain, hdocument]
    exact ⟨⟨rfl, Nat.le_refl 1⟩, .object rfl .text⟩

/-- Whatever text a body has in it comes through the wire. A request is read from its frame with
    its kind and its script, and every answer and every report, written into an envelope of any of
    its kinds, arrives as the event of that kind with just what was written. -/
theorem bodies_on_the_wire :
    (∀ script, ∃ e, Envelope.decode (run script).encode = .ok e ∧ e.kind = "RUN" ∧
      (ScriptRequest.schema.read e.data).map ScriptRequest.ofValues = .ok { script }) ∧
    (∀ script, ∃ e, Envelope.decode (compile script).encode = .ok e ∧ e.kind = "COMPILE" ∧
      (ScriptRequest.schema.read e.data).map ScriptRequest.ofValues = .ok { script }) ∧
    (∀ r : RunResponse, Arrives (carrying "RUN" r.toJson) (.runFinished r) ∧
      Arrives (carrying "COMPILE" r.toJson) (.compileFinished r)) ∧
    ∀ o : OutputEntry, Arrives (carrying "LOG" o.toJson) (.log o) ∧
      Arrives (carrying "RESULT" o.toJson) (.result o) ∧
      Arrives (carrying "OUTPUT" o.toJson) (.output o) := by
  refine ⟨fun script => ?_, fun script => ?_, fun r => ?_, fun o => ?_⟩
  · exact ⟨_, decode_carrying (isPlain_text _ script), rfl, read_script script⟩
  · exact ⟨_, decode_carrying (isPlain_text _ script), rfl, read_script script⟩
  · obtain ⟨hplain, hanswers⟩ := answers_toJson r
    exact ⟨arrives_carrying hplain (.runFinished rfl hanswers),
      arrives_carrying hplain (.compileFinished rfl hanswers)⟩
  · have hplain : IsPlain o.toJson := isPlain_text _ o.entry
    have hreports := reports_toJson o
    exact ⟨arrives_carrying hplain (.log rfl hreports),
      arrives_carrying hplain (.result rfl hreports),
      arrives_carrying hplain (.output rfl hreports)⟩

end Engine

end PartyLine
