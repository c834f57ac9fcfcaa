import PartyLine.Channel
import PartyLine.Proofs.Connection.Course

/-!
# Reports

What the events that a connection reports mean for the hub: the notes they make it
tell, the frames they bring and the end. As events are reported in a course, an end is
the last of them, and it is the end that the state shows.

* `endOf`, `framesOf`: the end and the frames in a report;
* `state_of_endOf`: the state of a connection that has reported its end;
* `framesOf_story`: the frames in a report are those that were read.
-/

namespace PartyLine

/-- What a frame makes the hub tell. -/
def Note.ofFrame (frame : String) : Note :=
  match Envelope.decode frame with
  | .ok e => .message e
  | .error m => .error (.malformed m)

/-- What a subscriber is told of a frame. -/
def Subscriber.image (s : Subscriber) (frame : String) : List Note :=
  [Note.ofFrame frame].filter s.wants

/-- How an event ends the connection, if it does. -/
def ConnectionEvent.end? : ConnectionEvent → Option Termination
  | opened | frame _ => none
  | failed e => some (.failed e)
  | closed => some .completed

/-- What an event makes the hub tell. -/
def ConnectionEvent.note? : ConnectionEvent → Option Note
  | opened => none
  | frame f => some (.ofFrame f)
  | failed e => some (.error (.transport e))
  | closed => some .complete

/-- The frame that an event reports. -/
def ConnectionEvent.frame? : ConnectionEvent → Option String
  | frame f => some f
  | _ => none

/-- The error of a failure. -/
def ConnectionEvent.failure? : ConnectionEvent → Option TransportError
  | failed e => some e
  | _ => none

/-- The error that a connection has ended with. -/
def Termination.error? : Termination → Option TransportError
  | completed => none
  | failed e => some e

/-- The frame that reading has brought. -/
def Received.frame? : Received → Option String
  | frame f => some f
  | _ => none

/-- The state of a connection that has ended so. -/
def Termination.state : Termination → ConnectionState
  | completed => .closed
  | failed _ => .errored

@[simp] theorem Termination.isTerminal_note (t : Termination) : t.note.isTerminal := by
  cases t <;> rfl

@[simp] theorem Note.isTerminal_ofFrame (f : String) : (Note.ofFrame f).isTerminal = false := by
  unfold ofFrame
  split <;> rfl

/-- The end that an event reports is what it makes the hub tell. -/
theorem ConnectionEvent.note?_of_end? {e : ConnectionEvent} {t : Termination}
    (h : e.end? = some t) : e.note? = some t.note := by
  cases e <;> cases h <;> rfl

/-- An event leads to the state of the end it reports, and else not to an end. -/
theorem ConnectionState.after?_end {s s' : ConnectionState} {e : ConnectionEvent}
    (hs : s.isTerminal = false) (h : s.after? e = some s') :
    (∀ t, e.end? = some t → s' = t.state) ∧ (e.end? = none → s'.isTerminal = false) := by
  cases e <;> cases s <;> cases h <;> simp_all [ConnectionEvent.end?, Termination.state, isTerminal]

namespace Channel

/-- The end that some events report. -/
def endOf (es : List ConnectionEvent) : Option Termination := es.findSome? ConnectionEvent.end?

/-- The frames that some events report. -/
def framesOf (es : List ConnectionEvent) : List String := es.filterMap ConnectionEvent.frame?

/-- The state that events lead to: that of the end they report, if they do. -/
theorem state_of_reported {es : List ConnectionEvent} {s s' : ConnectionState}
    (hs : s.isTerminal = false) (h : es.foldlM ConnectionState.after? s = some s') :
    (∀ t', endOf es = some t' → s' = t'.state) ∧ (endOf es = none → s'.isTerminal = false) := by
  induction es generalizing s with
  | nil =>
    cases h
    exact ⟨nofun, fun _ => hs⟩
  | cons e es ih =>
    obtain ⟨s₁, h₁, h⟩ := Option.bind_eq_some_iff.1 (show (s.after? e).bind _ = _ from h)
    obtain ⟨hend, hnone⟩ := ConnectionState.after?_end hs h₁
    rw [endOf, List.findSome?_cons]
    cases he : e.end? with
    | some t' =>
      obtain rfl := hend t' he
      obtain ⟨rfl, rfl⟩ := ConnectionState.eq_nil_of_isTerminal (by cases t' <;> rfl) h
      exact ⟨fun t'' ht => by rw [← Option.some.inj ht], nofun⟩
    | none => exact ih (hnone he) h

variable {c : Connection} {reads : List Received} {events : List ConnectionEvent}

/-- Nothing is reported after an end. -/
theorem endOf_eq_none {es rest : List ConnectionEvent} {e : ConnectionEvent}
    (h : c.Course reads (es ++ e :: rest)) : endOf es = none := by
  have hs := h.reported_of_ne_nil (by simp)
  rw [List.foldlM_append] at hs
  obtain ⟨s₁, h₁, hs⟩ := Option.bind_eq_some_iff.1 hs
  obtain ⟨s₂, h₂, -⟩ := Option.bind_eq_some_iff.1 (show (s₁.after? e).bind _ = _ from hs)
  cases hend : endOf es with
  | none => rfl
  | some t =>
    have := ConnectionState.isTerminal_of_after? h₂
    rw [(state_of_reported rfl h₁).1 t hend] at this
    cases t <;> cases this

/-- A connection that has reported its end has done so last, and its state says which. -/
theorem state_of_endOf {t : Termination} (h : c.Course reads events) (ht : endOf events = some t) :
    c.state = t.state ∧ events.filterMap ConnectionEvent.failure? = t.error?.toList := by
  have hne : events ≠ [] := by
    rintro rfl
    cases ht
  refine ⟨(state_of_reported rfl (h.reported_of_ne_nil hne)).1 t ht, ?_⟩
  -- the end is that of one event, and no other comes after it
  obtain ⟨es, e, rest, rfl, he, hes⟩ := List.findSome?_eq_some_iff.1 ht
  have hrest : rest = [] := by
    cases rest with
    | nil => rfl
    | cons e' rest =>
      rw [List.append_cons] at h
      have hnone := List.findSome?_eq_none_iff.1 (endOf_eq_none h) e (by simp)
      rw [he] at hnone
      cases hnone
  have hfailures : es.filterMap ConnectionEvent.failure? = [] := by
    refine List.filterMap_eq_nil_iff.2 fun e he => ?_
    have := hes e he
    cases e with
    | failed e => cases this
    | opened | frame | closed => rfl
  rw [hrest, List.filterMap_append, hfailures]
  cases e <;> cases he <;> rfl

/-- A connection in a terminal state has reported its end. -/
theorem exists_endOf (h : c.Course reads events) (hc : c.state.isTerminal) :
    ∃ t, endOf events = some t := by
  have ht : c.task ≠ .unstarted := fun ht => by
    rw [h.idle ht] at hc
    cases hc
  have hend := (state_of_reported rfl (h.reported ht)).2
  refine Option.ne_none_iff_exists'.1 fun hnone => ?_
  rw [hend hnone] at hc
  cases hc

/-- The frames of a story are those that were read for it. -/
theorem framesOf_story {t : Connection.Task} {reads : List Received} {es : List ConnectionEvent}
    (h : Connection.Story t reads es) : reads.filterMap Received.frame? = framesOf es := by
  have frames (fs : List String) : (fs.map Received.frame).filterMap Received.frame? = fs ∧
      framesOf (fs.map .frame) = fs := by
    simp [framesOf, List.filterMap_map, Function.comp_def, Received.frame?, ConnectionEvent.frame?]
  cases h with
  | unstarted | connecting | unconnected => rfl
  | serving fs => exact (frames fs).1.trans (frames fs).2.symm
  | @past _ fs _ _ _ he =>
    obtain ⟨hreads, hevents⟩ := frames fs
    unfold framesOf at hevents
    cases he <;> simp [framesOf, hreads, hevents, List.filterMap_cons, Received.frame?,
      ConnectionEvent.frame?]

end Channel

end PartyLine
