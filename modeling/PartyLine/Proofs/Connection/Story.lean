import PartyLine.Proofs.Connection.Step

/-!
# Stories

The *story* of a connection is all that it reports in the end, when nothing more is
read. It is written by the task alone: nothing until the attempt is decided, then
either a failure or the opening, the frames read, and at most one end.

Since the story belongs to the task, it can be written down for each of its stages with what was
read: there are few, and each step of the task leads from one to the next. That an actor which
reports a story event by event never meets one that its state has no transition for is a property
of stories (`Story.reportable`), and needs nothing of the actor but its start.

* `ConnectionState.after?`: the state that the report of an event goes with;
* `Connection.Story`: the stories of a task, with what it has read;
* `Connection.Story.reportable`: every story can be reported, event by event.
-/

namespace PartyLine

/-- The state after an event, if it can be reported in a state. -/
def ConnectionState.after? (s : ConnectionState) : ConnectionEvent → Option ConnectionState
  | .opened => s.next .opened
  | .frame _ => if s.isOpen then some s else none
  | .failed _ => s.next .failed
  | .closed => s.next .closed

namespace ConnectionState

/-- Nothing can be reported in a terminal state. -/
theorem isTerminal_of_after? {s s' : ConnectionState} {e : ConnectionEvent}
    (h : s.after? e = some s') : s.isTerminal = false := by
  cases s <;> cases e <;> simp_all [after?, next, isOpen, isTerminal]

/-- No event leads back to the states before opening. -/
theorem not_early_of_after? {s s' : ConnectionState} {e : ConnectionEvent}
    (h : s.after? e = some s') : ¬(s' = .idle ∨ s' = .connecting) := by
  cases s <;> cases e <;> cases h <;> nofun

/-- What is reported from a terminal state on is nothing. -/
theorem eq_nil_of_isTerminal {s s' : ConnectionState} {es : List ConnectionEvent}
    (hs : s.isTerminal) (h : es.foldlM after? s = some s') : es = [] ∧ s' = s := by
  cases es with
  | nil => exact ⟨rfl, (Option.some.inj h).symm⟩
  | cons e es =>
    obtain ⟨s'', h, _⟩ := Option.bind_eq_some_iff.1 (show (s.after? e).bind _ = _ from h)
    rw [isTerminal_of_after? h] at hs
    cases hs

end ConnectionState

namespace Connection

/-- How a story ends after the frames `fs`, and what was read in all. -/
inductive Ending (fs : List String) : List Received → ConnectionEvent → Prop
  /-- Writing failed. -/
  | unwritten (e : TransportError) : Ending fs (fs.map .frame) (.failed e)
  /-- Reading failed. -/
  | unread (e : TransportError) : Ending fs (fs.map .frame ++ [.failed e]) (.failed e)
  | ended : Ending fs (fs.map .frame ++ [.ended]) .closed

/-- The whole report of a connection whose task has got so far, and what it has
    read for it. -/
inductive Story : Task → List Received → List ConnectionEvent → Prop
  | unstarted : Story .unstarted [] []
  | connecting {d : Nat} : Story (.connecting d) [] []
  | unconnected {e : TransportError} : Story .finished [] [.failed e]
  | serving (fs : List String) : Story .serving (fs.map .frame) (.opened :: fs.map .frame)
  | past {t : Task} {fs : List String} {reads : List Received} {e : ConnectionEvent} : t.isOver →
      Ending fs reads e → Story t reads (.opened :: (fs.map .frame ++ [e]))

/-- Opening leads from connecting to open. -/
@[simp] theorem foldlM_opened (es : List ConnectionEvent) :
    (.opened :: es).foldlM ConnectionState.after? .connecting =
      es.foldlM ConnectionState.after? .opened := rfl

/-- Frames can be reported for as long as the connection is open. -/
theorem foldlM_frames (fs : List String) (es : List ConnectionEvent) :
    (fs.map ConnectionEvent.frame ++ es).foldlM ConnectionState.after? .opened =
      es.foldlM ConnectionState.after? .opened := by
  induction fs with
  | nil => rfl
  | cons f fs ih => exact ih

/-- Every story can be reported. -/
theorem Story.reportable {t : Task} {reads : List Received} {es : List ConnectionEvent}
    (h : Story t reads es) : ∃ s, es.foldlM ConnectionState.after? .connecting = some s := by
  cases h with
  | unstarted | connecting | unconnected => exact ⟨_, rfl⟩
  | serving fs =>
    have hfs := foldlM_frames fs []
    rw [List.append_nil] at hfs
    exact ⟨.opened, hfs⟩
  | past _ he =>
    -- the end, too, is reported of an open connection
    cases he <;> exact ⟨_, foldlM_frames _ _⟩

/-- Nothing is in a story before the attempt is decided. -/
theorem Story.of_undecided {t : Task} {reads : List Received} {es : List ConnectionEvent}
    (h : Story t reads es) (ht : t = .unstarted ∨ ∃ d, t = .connecting d) :
    reads = [] ∧ es = [] := by
  cases h with
  | unstarted | connecting => exact ⟨rfl, rfl⟩
  | unconnected | serving fs => simp at ht
  | past ho he => rcases ht with rfl | ⟨d, rfl⟩ <;> cases ho

/-- While the task is in its loop, frames are all that it has read. -/
theorem Story.of_serving {reads : List Received} {es : List ConnectionEvent}
    (h : Story .serving reads es) : ∃ fs : List String,
      reads = fs.map .frame ∧ es = .opened :: fs.map .frame := by
  cases h with
  | serving fs => exact ⟨fs, rfl, rfl⟩
  | past ho _ => cases ho

/-- Disconnecting adds nothing to a story. -/
theorem Story.disconnected {d : Nat} {reads : List Received} {es : List ConnectionEvent}
    (h : Story (.disconnecting d) reads es) : Story .finished reads es := by
  cases h with
  | past _ he => exact .past rfl he

/-- An event that is next in a story can be reported in the state that the events
    before it lead to. -/
theorem Story.next_reportable {t : Task} {reads : List Received} {es rest : List ConnectionEvent}
    {e : ConnectionEvent} {s : ConnectionState} (h : Story t reads (es ++ e :: rest))
    (hs : es.foldlM ConnectionState.after? .connecting = some s) : ∃ s', s.after? e = some s' := by
  obtain ⟨s', h⟩ := h.reportable
  rw [List.foldlM_append, hs] at h
  obtain ⟨s'', h, _⟩ := Option.bind_eq_some_iff.1 (show (s.after? e).bind _ = _ from h)
  exact ⟨s'', h⟩

end Connection

end PartyLine
