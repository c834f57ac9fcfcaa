import PartyLine.Proofs.Channel.Report

/-!
# Histories of connections

A *history* is all that has been seen of a connection since it was made: what was read,
the errors that came, the events it reported and the states it went through. A
connection lives by its small steps, whatever the transport answers, and may be asked
to write at any time.

What is reported comes from the task, by messages that the actor handles later. So the history is
compared with the story of the connection (`PartyLine.Proofs.Connection.Story`): what has been
reported and what is still to be reported are one story, of which a history is a beginning. A step
adds at most one event to it, and a failure only where the error is that of the missing transport
or of the answer that the step brings (`Step.adds`); hence the error reported is the first that
came. The states are read off the events, as the actor changes its state exactly when it reports
(`Step.statesOf_eq`).

* `Lived`: the histories of all uses of a new connection;
* `Step.adds`: what a step adds to the story, and which error it blames;
* `Step.statesOf_eq`: the states that a step shows;
* `History.Kept`: the invariant, by induction over the life of a connection;
* `event_language`: what is reported is a beginning of one failure, or of the opening,
  the frames read and one end, and the states are those that go with it.
-/

namespace PartyLine

/-- The state that an event announces; a frame announces none. -/
def ConnectionEvent.state? : ConnectionEvent → Option ConnectionState
  | opened => some .opened
  | frame _ => none
  | failed _ => some .errored
  | closed => some .closed

/-- An event is reported as the state changes to the one it announces. -/
theorem ConnectionState.after?_state? {s s' : ConnectionState} {e : ConnectionEvent}
    (h : s.after? e = some s') : (if s' = s then [] else [s']) = e.state?.toList := by
  cases s <;> cases e <;> cases h <;> rfl

namespace Connection

/-- The error that an action brings: the transport's answer, or that of expired waiting. -/
def Action.error? : Action → Option TransportError
  | connected answer | wrote _ answer => answer
  | connectExpired _ => some .timeout
  | received _ (.failed e) => some e
  | _ => none

/-- All that has been seen of a connection. -/
structure History where
  reads : List Received := []
  /-- The errors of the transport and of expired waiting, in the order of their coming. -/
  errors : List TransportError := []
  events : List ConnectionEvent := []
  /-- The states it has shown, one after the other. -/
  states : List ConnectionState := [.idle]

/-- The history after an action that leads from one state to another. -/
def History.add (r : History) (a : Action) (s s' : ConnectionState) (es : List ConnectionEvent) :
    History where
  reads := r.reads ++ a.reading
  errors := r.errors ++ a.error?.toList
  events := r.events ++ es
  states := r.states ++ if s' = s then [] else [s']

/-- The histories of all uses of a new connection. -/
inductive Lived (params : ConnectParams) (fault : Option TransportError) :
    Connection → History → Prop
  | new : Lived params fault { params, fault } {}
  | act {c c' : Connection} {r : History} {a : Action} {es : List ConnectionEvent} :
      Lived params fault c r → c.step? a = some (c', es) →
      Lived params fault c' (r.add a c.state c'.state es)
  /-- The owner asks to write a frame. -/
  | ask {c : Connection} {r : History} (f : String) :
      Lived params fault c r → Lived params fault (c.post (.send f)) r

variable {c c' : Connection} {reads : List Received} {events es : List ConnectionEvent} {a : Action}

/-! ## What a step adds -/

/-- The handling of a message reports what was still unreported. -/
theorem Course.handled {m : Message} {rest : List Message} {p : Connection × List ConnectionEvent}
    (h : Course c reads events) (hi : c.inbox = m :: rest)
    (hp : { c with inbox := rest }.handle m = p) :
    p.2 ++ p.1.unreported = c.unreported ∧ p.1.fault = c.fault ∧ p.1.task = c.task ∧
      (if p.1.state = c.state then [] else [p.1.state]) =
        p.2.filterMap ConnectionEvent.state? := by
  cases hm : m.event? with
  | none =>
    cases m with
    | send f =>
      obtain ⟨queue, hq, -⟩ := handle_send { c with inbox := rest } f
      obtain rfl := hq.symm.trans hp
      simp [unreported, hi, List.filterMap_cons, Message.event?]
    | connected | received f | failed e | ended => cases hm
  | some e =>
    obtain ⟨-, s, stopped, hs, hh⟩ := h.handle_event hi hm
    obtain rfl := hh.symm.trans hp
    refine ⟨by simp [unreported, hi, hm], rfl, rfl, ?_⟩
    rw [ConnectionState.after?_state? hs]
    cases he : e.state? <;> simp [he]

/-- What a step adds to the story: at most one event. A failure among it is that of a
    missing transport, or of the error that the step brings. -/
theorem Step.adds (h : Course c reads events) (hs : Step c a c' es) :
    ∃ more, es ++ c'.unreported = c.unreported ++ more ∧
      ∀ e, .failed e ∈ more → c.task.isOver = false ∧
        (c.task = .unstarted ∧ c.fault = some e ∨ c.task.isRunning ∧ a.error? = some e) := by
  have posted (d : Connection) (hd : d.inbox = c.inbox) (m : Message) :
      [] ++ (d.post m).unreported = c.unreported ++ m.event?.toList := by
    have := unreported_post d m []
    simpa [unreported, hd] using this
  -- what fails while the task is running fails with the error of the step
  have blamed {t : Task} {e : TransportError} (ht : c.task = t) (hover : t.isOver = false)
      (hrunning : t.isRunning) (ha : a.error? = some e) (e' : TransportError)
      (he' : .failed e' ∈ [ConnectionEvent.failed e]) : c.task.isOver = false ∧
        (c.task = .unstarted ∧ c.fault = some e' ∨ c.task.isRunning ∧ a.error? = some e') := by
    obtain rfl : e' = e := by simpa using he'
    exact ⟨ht ▸ hover, .inr ⟨ht ▸ hrunning, ha⟩⟩
  cases hs with
  | @handle m rest hi hstopped =>
    refine ⟨[], ?_, by simp⟩
    rw [List.append_nil]
    exact (h.handled hi rfl).1
  | start ht hstopped =>
    rw [start_eq (h.idle ht)]
    cases hfault : c.fault with
    | none => exact ⟨[], by simp [unreported], by simp⟩
    | some e =>
      refine ⟨[.failed e], posted _ rfl _, fun e' he' => ?_⟩
      obtain rfl : e' = e := by simpa using he'
      exact ⟨by rw [ht]; rfl, .inl ⟨ht, rfl⟩⟩
  | connected ht => exact ⟨[.opened], posted _ rfl _, by simp⟩
  | @refused d e ht =>
    obtain ⟨canQueue, stopped, hf⟩ := finish_eq (c.post (.failed e))
    rw [hf]
    exact ⟨[.failed e], posted c rfl (.failed e), blamed ht rfl rfl rfl⟩
  | @connectExpired d now ht hd =>
    obtain ⟨canQueue, stopped, hf⟩ := finish_eq (c.post (.failed .timeout))
    rw [hf]
    exact ⟨[.failed .timeout], posted c rfl (.failed .timeout), blamed ht rfl rfl rfl⟩
  | wrote ht hq => exact ⟨[], by simp [unreported], by simp⟩
  | @unwritten now f rest e ht hq =>
    exact ⟨[.failed e], posted { c with queue := rest } rfl (.failed e), blamed ht rfl rfl rfl⟩
  | queueClosed ht hq => exact ⟨[], by simp [unreported, leave], by simp⟩
  | @received now x ht hq hcq =>
    cases x with
    | frame f => exact ⟨[.frame f], posted c rfl (.received f), by simp⟩
    | ended => exact ⟨[.closed], posted c rfl .ended, by simp⟩
    | failed e => exact ⟨[.failed e], posted c rfl (.failed e), blamed ht rfl rfl rfl⟩
  | disconnected ht ha =>
    obtain ⟨canQueue, stopped, hf⟩ := finish_eq c
    exact ⟨[], by simp [hf, unreported], by simp⟩

/-- Whether there is a transport stays as it is; only with one is there a task to run,
    and an error ends its attempt or its loop. -/
theorem Step.frame (h : Course c reads events) (hs : Step c a c' es) :
    c'.fault = c.fault ∧ (c'.task.isRunning → c.task.isRunning ∨ c.fault = none) ∧
      (a.error? ≠ none → c'.task.isOver) := by
  cases hs with
  | @handle m rest hi hstopped =>
    obtain ⟨-, hfault, htask, -⟩ := h.handled hi rfl
    exact ⟨hfault, fun hr => .inl (htask ▸ hr), by simp [Action.error?]⟩
  | start ht hstopped =>
    rw [start_eq (h.idle ht)]
    cases c.fault with
    | none => exact ⟨rfl, fun _ => .inr rfl, by simp [Action.error?]⟩
    | some e => exact ⟨rfl, by rintro ⟨⟩, by simp [Action.error?]⟩
  | connected ht => exact ⟨rfl, fun _ => .inl (by rw [ht]; rfl), by simp [Action.error?]⟩
  | refused ht | connectExpired ht hd =>
    obtain ⟨canQueue, stopped, hf⟩ := finish_eq (c.post (.failed _))
    rw [hf]
    exact ⟨rfl, by rintro ⟨⟩, fun _ => rfl⟩
  | wrote ht hq => exact ⟨rfl, .inl, by simp [Action.error?]⟩
  | unwritten ht hq | queueClosed ht hq =>
    exact ⟨rfl, fun _ => .inl (by rw [ht]; rfl), fun _ => rfl⟩
  | @received now x ht hq hcq =>
    cases x with
    | frame f => exact ⟨rfl, .inl, by simp [Action.error?]⟩
    | failed e | ended => exact ⟨rfl, fun _ => .inl (by rw [ht]; rfl), fun _ => rfl⟩
  | disconnected ht ha =>
    obtain ⟨canQueue, stopped, hf⟩ := finish_eq c
    rw [hf]
    exact ⟨rfl, by rintro ⟨⟩, fun _ => rfl⟩

/-- The states that a connection shows, one after the other, by what it has reported. -/
def statesOf (c : Connection) (events : List ConnectionEvent) : List ConnectionState :=
  if c.task = .unstarted then [.idle]
  else .idle :: .connecting :: events.filterMap ConnectionEvent.state?

/-- The states that a step shows. -/
theorem Step.statesOf_eq (h : Course c reads events) (hs : Step c a c' es) :
    c'.statesOf (events ++ es) =
      c.statesOf events ++ if c'.state = c.state then [] else [c'.state] := by
  have same (ht : c.task ≠ .unstarted) (ht' : c'.task ≠ .unstarted) (hstate : c'.state = c.state) :
      c'.statesOf (events ++ []) =
        c.statesOf events ++ if c'.state = c.state then [] else [c'.state] := by
    simp [statesOf, ht, ht', hstate]
  cases hs with
  | @handle m rest hi hstopped =>
    obtain ⟨hnew, -, htask, hstates⟩ := h.handled hi rfl
    generalize { c with inbox := rest }.handle m = p at hnew htask hstates ⊢
    rw [hstates]
    by_cases ht : c.task = .unstarted
    · -- before the start there is nothing to report
      have hes := (h.story.of_undecided (.inl ht)).2
      rw [(List.append_eq_nil_iff.1 hes).2] at hnew
      simp [statesOf, htask, ht, (List.append_eq_nil_iff.1 hnew).1]
    · simp [statesOf, htask, ht]
  | start ht hstopped =>
    have hidle := h.idle ht
    have hevents : events = [] :=
      (List.append_eq_nil_iff.1 (h.story.of_undecided (.inl ht)).2).1
    rw [start_eq hidle]
    cases c.fault <;> simp [statesOf, ht, hevents, hidle, post]
  | connected ht | queueClosed ht hq | unwritten ht hq =>
    exact same (by simp [ht]) (by rintro ⟨⟩) rfl
  | wrote ht hq => exact same (by simp [ht]) (by simp [ht]) rfl
  | refused ht | connectExpired ht hd =>
    obtain ⟨canQueue, stopped, hf⟩ := finish_eq (c.post (.failed _))
    rw [hf] at same ⊢
    exact same (by simp [ht]) (by rintro ⟨⟩) rfl
  | @received now x ht hq hcq =>
    cases x with
    | frame f => exact same (by simp [ht]) (by simp [ht, take, post]) rfl
    | failed e | ended => exact same (by simp [ht]) (by rintro ⟨⟩) rfl
  | disconnected ht ha =>
    obtain ⟨canQueue, stopped, hf⟩ := finish_eq c
    rw [hf] at same ⊢
    exact same (by simp [ht]) (by rintro ⟨⟩) rfl

/-! ## The invariant -/

/-- What goes with a history: its course, the states that its events announce, and one
    error to blame for a failure. -/
structure History.Kept (r : History) (c : Connection) : Prop where
  course : Course c r.reads r.events
  states : r.states = c.statesOf r.events
  shown : r.states.getLast? = some c.state
  transport : c.task.isRunning → c.fault = none
  faultless : c.task.isOver = false → r.errors = []
  blamed (e : TransportError) : .failed e ∈ r.events ++ c.unreported →
    c.fault.or r.errors.head? = some e

/-- Every small step keeps the history in order. -/
theorem History.Kept.step {r : History} (h : r.Kept c) (hs : Step c a c' es) :
    (r.add a c.state c'.state es).Kept c' := by
  obtain ⟨more, hmore, hnew⟩ := hs.adds h.course
  obtain ⟨hfault, hrunning, herror⟩ := hs.frame h.course
  refine ⟨h.course.step hs, ?_, ?_, fun hr => ?_, fun hover => ?_, fun e he => ?_⟩
  · exact (congrArg (· ++ _) h.states).trans (hs.statesOf_eq h.course).symm
  · show (r.states ++ if c'.state = c.state then [] else [c'.state]).getLast? = _
    split
    · next heq => rw [List.append_nil, h.shown, heq]
    · simp
  · rcases hrunning hr with hr | hnone
    · exact hfault.trans (h.transport hr)
    · exact hfault.trans hnone
  · have hnone : a.error? = none := by
      by_contra hne
      rw [herror hne] at hover
      cases hover
    have hover' : c.task.isOver = false := by
      by_contra hne
      rw [(h.course.isOver (by simpa using hne) hs).2] at hover
      cases hover
    simp [add, hnone, h.faultless hover']
  · have hstory : r.events ++ es ++ c'.unreported = r.events ++ c.unreported ++ more := by
      rw [List.append_assoc, hmore, List.append_assoc]
    have he : .failed e ∈ r.events ++ es ++ c'.unreported := he
    rw [hstory, List.mem_append] at he
    show c'.fault.or (r.errors ++ a.error?.toList).head? = some e
    rw [hfault]
    rcases he with he | he
    · -- an error that comes later is not the first
      have := h.blamed e he
      cases hc : c.fault with
      | some e' => rw [hc] at this; exact this
      | none =>
        rw [hc, Option.none_or] at this
        simp [List.head?_append, this]
    · obtain ⟨hover, ⟨-, hf⟩ | ⟨hr, ha⟩⟩ := hnew e he
      · rw [hf]
        rfl
      · simp [h.transport hr, h.faultless hover, ha]

variable {params : ConnectParams} {fault : Option TransportError} {r : History}

/-- Every history of a connection is in order. -/
theorem Lived.kept (h : Lived params fault c r) : c.fault = fault ∧ r.Kept c := by
  induction h with
  | new =>
    exact ⟨rfl, course_init params fault, rfl, rfl, by rintro ⟨⟩, fun _ => rfl,
      by simp [unreported]⟩
  | act _ hs ih =>
    have hstep := step_of_step? hs
    exact ⟨(hstep.frame ih.2.course).1.trans ih.1, ih.2.step hstep⟩
  | @ask c r f _ ih =>
    refine ⟨ih.1, ih.2.course.post_send f, ih.2.states, ih.2.shown, ih.2.transport,
      ih.2.faultless, ?_⟩
    have hunreported : (c.post (.send f)).unreported = c.unreported := by
      simpa [Message.event?] using unreported_post c (.send f) []
    rw [hunreported]
    exact ih.2.blamed

/-! ## What is reported -/

/-- A story is a beginning of one failure, or of the opening, the frames and one end; and
    it ends in good order only where reading has. -/
theorem Story.language {t : Task} (h : Story t reads es) :
    ((∃ e, es <+: [.failed e]) ∨ ∃ last, (last = .closed ∨ ∃ e, last = .failed e) ∧
      es <+: .opened :: ((reads.filterMap Received.frame?).map .frame ++ [last])) ∧
    (.closed ∈ es → reads.getLast? = some .ended) := by
  have frames (fs : List String) : (fs.map Received.frame).filterMap Received.frame? = fs := by
    simp [List.filterMap_map, Function.comp_def, Received.frame?]
  cases h with
  | unstarted | connecting => exact ⟨.inl ⟨.timeout, List.nil_prefix⟩, by simp⟩
  | @unconnected e => exact ⟨.inl ⟨e, List.prefix_rfl⟩, by simp⟩
  | serving fs =>
    refine ⟨.inr ⟨.closed, .inl rfl, ?_⟩, by simp⟩
    rw [frames]
    exact ⟨[.closed], rfl⟩
  | @past _ fs _ e hover hend =>
    cases hend with
    | unwritten e =>
      refine ⟨.inr ⟨.failed e, .inr ⟨e, rfl⟩, [], ?_⟩, by simp⟩
      rw [frames, List.append_nil]
    | unread e =>
      refine ⟨.inr ⟨.failed e, .inr ⟨e, rfl⟩, ?_⟩, by simp⟩
      simp [frames, List.filterMap_cons, Received.frame?]
    | ended =>
      refine ⟨.inr ⟨.closed, .inl rfl, ?_⟩, by simp⟩
      simp [frames, List.filterMap_cons, Received.frame?]

/-- The end that has been reported is that of the one event that tells of an end. -/
theorem endOf_eq_some_iff (h : Course c reads events) {t : Termination} :
    Channel.endOf events = some t ↔ ∃ x ∈ events, x.end? = some t := by
  refine ⟨List.exists_of_findSome?_eq_some, ?_⟩
  rintro ⟨x, hx, ht⟩
  obtain ⟨before, after, rfl⟩ := List.append_of_mem hx
  have hbefore : Channel.endOf before = none := Channel.endOf_eq_none h
  unfold Channel.endOf at hbefore ⊢
  rw [List.findSome?_append, hbefore, List.findSome?_cons, ht]
  rfl

/-- A connection is open exactly when it has reported its opening and no end. -/
theorem Course.isOpen_iff (h : Course c reads events) :
    c.state = .opened ↔ .opened ∈ events ∧ ∀ x ∈ events, x.end? = none := by
  rw [show (∀ x ∈ events, x.end? = none) ↔ Channel.endOf events = none from
    List.findSome?_eq_none_iff.symm]
  constructor
  · intro hs
    have hne := h.events_ne_nil hs
    have hend : Channel.endOf events = none := by
      cases ht : Channel.endOf events with
      | none => rfl
      | some t =>
        rw [(Channel.state_of_endOf h ht).1] at hs
        cases t <;> cases hs
    refine ⟨?_, hend⟩
    rcases h.story.language.1 with ⟨e, he⟩ | ⟨last, -, he⟩
    · -- a failure alone would be an end
      rcases List.prefix_cons_iff.1 ((List.prefix_append _ _).trans he) with hnil | ⟨es, hes, -⟩
      · exact absurd hnil hne
      · rw [hes] at hend
        cases hend
    · rcases List.prefix_cons_iff.1 ((List.prefix_append _ _).trans he) with hnil | ⟨es, hes, -⟩
      · exact absurd hnil hne
      · rw [hes]
        exact List.mem_cons_self
  · rintro ⟨hopened, hend⟩
    have hne : events ≠ [] := List.ne_nil_of_mem hopened
    have hlive := (Channel.state_of_reported rfl (h.reported_of_ne_nil hne)).2 hend
    have hearly := h.not_early hne
    cases hs : c.state <;> simp_all [ConnectionState.isTerminal]

/-- A connection has ended in a way exactly when it has reported that end. -/
theorem Course.state_eq_iff (h : Course c reads events) :
    (c.state = .closed ↔ .closed ∈ events) ∧ (c.state = .errored ↔ ∃ e, .failed e ∈ events) := by
  have reported {x : ConnectionEvent} {t : Termination} (hx : x ∈ events) (ht : x.end? = some t) :
      c.state = t.state :=
    (Channel.state_of_endOf h ((endOf_eq_some_iff h).2 ⟨x, hx, ht⟩)).1
  have ended (hs : c.state.isTerminal) : ∃ x ∈ events, ∃ t, x.end? = some t := by
    obtain ⟨t, ht⟩ := Channel.exists_endOf h hs
    obtain ⟨x, hx, hxt⟩ := (endOf_eq_some_iff h).1 ht
    exact ⟨x, hx, t, hxt⟩
  refine ⟨⟨fun hs => ?_, fun hx => reported hx rfl⟩, fun hs => ?_, ?_⟩
  · obtain ⟨x, hx, t, ht⟩ := ended (by rw [hs]; rfl)
    cases x with
    | closed => exact hx
    | failed e => rw [reported hx rfl] at hs; cases hs
    | opened | frame f => cases ht
  · obtain ⟨x, hx, t, ht⟩ := ended (by rw [hs]; rfl)
    cases x with
    | failed e => exact ⟨e, hx⟩
    | closed => rw [reported hx rfl] at hs; cases hs
    | opened | frame f => cases ht
  · rintro ⟨e, hx⟩
    exact reported hx rfl

/-- The states of a connection are a beginning of one of three ways through its life. -/
theorem History.Kept.states_prefix (h : r.Kept c) :
    r.states <+: [.idle, .connecting, .errored] ∨
      ∃ s, (s = .closed ∨ s = .errored) ∧ r.states <+: [.idle, .connecting, .opened, s] := by
  have frames (fs : List String) :
      (fs.map ConnectionEvent.frame).filterMap ConnectionEvent.state? = [] := by
    simp [ConnectionEvent.state?]
  rw [h.states, statesOf]
  split
  · exact .inl ⟨[.connecting, .errored], rfl⟩
  · rcases h.course.story.language.1 with ⟨e, he⟩ | ⟨last, hlast, he⟩
    · have := ((List.prefix_append _ _).trans he).filterMap ConnectionEvent.state?
      exact .inl (by simpa [List.filterMap_cons, ConnectionEvent.state?] using this)
    · have := ((List.prefix_append _ _).trans he).filterMap ConnectionEvent.state?
      right
      rcases hlast with rfl | ⟨e, rfl⟩
      · exact ⟨.closed, .inl rfl, by
          simpa [List.filterMap_cons, ConnectionEvent.state?, frames] using this⟩
      · exact ⟨.errored, .inr rfl, by
          simpa [List.filterMap_cons, ConnectionEvent.state?, frames] using this⟩

/-- Whatever the transport answers and whenever the owner asks to write, what a connection
    has reported is a beginning of one failure, or of its opening, the frames that were
    read, in order, and one end. A failure is that of the missing transport or the first
    error that came, and an end in good order is one that reading has brought. The states
    of the connection are a beginning of one of three ways through its life, the last of
    them is the one it shows, and it goes with what has been reported; after an end
    nothing more is reported. -/
theorem event_language (h : Lived params fault c r) :
    ((∃ e, r.events <+: [.failed e]) ∨ ∃ last, (last = .closed ∨ ∃ e, last = .failed e) ∧
      r.events <+: .opened :: ((r.reads.filterMap Received.frame?).map .frame ++ [last])) ∧
    (∀ e, .failed e ∈ r.events → fault.or r.errors.head? = some e) ∧
    (.closed ∈ r.events → r.reads.getLast? = some .ended) ∧
    (r.states <+: [.idle, .connecting, .errored] ∨
      ∃ s, (s = .closed ∨ s = .errored) ∧ r.states <+: [.idle, .connecting, .opened, s]) ∧
    r.states.getLast? = some c.state ∧
    (c.state = .opened ↔ .opened ∈ r.events ∧ ∀ x ∈ r.events, x.end? = none) ∧
    (c.state = .closed ↔ .closed ∈ r.events) ∧
    (c.state = .errored ↔ ∃ e, .failed e ∈ r.events) ∧
    ∀ x before after, r.events = before ++ x :: after → x.end? ≠ none → after = [] := by
  obtain ⟨hfault, hkept⟩ := h.kept
  obtain ⟨hlanguage, hclosed⟩ := hkept.course.story.language
  have hbegins : r.events <+: r.events ++ c.unreported := List.prefix_append _ _
  refine ⟨?_, ?_, ?_, hkept.states_prefix, hkept.shown, hkept.course.isOpen_iff,
    hkept.course.state_eq_iff.1, hkept.course.state_eq_iff.2, ?_⟩
  · rcases hlanguage with ⟨e, he⟩ | ⟨last, hlast, he⟩
    · exact .inl ⟨e, hbegins.trans he⟩
    · exact .inr ⟨last, hlast, hbegins.trans he⟩
  · intro e he
    rw [← hfault]
    exact hkept.blamed e (hbegins.subset he)
  · intro he
    exact hclosed (hbegins.subset he)
  · intro x before after hevents hx
    cases after with
    | nil => rfl
    | cons y after =>
      have hcourse := hkept.course
      rw [hevents, List.append_cons] at hcourse
      have hnone := List.findSome?_eq_none_iff.1 (Channel.endOf_eq_none hcourse) x (by simp)
      exact absurd hnone hx

/-- A connection and its history after some actions and requests to write; those that are
    not possible are passed over. -/
def History.replay (c : Connection) (r : History) : List (Action ⊕ String) → Connection × History
  | [] => (c, r)
  | .inl a :: xs =>
      match c.step? a with
      | some (c', es) => replay c' (r.add a c.state c'.state es) xs
      | none => replay c r xs
  | .inr f :: xs => replay (c.post (.send f)) r xs

theorem Lived.replay (h : Lived params fault c r) (xs : List (Action ⊕ String)) :
    Lived params fault (r.replay c xs).1 (r.replay c xs).2 := by
  induction xs generalizing c r with
  | nil => exact h
  | cons x xs ih =>
    cases x with
    | inr f => exact ih (.ask f h)
    | inl a =>
      rw [History.replay]
      split
      · next hs => exact ih (.act h hs)
      · exact ih h

/-- A connection that is asked to write too early, reads a frame, and then fails to write
    another before it has reported the frame it read meanwhile. -/
def unwritten : Connection × History :=
  History.replay { params := { url := "ws://host" } } {} [.inl (.start 0), .inr "early",
    .inl .handle, .inl (.connected none), .inl (.received 0 (.frame "x")), .inl .handle,
    .inr "late", .inl .handle, .inl .handle, .inl (.wrote 0 (some .timeout)), .inl .handle,
    .inr "never", .inl .disconnected]

theorem event_language_unwritten :
    unwritten.2.events = [.opened, .frame "x", .failed .timeout] ∧
    unwritten.2.states = [.idle, .connecting, .opened, .errored] ∧
    (none : Option TransportError).or unwritten.2.errors.head? = some .timeout ∧
    (unwritten.1.state = .opened ↔ .opened ∈ unwritten.2.events ∧
      ∀ x ∈ unwritten.2.events, x.end? = none) ∧
    (unwritten.1.state = .errored ↔ ∃ e, .failed e ∈ unwritten.2.events) := by
  have hlived : Lived { url := "ws://host" } none unwritten.1 unwritten.2 := Lived.new.replay _
  have hevents : unwritten.2.events = [.opened, .frame "x", .failed .timeout] := rfl
  obtain ⟨-, hblamed, -, -, -, hopen, -, herrored, -⟩ := event_language hlived
  exact ⟨hevents, rfl, hblamed .timeout (by rw [hevents]; simp), hopen, herrored⟩

end Connection

end PartyLine
