import PartyLine.Proofs.Channel.Turn
import PartyLine.Proofs.Connection.Stopping

/-!
# What a connection emits

The events that a connection emits wait in the hub's inbox until the hub takes them; what it has
taken stands in the journal. Together they are what the connection has reported, whoever does what
meanwhile: consumers and the hub ask it to write, and change nothing else of it.

* `emitted`: the events, taken or not;
* `OnCourse`: a channel whose connection is on its course, and whose end is latched when taken;
* `OnCourse.asked`, `OnCourse.acted`: what anybody does, and what the connection does;
* `termination_handle`: the end is latched by the message that brings it.
-/

namespace PartyLine

/-- Requests to write leave what is to be reported. -/
theorem Connection.unreported_of_asked {c c' : Connection} {fs : List String}
    (h : c' = { c with inbox := c.inbox ++ fs.map .send }) : c'.unreported = c.unreported := by
  simp [unreported, h, List.filterMap_map, Function.comp_def, Message.event?]

namespace Channel

/-- All that the connection has reported, whether the hub has taken it or not. -/
def emitted (c : Channel) : List ConnectionEvent :=
  eventsTaken c.journal ++ c.inbox.filterMap Message.event?

/-- The connection is on the course of what it has emitted, and the end that the hub has taken is
    latched. -/
structure OnCourse (c : Channel) : Prop where
  course : ∃ reads, c.connection.Course reads c.emitted
  halted : c.connection.Halted
  emptied : c.fanout.Emptied
  latched : c.fanout.termination = ended c.journal

/-- Of one event, none or all has been emitted. -/
theorem eq_nil_or_eq_of_prefix {es : List ConnectionEvent} {e : ConnectionEvent}
    (h : es <+: [e]) : es = [] ∨ es = [e] := by
  rcases List.prefix_cons_iff.1 h with hnil | ⟨rest, rfl, hrest⟩
  · exact .inl hnil
  · exact .inr (by rw [List.prefix_nil.1 hrest])

variable {c c' : Channel}

/-- A new channel. -/
theorem onCourse_init (params : ConnectParams) (fault : Option TransportError) :
    OnCourse (init params fault) where
  course := ⟨[], Connection.course_init params fault⟩
  halted := by simp [Connection.Halted, init]
  emptied _ := rfl
  latched := rfl

/-- The connection is asked to write, and reports nothing. -/
theorem OnCourse.asked (h : OnCourse c) {fs : List String}
    (hconnection : c'.connection =
      { c.connection with inbox := c.connection.inbox ++ fs.map .send })
    (hemitted : c'.emitted = c.emitted) (hemptied : c'.fanout.Emptied)
    (hlatched : c'.fanout.termination = ended c'.journal) : OnCourse c' := by
  obtain ⟨reads, hcourse⟩ := h.course
  have hunreported := Connection.unreported_of_asked hconnection
  refine ⟨⟨reads, ?_, ?_, ?_, ?_⟩, ?_, hemptied, hlatched⟩
  · rw [hemitted, hunreported, hconnection]
    exact hcourse.story
  · rw [hconnection]
    exact hcourse.idle
  · rw [hemitted, hconnection]
    exact hcourse.reported
  · rw [hconnection]
    exact hcourse.canQueue
  · rw [hconnection]
    exact h.halted

/-- The connection acts, and its events go to the hub. -/
theorem OnCourse.acted (h : OnCourse c) {a : Connection.Action} {connection : Connection}
    {es : List ConnectionEvent} (hs : c.connection.Step a connection es) :
    OnCourse { c with connection, inbox := c.inbox ++ es.map .event } ∧
      emitted { c with connection, inbox := c.inbox ++ es.map .event } = c.emitted ++ es := by
  obtain ⟨reads, hcourse⟩ := h.course
  have hemitted : emitted { c with connection, inbox := c.inbox ++ es.map .event } =
      c.emitted ++ es := by
    simp [emitted, List.filterMap_map, Function.comp_def, Message.event?]
  refine ⟨⟨⟨reads ++ a.reading, ?_⟩, h.halted.step hcourse hs, h.emptied, h.latched⟩, hemitted⟩
  rw [hemitted]
  exact hcourse.step hs

/-- What consumers do. -/
theorem OnCourse.served (h : OnCourse c) (hs : Served c c') :
    OnCourse c' ∧ c'.emitted = c.emitted := by
  obtain ⟨⟨fs, hconnection⟩, hfanout, ⟨ms, hinbox, hms⟩, ⟨xs, hjournal, hxs⟩⟩ := hs
  have htaken : eventsTaken c'.journal = eventsTaken c.journal := by
    rw [hjournal, eventsTaken_append, eventsTaken_of_not_took hxs, List.append_nil]
  have hemitted : c'.emitted = c.emitted := by
    rw [emitted, emitted, htaken, hinbox, List.filterMap_append, hms, List.append_nil]
  refine ⟨h.asked hconnection hemitted (hfanout ▸ h.emptied) ?_, hemitted⟩
  rw [hfanout, h.latched, ended, ended, htaken]

/-- The end is latched by the message that brings it, if it is the first. -/
theorem termination_handle (h : c.fanout.Emptied) (m : Message) :
    (c.handle m).fanout.termination = c.fanout.termination.or (m.event?.bind (·.end?)) := by
  have hhandling := handling h m
  generalize c.handle m = c' at hhandling
  have served {c' : Channel} (hs : Served c c') (hm : m.event?.bind (·.end?) = none) :
      c'.fanout.termination = c.fanout.termination.or (m.event?.bind (·.end?)) := by
    rw [hs.fanout, hm, Option.or_none]
  cases hhandling with
  | store => exact (Fanout.termination_store _ _).trans Option.or_none.symm
  | drop | absent | opened => exact Option.or_none.symm
  | late => exact served ((served_dismiss c _).trans (served_tell _ _ _ _)) rfl
  | remove => exact Option.or_none.symm
  | decoded => exact served ((served_tellAll _ _ c).trans (served_count _ _)) rfl
  | malformed => exact served ((served_count c _).trans (served_tellAll _ _ _)) rfl
  | @ended e t hend =>
    show c.fanout.termination.or (some t) = c.fanout.termination.or e.end?
    rw [hend]

/-- What the hub does. -/
theorem OnCourse.taken (h : OnCourse c) {m : Message} {rest : List Message}
    (hinbox : c.inbox = m :: rest) (hs : c.takeMessage? = some c') :
    OnCourse c' ∧ c'.emitted = c.emitted ∧ (∃ ms, c'.inbox = rest ++ ms) ∧
      eventsTaken c'.journal = eventsTaken c.journal ++ m.event?.toList := by
  obtain ⟨m', rest', hinbox', ⟨fs, hconnection⟩, hemptied, ⟨ms, hrest, hms⟩, ⟨xs, hjournal, hxs⟩⟩ :=
    takes_of_takeMessage? hs
  obtain ⟨rfl, rfl⟩ := List.cons.inj (hinbox.symm.trans hinbox')
  have htaken : eventsTaken c'.journal = eventsTaken c.journal ++ m.event?.toList := by
    rw [hjournal, eventsTaken_append, eventsTaken_cons, eventsTaken_of_not_took hxs,
      List.append_nil]
    cases m <;> rfl
  have hemitted : c'.emitted = c.emitted := by
    rw [emitted, emitted, htaken, hrest, hinbox, List.filterMap_append, hms, List.append_nil]
    cases h : m.event? <;> simp [h]
  refine ⟨h.asked hconnection hemitted (hemptied h.emptied) ?_, hemitted, ⟨ms, hrest⟩, htaken⟩
  have htermination := termination_handle (c := { c with inbox := rest }.record (.took m))
    h.emptied m
  have hc' : ({ c with inbox := rest }.record (.took m)).handle m = c' := by
    simpa [takeMessage?, hinbox] using hs
  rw [hc'] at htermination
  refine htermination.trans ?_
  show c.fanout.termination.or (m.event?.bind (·.end?)) = _
  rw [h.latched, ended, ended, htaken, endOf, endOf, List.findSome?_append]
  cases m.event? <;> simp

/-- The set is rearranged. -/
theorem OnCourse.rearranged (h : OnCourse c) {entries : List Fanout.Entry}
    (hperm : entries.Perm c.fanout.entries) :
    OnCourse { c with fanout := { c.fanout with entries } } where
  course := h.course
  halted := h.halted
  emptied hlatch := List.Perm.eq_nil (h.emptied hlatch ▸ hperm)
  latched := h.latched

/-- Whatever happens. -/
theorem OnCourse.step (h : OnCourse c) {a : Action} (hs : c.step? a = some c') :
    OnCourse c' ∧ c.emitted <+: c'.emitted := by
  rcases moves_of_step? hs with
    @⟨a, connection, es, hstep⟩ | @⟨m, rest, _, hinbox, -⟩ | ⟨-, hserved⟩
  · obtain ⟨h', hemitted⟩ := h.acted (Connection.step_of_step? hstep)
    exact ⟨h', hemitted ▸ List.prefix_append _ _⟩
  · obtain ⟨h', hemitted, -, -⟩ := h.taken hinbox hs
    exact ⟨h', hemitted ▸ List.prefix_rfl⟩
  · obtain ⟨h', hemitted⟩ := h.served hserved
    exact ⟨h', hemitted ▸ List.prefix_rfl⟩

end Channel

end PartyLine
