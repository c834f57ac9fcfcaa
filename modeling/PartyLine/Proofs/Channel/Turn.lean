import PartyLine.Proofs.Channel.Sound
import PartyLine.Proofs.Fanout

/-!
# Turns of the hub

The hub takes a message and runs callbacks, which may do in turn what consumers do. What
all of these can change, beside the listeners and what is counted, is little: the
connection is asked to write frames, the hub's inbox gets requests, and the journal goes
on without another message being taken.

How little this is shows in the rounds. Whatever the callbacks of a round do, one after the other,
the connection keeps its state and its task, the set is not touched, and no message is taken; and
since the same is true of every single thing that a consumer can do, it is proved for these and
carried through the rounds by transitivity. What the hub itself does besides is change its set, in
three of the cases (`Handling`).

* `Served`: what consumers and callbacks can change, `Served.trans`;
* `served_grant`, `served_tellAll`, `served_finishAll`: they change no more;
* `Handling`, `handling`: what the hub does with a message, case by case;
* `Takes`, `takes_of_takeMessage?`: the hub's turn as a whole;
* `Moves`, `moves_of_step?`: the steps of a channel, those of consumers being one kind.
-/

namespace PartyLine

namespace Channel

/-- What consumers and callbacks can change of a channel. -/
structure Served (c c' : Channel) : Prop where
  connection : ∃ fs : List String, c'.connection =
    { c.connection with inbox := c.connection.inbox ++ fs.map .send }
  fanout : c'.fanout = c.fanout
  inbox : ∃ ms, c'.inbox = c.inbox ++ ms ∧ ms.filterMap Message.event? = []
  journal : ∃ xs, c'.journal = c.journal ++ xs ∧ ∀ m, .took m ∉ xs

variable {c c' c'' : Channel}

theorem Served.refl (c : Channel) : Served c c where
  connection := ⟨[], by simp⟩
  fanout := rfl
  inbox := ⟨[], by simp⟩
  journal := ⟨[], by simp⟩

theorem Served.trans (h : Served c c') (h' : Served c' c'') : Served c c'' := by
  obtain ⟨⟨fs, hconnection⟩, hfanout, ⟨ms, hinbox, hms⟩, ⟨xs, hjournal, hxs⟩⟩ := h
  obtain ⟨⟨fs', hconnection'⟩, hfanout', ⟨ms', hinbox', hms'⟩, ⟨xs', hjournal', hxs'⟩⟩ := h'
  refine ⟨⟨fs ++ fs', ?_⟩, hfanout'.trans hfanout, ⟨ms ++ ms', ?_, ?_⟩, ⟨xs ++ xs', ?_, ?_⟩⟩
  · simp [hconnection', hconnection]
  · rw [hinbox', hinbox, List.append_assoc]
  · rw [List.filterMap_append, hms, hms', List.append_nil]
  · rw [hjournal', hjournal, List.append_assoc]
  · intro m hm
    exact (List.mem_append.1 hm).elim (hxs m) (hxs' m)

/-- What concerns one subscription is served. -/
theorem Extends.served {i : Nat} {xs : List Happening} {ms : List Message}
    (h : Extends c i xs ms c') (hxs : ∀ m, .took m ∉ xs) (hms : ms.filterMap Message.event? = []) :
    Served c c' where
  connection := ⟨[], by simp [h.connection]⟩
  fanout := h.fanout
  inbox := ⟨ms, h.inbox, hms⟩
  journal := ⟨xs, h.journal, hxs⟩

theorem served_subscribe (c : Channel) (s : Subscriber) : Served c (c.subscribe s).2 where
  connection := ⟨[], by simp [subscribe, post]⟩
  fanout := rfl
  inbox := ⟨[.subscribe (c.listeners.length + 1) s], rfl, rfl⟩
  journal := ⟨[.subscribed (c.listeners.length + 1) s], rfl, by simp⟩

theorem served_release (c : Channel) (id : Nat) (caller : Option Nat) :
    Served c (c.release id caller) := by
  obtain ⟨xs, ms, hextends, hxs, hms⟩ := extends_release c id caller
  refine hextends.served (fun m hm => by cases hxs _ hm) ?_
  exact List.filterMap_eq_nil_iff.2 fun m hm => by rw [hms m hm]; rfl

theorem served_handOver (c : Channel) (e : Envelope) : Served c (c.handOver e) where
  connection := ⟨[e.encode], rfl⟩
  fanout := rfl
  inbox := ⟨[], (List.append_nil _).symm, rfl⟩
  journal := ⟨[.sent e], rfl, by simp⟩

theorem served_count (c : Channel) (g : Statistics → Statistics) : Served c (c.count g) where
  connection := ⟨[], by simp [count]⟩
  fanout := rfl
  inbox := ⟨[], (List.append_nil _).symm, rfl⟩
  journal := ⟨[], (List.append_nil _).symm, by simp⟩

theorem served_send (c : Channel) (e : Envelope) : Served c (c.send e) := by
  unfold send
  split
  · exact served_handOver c e
  · exact served_count c fun s => { s with droppedSends := s.droppedSends + 1 }

/-- What a subscriber asks for is served. -/
theorem served_grant (c : Channel) (id : Nat) (q : Request) : Served c (c.grant id q) := by
  cases q with
  | leave => exact served_release c id _
  | release other => exact served_release c other _
  | send e => exact served_send c e
  | subscribe s => exact served_subscribe c s

/-- A callback is served, with all that it asks for. -/
theorem served_tell (c : Channel) (id : Nat) (s : Subscriber) (n : Note) :
    Served c (host.tell id s n c) :=
  tell_keeps (fun h => h.trans ((extends_hear c id n).served (by simp) rfl))
    (fun c' q h => h.trans (served_grant c' id q)) (.refl c)

theorem served_dismiss (c : Channel) (id : Nat) : Served c (c.dismiss id) :=
  (extends_dismiss c id).served (by simp) rfl

/-- So is a round in which a note is told. -/
theorem served_tellAll (n : Note) (es : List Fanout.Entry) (c : Channel) :
    Served c (Fanout.tellAll host n es c).2 :=
  tellAll_keeps (fun c' _ _ _ h => h.trans (served_tell c' _ _ _)) (.refl c)

/-- And the round of the end. -/
theorem served_finishAll (t : Termination) (es : List Fanout.Entry) (c : Channel) :
    Served c (Fanout.finishAll host t es c).2 :=
  finishAll_keeps (fun c' _ _ _ h => h.trans ((served_dismiss c' _).trans (served_tell _ _ _ _)))
    (.refl c)

/-! ## Messages -/

/-- What the hub does with a message, when nobody is stored after the end. -/
inductive Handling (c : Channel) : Message → Channel → Prop
  | store {id : Nat} {s : Subscriber} : c.fanout.termination = none → c.isActive id →
      Handling c (.subscribe id s) { c with fanout := c.fanout.store ⟨id, id, s⟩ }.countSubscribers
  /-- It has been released meanwhile. -/
  | drop {id : Nat} {s : Subscriber} : c.fanout.termination = none → c.isActive id = false →
      Handling c (.subscribe id s) c
  | late {id : Nat} {s : Subscriber} {t : Termination} : c.fanout.termination = some t →
      Handling c (.subscribe id s) (host.tell id s t.note (c.dismiss id))
  | remove {id : Nat} : c.fanout.contains id →
      Handling c (.unsubscribe id) { c with fanout := (c.fanout.remove id).2 }.countSubscribers
  | absent {id : Nat} : c.fanout.contains id = false → Handling c (.unsubscribe id) c
  | opened : Handling c (.event .opened) c
  | decoded {f : String} {e : Envelope} : Envelope.decode f = .ok e →
      Handling c (.event (.frame f)) ((Fanout.tellAll host (.message e) c.fanout.entries c).2.count
        fun s => { s with delivered := s.delivered + 1 })
  | malformed {f : String} {m : MalformedFrame} : Envelope.decode f = .error m →
      Handling c (.event (.frame f)) (Fanout.tellAll host (.error (.malformed m)) c.fanout.entries
        (c.count fun s => { s with malformed := s.malformed + 1 })).2
  | ended {e : ConnectionEvent} {t : Termination} : e.end? = some t →
      Handling c (.event e) ({ (Fanout.finishAll host t c.fanout.entries c).2 with
        fanout := { entries := [], termination := c.fanout.termination.or (some t) }
          }.count fun s => { s with subscribers := 0 })

variable {m : Message}

/-- The end is handled in one way, whether it is the first or not. -/
theorem terminate_eq_of_emptied (h : c.fanout.Emptied) (t : Termination) : c.terminate t =
    { (Fanout.finishAll host t c.fanout.entries c).2 with
      fanout := { entries := [], termination := c.fanout.termination.or (some t) }
        }.count fun s => { s with subscribers := 0 } := by
  cases hlatch : c.fanout.termination with
  | none => simp [terminate, Fanout.terminate, hlatch]
  | some t' =>
    have hentries : c.fanout.entries = [] := h (by simp [hlatch])
    have hfanout : c.fanout = { entries := [], termination := some t' } := by
      rw [← hentries, ← hlatch]
    simp [terminate, Fanout.terminate, hlatch, hentries, Fanout.finishAll, ← hfanout]

theorem handling_subscribe (c : Channel) (id : Nat) (s : Subscriber) :
    Handling c (.subscribe id s) (c.handle (.subscribe id s)) := by
  cases hlatch : c.fanout.termination with
  | some t =>
    have htold : (host.tell id s t.note (c.dismiss id)).fanout = c.fanout :=
      ((served_dismiss c id).trans (served_tell _ id s t.note)).fanout
    have heq : c.handle (.subscribe id s) = host.tell id s t.note (c.dismiss id) := by
      simp only [handle, Fanout.insert, hlatch, Bool.false_eq_true, if_false]
      show { host.tell id s t.note (c.dismiss id) with fanout := c.fanout } = _
      rw [← htold]
    rw [heq]
    exact .late hlatch
  | none =>
    cases hactive : c.isActive id with
    | true =>
      have heq : c.handle (.subscribe id s) =
          { c with fanout := c.fanout.store ⟨id, id, s⟩ }.countSubscribers := by
        simp [handle, Fanout.insert, hlatch, host, hactive]
      rw [heq]
      exact .store hlatch hactive
    | false =>
      have heq : c.handle (.subscribe id s) = c := by
        simp [handle, Fanout.insert, hlatch, host, hactive]
      rw [heq]
      exact .drop hlatch hactive

theorem handling_unsubscribe (c : Channel) (id : Nat) :
    Handling c (.unsubscribe id) (c.handle (.unsubscribe id)) := by
  cases hcontains : c.fanout.contains id with
  | true =>
    have heq : c.handle (.unsubscribe id) =
        { c with fanout := (c.fanout.remove id).2 }.countSubscribers := by
      simp [handle, Fanout.remove, hcontains]
    rw [heq]
    exact .remove hcontains
  | false =>
    have hremove : (c.fanout.remove id).2 = c.fanout := by
      have hall : c.fanout.entries.filter (·.id != id) = c.fanout.entries := by
        refine List.filter_eq_self.2 fun e he => ?_
        simpa using List.any_eq_false.1 hcontains e he
      simp [Fanout.remove, hall]
    have heq : c.handle (.unsubscribe id) = c := by
      simp only [handle, hremove]
      simp [Fanout.remove, hcontains]
    rw [heq]
    exact .absent hcontains

/-- After the end there is nobody to be told. -/
theorem tellAll_of_emptied (h : c.fanout.Emptied) (note : Note) {c' : Channel}
    (hc' : c'.fanout = c.fanout) :
    (if c'.fanout.termination.isSome then ((0 : Nat), c')
      else Fanout.tellAll host note c'.fanout.entries c').2 =
    (Fanout.tellAll host note c.fanout.entries c').2 := by
  rw [hc']
  split
  · next hlatch => rw [h hlatch, Fanout.tellAll]
  · rfl

theorem handling_event (h : c.fanout.Emptied) (e : ConnectionEvent) :
    Handling c (.event e) (c.handle (.event e)) := by
  cases e with
  | opened => exact .opened
  | failed e =>
    simp only [handle, handleEvent, terminate_eq_of_emptied h]
    exact .ended rfl
  | closed =>
    simp only [handle, handleEvent, terminate_eq_of_emptied h]
    exact .ended rfl
  | frame f =>
    simp only [handle, handleEvent]
    split
    · next e he =>
      simp only [Fanout.deliver, tellAll_of_emptied h (.message e) rfl]
      exact .decoded he
    · next m hm =>
      simp only [Fanout.report, tellAll_of_emptied h (.error (.malformed m)) (fanout_count c _)]
      exact .malformed hm

/-- Whatever the message, the hub does one of these things. -/
theorem handling (h : c.fanout.Emptied) (m : Message) : Handling c m (c.handle m) := by
  cases m with
  | subscribe id s => exact handling_subscribe c id s
  | unsubscribe id => exact handling_unsubscribe c id
  | event e => exact handling_event h e

/-! ## Whole turns -/

/-- The hub's turn: a message of its inbox is taken, and the rest is served. -/
structure Takes (c : Channel) (m : Message) (rest : List Message) (c' : Channel) : Prop where
  connection : ∃ fs : List String, c'.connection =
    { c.connection with inbox := c.connection.inbox ++ fs.map .send }
  fanout : c.fanout.Emptied → c'.fanout.Emptied
  inbox : ∃ ms, c'.inbox = rest ++ ms ∧ ms.filterMap Message.event? = []
  journal : ∃ xs, c'.journal = c.journal ++ .took m :: xs ∧ ∀ m', .took m' ∉ xs

/-- The end is latched in an empty set. -/
theorem served_terminate (c : Channel) (t : Termination) :
    ∃ c' f, c.terminate t = { c' with fanout := f } ∧ Served c c' ∧
      (c.fanout.Emptied → f.Emptied) := by
  cases hlatch : c.fanout.termination.isSome with
  | true =>
    refine ⟨c.count fun s => { s with subscribers := 0 }, c.fanout, ?_, served_count c _, id⟩
    simp [terminate, Fanout.terminate, hlatch, count]
  | false =>
    refine ⟨(Fanout.finishAll host t c.fanout.entries c).2.count
        fun s => { s with subscribers := 0 },
      { entries := [], termination := some t }, ?_,
      (served_finishAll t c.fanout.entries c).trans (served_count _ _), fun _ _ => rfl⟩
    simp [terminate, Fanout.terminate, hlatch, count]

/-- Whatever message the hub handles, it serves, and then may change the set. -/
theorem served_handle (c : Channel) (m : Message) :
    ∃ c' f, c.handle m = { c' with fanout := f } ∧ Served c c' ∧
      (c.fanout.Emptied → f.Emptied) := by
  -- of all messages only three change the set: storing, removing and the end
  have unchanged {c' : Channel} (h : Served c c') :
      ∃ c'' f, c' = { c'' with fanout := f } ∧ Served c c'' ∧ (c.fanout.Emptied → f.Emptied) :=
    ⟨c', c.fanout, by rw [← h.fanout], h, id⟩
  cases m with
  | subscribe id s =>
    have hhandling := handling_subscribe c id s
    generalize c.handle (.subscribe id s) = c' at hhandling ⊢
    cases hhandling with
    | store hlatch =>
      refine ⟨c.count fun st => { st with subscribers := (c.fanout.store ⟨id, id, s⟩).size },
        c.fanout.store ⟨id, id, s⟩, rfl, served_count c _, fun _ h => ?_⟩
      rw [Fanout.termination_store, hlatch] at h
      cases h
    | drop => exact unchanged (.refl c)
    | late => exact unchanged ((served_dismiss c id).trans (served_tell _ _ _ _))
  | unsubscribe id =>
    have hhandling := handling_unsubscribe c id
    generalize c.handle (.unsubscribe id) = c' at hhandling ⊢
    cases hhandling with
    | remove =>
      exact ⟨c.count fun st => { st with subscribers := (c.fanout.remove id).2.size },
        (c.fanout.remove id).2, rfl, served_count c _, (·.remove id)⟩
    | absent => exact unchanged (.refl c)
  | event e =>
    cases e with
    | opened => exact unchanged (.refl c)
    | failed e => exact served_terminate c _
    | closed => exact served_terminate c _
    | frame f =>
      -- a round for an envelope, or for the error for want of one; after the end there is none
      refine unchanged ?_
      simp only [handle, handleEvent]
      split
      · next e _ =>
        refine Served.trans ?_ (served_count _ fun st => { st with delivered := st.delivered + 1 })
        unfold Fanout.deliver
        split
        · exact .refl c
        · exact served_tellAll _ _ c
      · next e _ =>
        refine (served_count c fun st => { st with malformed := st.malformed + 1 }).trans ?_
        unfold Fanout.report
        split
        · exact .refl _
        · exact served_tellAll _ _ _

/-- Whatever the hub takes, it makes a turn of it. -/
theorem takes_of_takeMessage? (h : c.takeMessage? = some c') :
    ∃ m rest, c.inbox = m :: rest ∧ Takes c m rest c' := by
  unfold takeMessage? at h
  split at h
  · cases h
  · next m rest hinbox =>
    obtain ⟨c'', f, hc'', hserved, hf⟩ :=
      served_handle ({ c with inbox := rest }.record (.took m)) m
    obtain rfl := hc''.symm.trans (Option.some.inj h)
    obtain ⟨hconnection, -, hms, xs, hjournal, hxs⟩ := hserved
    refine ⟨m, rest, hinbox, hconnection, hf, hms, xs, ?_, hxs⟩
    show c''.journal = _
    rw [hjournal]
    simp

/-! ## Steps -/

/-- The steps of a channel by their kinds. -/
inductive Moves (c : Channel) : Action → Channel → Prop
  | connection {a : Connection.Action} {connection : Connection} {es : List ConnectionEvent} :
      c.connection.step? a = some (connection, es) →
      Moves c (.connection a) { c with connection, inbox := c.inbox ++ es.map .event }
  | hub {m : Message} {rest : List Message} {c' : Channel} :
      c.inbox = m :: rest → Takes c m rest c' → Moves c .hub c'
  | consumer {a : Action} {c' : Channel} :
      (∀ a', a ≠ .connection a') → Served c c' → Moves c a c'

/-- Every step is of one of these kinds. -/
theorem moves_of_step? {a : Action} (h : c.step? a = some c') : Moves c a c' := by
  cases a with
  | connection a =>
    obtain ⟨⟨connection, es⟩, hstep, rfl⟩ := Option.map_eq_some_iff.1 h
    exact .connection hstep
  | hub =>
    obtain ⟨m, rest, hinbox, htakes⟩ := takes_of_takeMessage? h
    exact .hub hinbox htakes
  | subscribe s =>
    cases h
    exact .consumer (by simp) (served_subscribe c s)
  | release id =>
    cases h
    exact .consumer (by simp) (served_release c id none)
  | send e =>
    cases h
    exact .consumer (by simp) (served_send c e)

end Channel

end PartyLine
