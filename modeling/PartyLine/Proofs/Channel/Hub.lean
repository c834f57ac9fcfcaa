import PartyLine.Proofs.Channel.Round

/-!
# The hub

The hub takes a message of its inbox: it adds or drops a subscriber, or lets what
the connection reports go round. A sound channel is sound again when the hub has
done so.

Between rounds nothing is due, and a message that is taken moves from the inbox to the journal
(`Sound.took`). For each kind of message the accounts are then brought to the stage that the
message leads to, and what is still to be done is put into the round: nothing for a subscription
that is stored or dropped, one entry for one that comes late, all entries of the set where an
event goes round. The rounds of `PartyLine.Proofs.Channel.Round` end with nothing due again.

* `Sound.took`: a message is taken, and what it calls for is still to be done;
* `Sound.restock`: between rounds the set may be replaced;
* `Sound.takeMessage`: what the hub does with a message keeps a channel sound.
-/

namespace PartyLine

namespace Channel

variable {t : Trace} {r r' : Round} {c c' : Channel} {m : Message} {rest : List Message}

/-- The channel whose hub has taken a message, with another set. -/
def taking (c : Channel) (m : Message) (rest : List Message) (f : Fanout) : Channel :=
  { c with inbox := rest, fanout := f }.record (.took m)

@[simp] theorem flag?_taking (f : Fanout) (id : Nat) :
    (c.taking m rest f).flag? id = c.flag? id := by
  cases id <;> rfl

/-- A message is taken: every account goes on. -/
theorem Sound.took (h : Sound t r c) (r' : Round) (hinbox : c.inbox = m :: rest)
    (haccounts : ∀ id a, account id c.journal = some a → r.Holds c id a.stage →
      ∃ a', a.next id (.took m) = some a' ∧ r'.Holds (c.taking m rest r'.fanout) id a'.stage)
    (hended : Channel.ended (c.journal ++ [.took m]) = r'.ended)
    (hentries : ∀ e, e ∈ r'.fanout.entries ∨ e ∈ r'.due →
      e.listener = e.id ∧ ((e.id, e.subscriber) ∈ arrivals c.journal ∨
        m.subscription? = some (e.id, e.subscriber)))
    (hnodup : (r'.fanout.entries.map (·.id)).Nodup) (hdue : (r'.due.map (·.id)).Nodup) :
    Sound t r' (c.taking m rest r'.fanout) := by
  have hjournal : (c.taking m rest r'.fanout).journal = c.journal ++ [.took m] := rfl
  -- a message leaves the inbox for the journal: an arrival or an event of the one is now one of
  -- the other, and what was asked for by subscribing and sending stays as it is
  have hsubscriptions : subscriptions (c.journal ++ [.took m]) = subscriptions c.journal := by simp
  have harrivals : arrivals (c.journal ++ [.took m]) =
      arrivals c.journal ++ m.subscription?.toList := by
    cases m <;> simp [Message.subscription?]
  have hevents : eventsTaken (c.journal ++ [.took m]) =
      eventsTaken c.journal ++ m.event?.toList := by
    cases m <;> simp [Message.event?]
  refine { h with
    accounts := ?accounts
    heard := ?heard
    fanout := rfl
    ended := hended
    entries := ?entries
    entries_nodup := hnodup
    due_nodup := hdue
    subscriptions_nodup := by simpa [hjournal, hsubscriptions] using h.subscriptions_nodup
    subscribed := ?subscribed
    withdrawn := ?withdrawn
    reported := ?reported
    outgoing := ?outgoing
    counted := ?counted }
  case accounts =>
    intro id
    obtain ⟨a, ha, hh⟩ := h.accounts id
    obtain ⟨a', ha', hh'⟩ := haccounts id a ha hh
    refine ⟨a', ?_, hh'⟩
    rw [hjournal, account_append, ha]
    simpa using ha'
  case heard =>
    -- taking a message tells nobody anything yet
    intro id l hl
    have := h.heard id l (by cases id <;> exact hl)
    simpa [hjournal] using this
  case entries =>
    intro e he
    obtain ⟨hl, he⟩ := hentries e he
    rw [hjournal, harrivals, List.mem_append, Option.mem_toList]
    exact ⟨hl, he⟩
  case subscribed =>
    have := h.subscribed
    rw [hinbox] at this
    rw [hjournal, hsubscriptions, harrivals, this]
    show _ = _ ++ rest.filterMap _
    cases m <;> simp [List.filterMap_cons, Message.subscription?]
  case withdrawn =>
    intro id hid
    have := h.withdrawn id (hinbox ▸ List.mem_cons_of_mem m hid)
    simpa [hjournal] using this
  case reported =>
    have := h.reported
    rw [hinbox] at this
    rw [hjournal, hevents, this]
    show _ = _ ++ rest.filterMap _
    cases m <;> simp [List.filterMap_cons, Message.event?]
  case outgoing =>
    show c.connection.Outgoing _ _
    simpa [hjournal] using h.outgoing
  case counted =>
    show c.statistics.sent = _
    simpa [hjournal] using h.counted

/-- Between rounds, the same is held of a subscription as long as its flag and its entry
    stay as they are. -/
theorem Round.Holds.idle {id : Nat} {stage : Stage} (h : r.Holds c id stage) (r' : Round)
    (hr : r.due = []) (hflag : c'.flag? id = c.flag? id)
    (hentries : ∀ s, stage = .stored s → ∀ e ∈ r.fanout.entries, e.id = id → e ∈ r'.fanout.entries)
    (hdue : ∀ e ∈ r'.due, e.id ≠ id) : r'.Holds c' id stage ∧ stage.isBusy = false := by
  cases h with
  | unknown hf => exact ⟨.unknown (hflag.trans hf), rfl⟩
  | awaited hf => exact ⟨.awaited (hflag.trans hf), rfl⟩
  | stored hf he hid =>
    refine ⟨.stored (hflag.trans hf) (hentries _ rfl _ he hid) hid ?_, rfl⟩
    exact fun ⟨e', he', hid'⟩ => absurd hid' (hdue e' he')
  | due _ _ _ hd | late _ hd => rw [hr] at hd; cases hd
  | past hf => exact ⟨.past (hflag.trans hf), rfl⟩

/-- When nobody is due, the set may be replaced by one that has all who are stored. -/
theorem Sound.restock (h : Sound t r c) (hdue : r.due = []) (f : Fanout)
    (hended : r.ended = f.termination) (hentries : ∀ e ∈ f.entries, e ∈ r.fanout.entries)
    (hstored : ∀ id a s, account id c.journal = some a → a.stage = .stored s →
      ∀ e ∈ r.fanout.entries, e.id = id → e ∈ f.entries)
    (hnodup : (f.entries.map (·.id)).Nodup) :
    Sound t (.idle { c with fanout := f }) { c with fanout := f } := by
  have hlistener (id : Nat) : listener? { c with fanout := f } id = c.listener? id := by
    cases id <;> rfl
  refine { h with
    accounts := ?_
    heard := fun id l hl => h.heard id l (hlistener id ▸ hl)
    fanout := rfl
    ended := h.ended.trans hended
    entries := ?_
    entries_nodup := hnodup
    due_nodup := List.nodup_nil }
  · intro id
    obtain ⟨a, ha, hh⟩ := h.accounts id
    have hflag : flag? { c with fanout := f } id = c.flag? id := by rw [flag?, flag?, hlistener]
    exact ⟨a, ha, (hh.idle (.idle { c with fanout := f }) hdue hflag
      (fun s => hstored id a s ha) (List.forall_mem_nil _)).1⟩
  · intro e he
    exact h.entries e (.inl (hentries e (he.resolve_right List.not_mem_nil)))

/-- A round is over when nobody is due. -/
theorem Sound.idle (h : Sound t r c) (hdue : r.due = [])
    (hlatch : r.fanout.termination = r.ended) : Sound t (.idle c) c := by
  have hfanout := h.fanout
  exact h.restock hdue c.fanout (by rw [hfanout, hlatch]) (fun e he => hfanout ▸ he)
    (fun _ _ _ _ _ e he _ => hfanout ▸ he) (hfanout ▸ h.entries_nodup)

/-! ## Events -/

/-- An event is taken before the end only. -/
theorem Sound.ended_eq_none (h : Sound t r c) {e : ConnectionEvent}
    (hinbox : c.inbox = .event e :: rest) : Channel.ended c.journal = none := by
  have hcourse := h.course
  rw [h.reported, hinbox, List.filterMap_cons] at hcourse
  exact endOf_eq_none hcourse

/-- An event is taken: what it makes the hub tell goes round. -/
theorem Sound.tookEvent (h : Sound t (.idle c) c) {e : ConnectionEvent}
    (hinbox : c.inbox = .event e :: rest) (r' : Round) (hfanout : r'.fanout = c.fanout)
    (hended : r'.ended = e.end?)
    (hnote : e.note? = none ∧ r'.due = [] ∨ e.note? = some r'.note ∧ r'.due = c.fanout.entries) :
    Sound t r' (c.taking (.event e) rest c.fanout) := by
  have hnone := h.ended_eq_none hinbox
  have hmem (e' : Fanout.Entry) (he' : e' ∈ r'.fanout.entries ∨ e' ∈ r'.due) :
      e' ∈ c.fanout.entries := by
    rcases hnote with ⟨-, hd⟩ | ⟨-, hd⟩ <;> simpa [hd, hfanout] using he'
  rw [← hfanout]
  refine h.took r' hinbox (fun id a ha hh => ?_) (by simp [hnone, hended]) (fun e' he' => ?_)
    (hfanout ▸ h.entries_nodup) ?_
  · obtain ⟨end?, stage⟩ := a
    obtain rfl : end? = none := (fits_of_account ha).1.trans hnone
    have hbusy := (hh.idle (.idle c) rfl rfl (fun _ _ _ he _ => he) (List.forall_mem_nil _)).2
    refine ⟨_, Account.next_took.2 ⟨hbusy, rfl⟩, ?_⟩
    rcases hnote with ⟨hn, hd⟩ | ⟨hn, hd⟩
    · rw [hn]
      exact (hh.idle r' rfl (flag?_taking _ _) (fun _ _ e he _ => hfanout ▸ he) (by simp [hd])).1
    · -- whoever is stored has its turn to come, if it wants the note
      rw [hn]
      cases hh with
      | unknown hf => exact .unknown ((flag?_taking _ _).trans hf)
      | awaited hf => exact .awaited ((flag?_taking _ _).trans hf)
      | past hf => exact .past ((flag?_taking _ _).trans hf)
      | @stored e' hf he' hid =>
        simp only [Option.elim, Stage.goesRound]
        split
        · next hw =>
          exact .due ((flag?_taking _ _).trans hf) (hfanout ▸ he') hid (hd ▸ he')
        · next hw =>
          exact .stored ((flag?_taking _ _).trans hf) (hfanout ▸ he') hid fun _ => by simpa using hw
      | due _ _ _ hd' | late _ hd' => cases hd'
  · obtain ⟨hl, harr⟩ := h.entries e' (.inl (hmem e' he'))
    exact ⟨hl, .inl harr⟩
  · rcases hnote with ⟨-, hd⟩ | ⟨-, hd⟩
    · simp [hd]
    · exact hd ▸ h.entries_nodup

/-- A frame goes round and is counted. -/
theorem Sound.frame (h : Sound t (.idle c) c) {f : String}
    (hinbox : c.inbox = .event (.frame f) :: rest) :
    Sound t (.idle ((c.taking (.event (.frame f)) rest c.fanout).handleEvent (.frame f)))
      ((c.taking (.event (.frame f)) rest c.fanout).handleEvent (.frame f)) := by
  have hlatch : c.fanout.termination = none := h.ended.symm.trans (h.ended_eq_none hinbox)
  have h := h.tookEvent hinbox ⟨c.fanout, none, .ofFrame f, c.fanout.entries⟩ rfl rfl
    (.inr ⟨rfl, rfl⟩)
  generalize c.taking (.event (.frame f)) rest c.fanout = c₀ at h ⊢
  have hfanout : c₀.fanout = c.fanout := h.fanout
  have hterminal : (Note.ofFrame f).isTerminal = false := Note.isTerminal_ofFrame f
  rw [← hfanout] at h hlatch
  cases hf : Envelope.decode f with
  | ok e =>
    have hn : Note.ofFrame f = .message e := by simp [Note.ofFrame, hf]
    rw [hn] at h hterminal
    have := Sound.tellAll (r := ⟨c₀.fanout, none, .message e, []⟩) hlatch hterminal h
    simp only [handleEvent, hf, Fanout.deliver, hlatch, Option.isSome_none, Bool.false_eq_true,
      if_false]
    exact (this.idle rfl hlatch).count fun _ => rfl
  | error m =>
    have hn : Note.ofFrame f = .error (.malformed m) := by simp [Note.ofFrame, hf]
    rw [hn] at h hterminal
    have := Sound.tellAll (r := ⟨c₀.fanout, none, .error (.malformed m), []⟩) hlatch hterminal
      (h.count (g := fun s => { s with malformed := s.malformed + 1 }) fun _ => rfl)
    simp only [handleEvent, hf, Fanout.report, fanout_count, hlatch, Option.isSome_none,
      Bool.false_eq_true, if_false]
    exact this.idle rfl hlatch

/-- Once the end has gone round, the set is empty and its end is latched. -/
theorem Sound.latch (h : Sound t r c) (hdue : r.due = []) {t' : Termination}
    (hended : r.ended = some t') :
    Sound t (.idle { c with fanout := { entries := [], termination := some t' } })
      { c with fanout := { entries := [], termination := some t' } } := by
  refine h.restock hdue { entries := [], termination := some t' } hended (List.forall_mem_nil _)
    (fun id a s ha hs => ?_) List.nodup_nil
  -- whoever is stored has not been told of the end
  obtain ⟨-, hfits⟩ := fits_of_account ha
  rw [hs] at hfits
  cases hfits with
  | stored _ _ _ hnone =>
    rw [h.ended, hended] at hnone
    cases hnone

/-- The end goes round and is latched. -/
theorem Sound.terminate (h : Sound t (.idle c) c) {e : ConnectionEvent} {t' : Termination}
    (hinbox : c.inbox = .event e :: rest) (he : e.end? = some t') :
    Sound t (.idle ((c.taking (.event e) rest c.fanout).terminate t'))
      ((c.taking (.event e) rest c.fanout).terminate t') := by
  have hlatch : c.fanout.termination = none := h.ended.symm.trans (h.ended_eq_none hinbox)
  have h := h.tookEvent hinbox ⟨c.fanout, some t', t'.note, c.fanout.entries⟩ rfl he.symm
    (.inr ⟨ConnectionEvent.note?_of_end? he, rfl⟩)
  generalize c.taking (.event e) rest c.fanout = c₀ at h ⊢
  have hfanout : c₀.fanout = c.fanout := h.fanout
  rw [← hfanout] at h hlatch
  have := Sound.finishAll (r := { fanout := c₀.fanout, ended := some t', note := t'.note })
    hlatch rfl h
  simp only [Channel.terminate, Fanout.terminate, hlatch, Option.isSome_none, Bool.false_eq_true,
    if_false]
  exact (this.latch rfl rfl).count fun _ => rfl

/-! ## Subscriptions -/

/-- A subscription whose message is next in the inbox is awaited. -/
theorem Sound.awaiting (h : Sound t (.idle c) c) {id : Nat} {s : Subscriber}
    (hinbox : c.inbox = .subscribe id s :: rest) : ∃ released,
      account id c.journal = some ⟨c.fanout.termination, .awaited released⟩ ∧
        c.flag? id = some !released ∧ ∀ e ∈ c.fanout.entries, e.id ≠ id := by
  have hsubscribed := h.subscribed
  have hnodup := h.subscriptions_nodup
  rw [hinbox, List.filterMap_cons] at hsubscribed
  have hmem : (id, s) ∈ subscriptions c.journal := by simp [hsubscribed, Message.subscription?]
  -- its number is no other's, so its message has not been taken before
  have hnew (s' : Subscriber) : (id, s') ∉ arrivals c.journal := fun harr => by
    rw [hsubscribed, List.map_append, List.nodup_append] at hnodup
    exact hnodup.2.2 id (List.mem_map_of_mem (f := Prod.fst) harr) id
      (by simp [Message.subscription?]) rfl
  obtain ⟨⟨end?, stage⟩, ha, hh⟩ := h.accounts id
  obtain ⟨hend, hfits⟩ := fits_of_account ha
  obtain rfl : end? = c.fanout.termination := hend.trans h.ended
  cases hfits with
  | unknown hs => exact absurd hmem (hs s)
  | @awaited released =>
    cases hh with
    | awaited hf =>
      refine ⟨released, ha, hf, fun e he hid => ?_⟩
      exact hnew e.subscriber (hid ▸ (h.entries e (.inl he)).2)
  | stored harr | due harr | ending harr | late harr | last harr | released harr | finished harr =>
    exact absurd harr (hnew _)

/-- The message of a subscription is taken: it is awaited no more, and all others are
    where they were. -/
theorem Sound.tookSubscribe (h : Sound t (.idle c) c) {id : Nat} {s : Subscriber}
    (hinbox : c.inbox = .subscribe id s :: rest) (r' : Round) {released : Bool} {stage : Stage}
    (ha : account id c.journal = some ⟨c.fanout.termination, .awaited released⟩)
    (hnew : ∀ e ∈ c.fanout.entries, e.id ≠ id)
    (hstage : (Stage.awaited released).arrive? s c.fanout.termination = some stage)
    (hholds : r'.Holds (c.taking (.subscribe id s) rest r'.fanout) id stage)
    (hended : r'.ended = c.fanout.termination)
    (hentries : r'.fanout.entries = c.fanout.entries ∨
      r'.fanout.entries = c.fanout.entries ++ [⟨id, id, s⟩])
    (hdue : r'.due = [] ∨ r'.due = [⟨id, id, s⟩]) :
    Sound t r' (c.taking (.subscribe id s) rest r'.fanout) := by
  have hold (e : Fanout.Entry) (he : e ∈ c.fanout.entries) : e ∈ r'.fanout.entries := by
    rcases hentries with hentries | hentries <;> simp [hentries, he]
  refine h.took r' hinbox (fun i a hi hh => ?_) ?_ (fun e he => ?_) ?_ ?_
  · by_cases hid : i = id
    · subst hid
      obtain rfl := Option.some.inj (ha.symm.trans hi)
      refine ⟨⟨c.fanout.termination, stage⟩, Account.next_took.2 ⟨rfl, ?_⟩, hholds⟩
      simp [Account.take?, hstage]
    · -- to the others this message says nothing
      obtain ⟨hh, hbusy⟩ := hh.idle r' rfl (flag?_taking _ _) (fun _ _ e he _ => hold e he)
        (by rcases hdue with hdue | hdue <;> simp [hdue, Ne.symm hid])
      exact ⟨a, Account.next_took.2 ⟨hbusy, by simp [Account.take?, Ne.symm hid]⟩, hh⟩
  · rw [ended_append, h.ended, hended]
    exact Option.or_none
  · -- the only entry that may be new is that of the subscription, stored or told of the end
    have hstored (he : e ∈ r'.fanout.entries) : e ∈ c.fanout.entries ∨ e = ⟨id, id, s⟩ := by
      rcases hentries with hentries | hentries
      · exact .inl (hentries ▸ he)
      · simpa [hentries] using he
    have hlate (he : e ∈ r'.due) : e = ⟨id, id, s⟩ := by
      rcases hdue with hdue | hdue
      · simp [hdue] at he
      · simpa [hdue] using he
    rcases he.elim hstored fun he => .inr (hlate he) with he | rfl
    · obtain ⟨hl, harr⟩ := h.entries e (.inl he)
      exact ⟨hl, .inl harr⟩
    · exact ⟨rfl, .inr rfl⟩
  · rcases hentries with hentries | hentries
    · exact hentries ▸ h.entries_nodup
    · rw [hentries, List.map_append]
      refine List.nodup_append.2 ⟨h.entries_nodup, by simp, fun i hi j hj => ?_⟩
      obtain ⟨e, he, rfl⟩ := List.mem_map.1 hi
      obtain rfl := List.mem_singleton.1 hj
      exact hnew e he
  · rcases hdue with hdue | hdue <;> simp [hdue]

/-- Before the end a subscriber is stored, unless it has been released. -/
theorem Sound.insert (h : Sound t (.idle c) c) {id : Nat} {s : Subscriber}
    (hinbox : c.inbox = .subscribe id s :: rest) (hlatch : c.fanout.termination = none) :
    Sound t (.idle ((c.taking (.subscribe id s) rest c.fanout).handle (.subscribe id s)))
      ((c.taking (.subscribe id s) rest c.fanout).handle (.subscribe id s)) := by
  obtain ⟨released, ha, hflag, hnew⟩ := h.awaiting hinbox
  have hlatch' : (c.taking (.subscribe id s) rest c.fanout).fanout.termination = none := hlatch
  have hactive : (c.taking (.subscribe id s) rest c.fanout).isActive id = !released := by
    simp [isActive_eq, hflag]
  cases released with
  | true =>
    -- it has been released before it could be stored, and nothing is done with it
    have hhandle : (c.taking (.subscribe id s) rest c.fanout).handle (.subscribe id s) =
        c.taking (.subscribe id s) rest c.fanout := by
      simp [handle, Fanout.insert, hlatch', host, hactive]
    rw [hhandle]
    exact h.tookSubscribe hinbox (.idle c) ha hnew (by simp [Stage.arrive?, hlatch])
      (.past (by simpa using hflag)) rfl (.inl rfl) (.inl rfl)
  | false =>
    have hstore : c.fanout.store ⟨id, id, s⟩ =
        { c.fanout with entries := c.fanout.entries ++ [⟨id, id, s⟩] } := by
      have hcontains : c.fanout.contains id = false := by
        simpa [Fanout.contains, List.any_eq_false] using hnew
      simp [Fanout.store, hcontains]
    have hhandle : (c.taking (.subscribe id s) rest c.fanout).handle (.subscribe id s) =
        (c.taking (.subscribe id s) rest (c.fanout.store ⟨id, id, s⟩)).countSubscribers := by
      simp only [handle, Fanout.insert, hlatch', host, hactive, Bool.not_false, if_true]
      rfl
    rw [hhandle]
    have hholds : Round.Holds ⟨c.fanout.store ⟨id, id, s⟩, none, .complete, []⟩
        (c.taking (.subscribe id s) rest (c.fanout.store ⟨id, id, s⟩)) id (.stored s) :=
      .stored (e := ⟨id, id, s⟩) (by simpa using hflag) (by simp [hstore]) rfl (by simp)
    have hstored := h.tookSubscribe hinbox ⟨c.fanout.store ⟨id, id, s⟩, none, .complete, []⟩ ha
      hnew (by simp [Stage.arrive?, hlatch]) hholds hlatch.symm (.inr (by rw [hstore])) (.inl rfl)
    exact (hstored.idle rfl (by simpa [hstore] using hlatch)).count fun _ => rfl

/-- After the end a subscriber is told of it at once, released or not. -/
theorem Sound.insertLate (h : Sound t (.idle c) c) {id : Nat} {s : Subscriber} {t' : Termination}
    (hinbox : c.inbox = .subscribe id s :: rest) (hlatch : c.fanout.termination = some t') :
    Sound t (.idle ((c.taking (.subscribe id s) rest c.fanout).handle (.subscribe id s)))
      ((c.taking (.subscribe id s) rest c.fanout).handle (.subscribe id s)) := by
  obtain ⟨released, ha, hflag, hnew⟩ := h.awaiting hinbox
  have hholds : Round.Holds ⟨c.fanout, some t', t'.note, [⟨id, id, s⟩]⟩
      (c.taking (.subscribe id s) rest c.fanout) id (.late s t') :=
    .late (e := ⟨id, id, s⟩) (by simp [hflag]) (by simp) rfl hlatch rfl
  have h := h.tookSubscribe hinbox ⟨c.fanout, some t', t'.note, [⟨id, id, s⟩]⟩ ha hnew
    (by simp [Stage.arrive?, hlatch]) hholds hlatch.symm (.inl rfl) (.inr rfl)
  have ha₀ : account id (c.taking (.subscribe id s) rest c.fanout).journal =
      some ⟨some t', .late s t'⟩ := by
    show account id (c.journal ++ [.took (.subscribe id s)]) = _
    rw [account_append, ha]
    simp [Account.next, Account.take?, Stage.isBusy, Stage.arrive?, hlatch]
  have htold : Sound t ⟨c.fanout, some t', t'.note, []⟩
      (host.tell id s t'.note ((c.taking (.subscribe id s) rest c.fanout).dismiss id)) :=
    Sound.finish (r := ⟨c.fanout, some t', t'.note, []⟩) h ha₀ (by simp [hflag]) (.inr rfl)
      (List.forall_mem_nil _)
  have hhandle : (c.taking (.subscribe id s) rest c.fanout).handle (.subscribe id s) =
      { host.tell id s t'.note ((c.taking (.subscribe id s) rest c.fanout).dismiss id) with
        fanout := c.fanout } := by
    have hlatch' : (c.taking (.subscribe id s) rest c.fanout).fanout.termination = some t' := hlatch
    simp only [handle, Fanout.insert, hlatch']
    rfl
  have hfanout : Channel.fanout _ = c.fanout := htold.fanout
  rw [hhandle]
  -- the callbacks have left the set as it was
  generalize host.tell id s t'.note _ = w at htold hfanout ⊢
  rw [show { w with fanout := c.fanout } = w by rw [← hfanout]]
  exact htold.idle rfl hlatch

/-- A released subscription is dropped from the set. -/
theorem Sound.remove (h : Sound t (.idle c) c) {id : Nat}
    (hinbox : c.inbox = .unsubscribe id :: rest) :
    Sound t (.idle ((c.taking (.unsubscribe id) rest c.fanout).handle (.unsubscribe id)))
      ((c.taking (.unsubscribe id) rest c.fanout).handle (.unsubscribe id)) := by
  have hreleased : Released id c.journal := h.withdrawn id (by simp [hinbox])
  have hmem (e : Fanout.Entry) (he : e ∈ (c.fanout.remove id).2.entries) : e ∈ c.fanout.entries :=
    (List.mem_filter.1 he).1
  have htook : Sound t (.idle c) (c.taking (.unsubscribe id) rest c.fanout) := by
    refine h.took (.idle c) hinbox (fun i a _ hh => ?_) (by simpa using h.ended) (fun e he => ?_)
      h.entries_nodup List.nodup_nil
    · obtain ⟨hh, hbusy⟩ := hh.idle (.idle c) rfl (flag?_taking _ _) (fun _ _ e he _ => he)
        (List.forall_mem_nil _)
      exact ⟨a, Account.next_took.2 ⟨hbusy, rfl⟩, hh⟩
    · obtain ⟨hl, harr⟩ := h.entries e he
      exact ⟨hl, .inl harr⟩
  have hremoved : Sound t (.idle (c.taking (.unsubscribe id) rest (c.fanout.remove id).2))
      (c.taking (.unsubscribe id) rest (c.fanout.remove id).2) := by
    refine htook.restock rfl (c.fanout.remove id).2 rfl hmem (fun i a s ha hs e he hi => ?_)
      (h.entries_nodup.sublist (List.filter_sublist.map _))
    -- whoever is stored has not been released
    obtain ⟨-, hfits⟩ := fits_of_account ha
    rw [hs] at hfits
    refine List.mem_filter.2 ⟨he, ?_⟩
    cases hfits with
    | stored _ hr =>
      have hreleased : Released id (c.taking (.unsubscribe id) rest c.fanout).journal :=
        (released_append id _ _).2 (.inl hreleased)
      simpa using fun hid : e.id = id => hr (by rwa [← hi, hid])
  simp only [handle]
  split
  · exact hremoved.count fun _ => rfl
  · exact hremoved

/-- What the hub does with a message keeps a channel sound. -/
theorem Sound.takeMessage (h : Sound t (.idle c) c) (hc : c.takeMessage? = some c') :
    Sound t (.idle c') c' := by
  unfold takeMessage? at hc
  split at hc
  · cases hc
  · next m rest hinbox =>
    rw [← Option.some.inj hc]
    show Sound t (.idle ((c.taking m rest c.fanout).handle m)) ((c.taking m rest c.fanout).handle m)
    cases m with
    | subscribe id s =>
      cases hlatch : c.fanout.termination with
      | none => exact h.insert hinbox hlatch
      | some t' => exact h.insertLate hinbox hlatch
    | unsubscribe id => exact h.remove hinbox
    | event e =>
      cases e with
      | opened =>
        -- opening is not told to anyone
        have htook := h.tookEvent hinbox ⟨c.fanout, none, .complete, []⟩ rfl rfl (.inl ⟨rfl, rfl⟩)
        exact htook.idle rfl (h.ended.symm.trans (h.ended_eq_none hinbox))
      | frame f => exact h.frame hinbox
      | failed e => exact h.terminate hinbox rfl
      | closed => exact h.terminate hinbox rfl

end Channel

end PartyLine
