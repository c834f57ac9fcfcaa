import PartyLine.Proofs.Channel.Account
import PartyLine.Proofs.Channel.Fields
import PartyLine.Proofs.Connection.Outgoing

/-!
# Sound channels

A channel is *sound* at a moment if what it holds goes with what has happened to
it: each flag and each entry of the set with the account of its subscription, the
hub's inbox with what was subscribed, released and reported, and the connection
with its course. Moments lie between any two callbacks of a round, too; what has
not been told yet is part of the moment.

A moment therefore has a *round* beside the channel: the set as the round found it, the note
that goes round, and those who are still to have their turn. What a channel holds of a
subscription is said stage by stage (`Round.Holds`): without a flag it is unknown, with its
message waiting it is in no set, stored it is in the set with its flag set, and so on. All
else in `Sound` is read off the journal, which nothing but what happens now adds to.

Most of what happens is about one subscription. It leaves the flags, the turns and the
accounts of all others as they are, and adds nothing to the journal that the connection or the
set would have to answer for; so it keeps a channel sound as soon as the account of that one
subscription goes on (`Sound.happen`). Callbacks ask for the same things as consumers do, in the
middle of a round, and are no case of their own.

* `Round`: the round a moment lies in;
* `Round.Holds`: what a channel holds of a subscription at each stage;
* `Sound`: the invariant;
* `Sound.happen`: what happens to one subscription keeps it;
* `Sound.subscribe`, `Sound.release`, `Sound.send`: what consumers do keeps it,
  from inside callbacks too.
-/

namespace PartyLine

namespace Channel

/-- The subscription that a message is about to add. -/
def Message.subscription? : Message → Option (Nat × Subscriber)
  | subscribe id s => some (id, s)
  | _ => none

/-- The event that a message brings. -/
def Message.event? : Message → Option ConnectionEvent
  | event e => some e
  | _ => none

/-! ## Moments -/

/-- What has been seen of a connection from outside: what its task is doing, what it
    has read and written with success, and the events reported. -/
structure Trace where
  task : Connection.Task := .unstarted
  reads : List Received := []
  events : List ConnectionEvent := []
  writes : List String := []

/-- The round a moment lies in. -/
structure Round where
  /-- The stored subscribers as the round found them. -/
  fanout : Fanout
  /-- How the channel has ended, if so. -/
  ended : Option Termination
  /-- What goes round. -/
  note : Note := .complete
  /-- Those whose turn is still to come. -/
  due : List Fanout.Entry := []

/-- The moments of a channel between rounds. -/
def Round.idle (c : Channel) : Round := { fanout := c.fanout, ended := c.fanout.termination }

/-- What a channel holds of a subscription at a stage. -/
inductive Round.Holds (r : Round) (c : Channel) (id : Nat) : Stage → Prop
  | unknown : c.flag? id = none → Holds r c id .unknown
  | awaited {released : Bool} : c.flag? id = some !released → Holds r c id (.awaited released)
  | stored {e : Fanout.Entry} : c.flag? id = some true → e ∈ r.fanout.entries → e.id = id →
      ((∃ e' ∈ r.due, e'.id = id) → (r.note.isTerminal || e.subscriber.wants r.note) = false) →
      Holds r c id (.stored e.subscriber)
  | due {e : Fanout.Entry} : c.flag? id = some true → e ∈ r.fanout.entries → e.id = id →
      e ∈ r.due → Holds r c id (.due e.subscriber r.note)
  | late {e : Fanout.Entry} {t : Termination} : (c.flag? id).isSome → e ∈ r.due → e.id = id →
      r.fanout.termination = some t → r.note = t.note → Holds r c id (.late e.subscriber t)
  | past : c.flag? id = some false → Holds r c id .past

/-- A sound channel at a moment, with what has been seen of its connection. -/
structure Sound (t : Trace) (r : Round) (c : Channel) : Prop where
  accounts (id : Nat) : ∃ a, account id c.journal = some a ∧ r.Holds c id a.stage
  heard (id : Nat) (l : Listener) : c.listener? id = some l → l.heard = toldTo id c.journal
  fanout : c.fanout = r.fanout
  ended : Channel.ended c.journal = r.ended
  entries (e : Fanout.Entry) : e ∈ r.fanout.entries ∨ e ∈ r.due →
    e.listener = e.id ∧ (e.id, e.subscriber) ∈ arrivals c.journal
  entries_nodup : (r.fanout.entries.map (·.id)).Nodup
  due_nodup : (r.due.map (·.id)).Nodup
  subscriptions_nodup : ((subscriptions c.journal).map (·.1)).Nodup
  subscribed : subscriptions c.journal =
    arrivals c.journal ++ c.inbox.filterMap Message.subscription?
  withdrawn (id : Nat) : .unsubscribe id ∈ c.inbox → Released id c.journal
  reported : t.events = eventsTaken c.journal ++ c.inbox.filterMap Message.event?
  task : c.connection.task = t.task
  course : c.connection.Course t.reads t.events
  outgoing : c.connection.Outgoing ((sentIn c.journal).map Envelope.encode) t.writes
  counted : c.statistics.sent = (sentIn c.journal).length

/-! ## What happens to one subscription -/

/-- Whether something happens to a subscription that the hub or a callback does. -/
def Happening.IsAbout (id : Nat) : Happening → Prop
  | released i _ | dismissed i | told i _ => i = id
  | _ => False

section About

variable {i : Nat} {xs : List Happening} (h : ∀ x ∈ xs, x.IsAbout i)

include h

/-- What happens to one subscription is no event, and nobody subscribes or sends by it. -/
theorem views_of_isAbout :
    subscriptions xs = [] ∧ arrivals xs = [] ∧ eventsTaken xs = [] ∧ sentIn xs = [] := by
  induction xs with
  | nil => exact ⟨rfl, rfl, rfl, rfl⟩
  | cons x xs ih =>
    obtain ⟨h₁, h₂, h₃, h₄⟩ := ih fun y hy => h y (List.mem_cons_of_mem x hy)
    have hx := h x List.mem_cons_self
    cases x with
    | released | dismissed | told => simp [h₁, h₂, h₃, h₄]
    | subscribed | sent | took => cases hx

/-- Nothing is told to the others. -/
theorem toldTo_of_isAbout {id : Nat} (hid : id ≠ i) : toldTo id xs = [] :=
  List.filterMap_eq_nil_iff.2 fun x hx => by
    cases x with
    | told j n =>
      obtain rfl : j = i := h _ hx
      simp [Ne.symm hid]
    | _ => rfl

/-- The accounts of the others stay as they are. -/
theorem after?_of_isAbout {id : Nat} (hid : id ≠ i) (a : Account) : a.after? id xs = some a := by
  induction xs with
  | nil => rfl
  | cons x xs ih =>
    have hx : a.next id x = some a := by
      have := h x List.mem_cons_self
      cases x with
      | released j caller | dismissed j | told j n =>
        obtain rfl : j = i := this
        simp [Account.next, Ne.symm hid]
      | _ => cases this
    rw [Account.after?_cons, hx]
    exact ih fun y hy => h y (List.mem_cons_of_mem x hy)

end About

/-- Releases bring no subscription and no event. -/
theorem views_of_releases {i : Nat} {ms : List Message} (h : ∀ m ∈ ms, m = .unsubscribe i) :
    ms.filterMap Message.subscription? = [] ∧ ms.filterMap Message.event? = [] := by
  refine ⟨List.filterMap_eq_nil_iff.2 fun m hm => ?_, List.filterMap_eq_nil_iff.2 fun m hm => ?_⟩
  · simp [h m hm, Message.subscription?]
  · simp [h m hm, Message.event?]

variable {t : Trace} {r : Round} {c c' : Channel}

/-- The same is held of a subscription as long as its flag and its turn stay as they
    are. -/
theorem Round.Holds.congr {due : List Fanout.Entry} {id : Nat} {stage : Stage}
    (h : r.Holds c id stage) (hflag : c'.flag? id = c.flag? id)
    (hdue : ∀ e, e.id = id → (e ∈ due ↔ e ∈ r.due)) : { r with due }.Holds c' id stage := by
  cases h with
  | unknown hf => exact .unknown (hflag.trans hf)
  | awaited hf => exact .awaited (hflag.trans hf)
  | stored hf he hid hn =>
    refine .stored (hflag.trans hf) he hid fun ⟨e', he', hid'⟩ => hn ⟨e', ?_, hid'⟩
    exact (hdue e' hid').1 he'
  | due hf he hid hd => exact .due (hflag.trans hf) he hid ((hdue _ hid).2 hd)
  | late hf he hid ht hn => exact .late (hflag ▸ hf) ((hdue _ hid).2 he) hid ht hn
  | past hf => exact .past (hflag.trans hf)

/-- Something happens to one subscription, whose turn may thereby be done. -/
theorem Sound.happen (h : Sound t r c) {i : Nat} {xs : List Happening} {ms : List Message}
    (hc : Extends c i xs ms c') (hxs : ∀ x ∈ xs, x.IsAbout i)
    (hms : ∀ m ∈ ms, m = .unsubscribe i ∧ Released i xs) {due : List Fanout.Entry}
    (hdue : due.Sublist r.due) (hdue' : ∀ e ∈ r.due, e.id ≠ i → e ∈ due)
    (haccount : ∀ a, account i c.journal = some a → r.Holds c i a.stage →
      ∃ a', a.after? i xs = some a' ∧ { r with due }.Holds c' i a'.stage)
    (hheard : ∀ l, c'.listener? i = some l → l.heard = toldTo i c.journal ++ toldTo i xs) :
    Sound t { r with due } c' := by
  obtain ⟨hsubscriptions, harrivals, hevents, hsent⟩ := views_of_isAbout hxs
  obtain ⟨hsubscribing, hreporting⟩ := views_of_releases fun m hm => (hms m hm).1
  -- the connection and the set are as they were, and the rest is read off a journal in which
  -- nothing is new but for this subscription
  refine { h with
    accounts := ?accounts
    heard := ?heard
    fanout := hc.fanout.trans h.fanout
    ended := ?ended
    entries := ?entries
    due_nodup := h.due_nodup.sublist (hdue.map _)
    subscriptions_nodup := ?subscriptions_nodup
    subscribed := ?subscribed
    withdrawn := ?withdrawn
    reported := ?reported
    task := hc.connection ▸ h.task
    course := hc.connection ▸ h.course
    outgoing := ?outgoing
    counted := ?counted }
  case accounts =>
    intro id
    obtain ⟨a, ha, hh⟩ := h.accounts id
    rw [hc.journal, account_append, ha]
    by_cases hid : id = i
    · subst hid
      exact haccount a ha hh
    · -- the others have no part in it, and their turns stay as they are
      refine ⟨a, after?_of_isAbout hxs hid a, hh.congr ?_ ?_⟩
      · rw [flag?, flag?, hc.listener id hid]
      · intro e he
        exact ⟨fun hmem => hdue.subset hmem, fun hmem => hdue' e hmem (he ▸ hid)⟩
  case heard =>
    intro id l hl
    rw [hc.journal, toldTo_append]
    by_cases hid : id = i
    · subst hid
      exact hheard l hl
    · -- nothing is told to the others
      rw [toldTo_of_isAbout hxs hid, List.append_nil]
      exact h.heard id l (hc.listener id hid ▸ hl)
  case ended =>
    -- no event has been taken, and so no end
    rw [hc.journal, ended_append, h.ended, Channel.ended, hevents]
    exact Option.or_none
  case entries =>
    intro e he
    rw [hc.journal, arrivals_append, harrivals, List.append_nil]
    exact h.entries e (he.imp_right fun he => hdue.subset he)
  case subscriptions_nodup =>
    rw [hc.journal, subscriptions_append, hsubscriptions, List.append_nil]
    exact h.subscriptions_nodup
  case subscribed =>
    -- the only messages that come are releases
    rw [hc.journal, hc.inbox, subscriptions_append, arrivals_append, List.filterMap_append,
      hsubscriptions, harrivals, hsubscribing]
    simpa using h.subscribed
  case withdrawn =>
    intro id hid
    rw [hc.inbox, List.mem_append] at hid
    rw [hc.journal, released_append]
    rcases hid with hid | hid
    · exact .inl (h.withdrawn id hid)
    · -- a release that has just come is in the journal too
      obtain ⟨hm, hr⟩ := hms _ hid
      cases hm
      exact .inr hr
  case reported =>
    rw [hc.journal, hc.inbox, eventsTaken_append, List.filterMap_append, hevents, hreporting]
    simpa using h.reported
  case outgoing =>
    rw [hc.connection, hc.journal, sentIn_append, hsent, List.append_nil]
    exact h.outgoing
  case counted =>
    rw [hc.statistics, hc.journal, sentIn_append, hsent, List.append_nil]
    exact h.counted

/-! ## What consumers do -/

/-- Whether a caller may be running, or none, while some are still to have their turn:
    theirs comes after its own, and none of them came after the end. -/
def Round.Admits (r : Round) (caller : Option Nat) : Prop :=
  ∀ e ∈ r.due, r.fanout.termination = none ∧ caller.any (· != e.id)

/-- A release is possible at every stage of a subscription between callbacks. -/
theorem Round.Holds.release {id : Nat} {caller : Option Nat} {stage : Stage} {b : Bool}
    (h : r.Holds c id stage) (hflag : c.flag? id = some b)
    (hcaller : r.Admits caller) (hflag' : c'.flag? id = some false) :
    ∃ stage', stage.release? id caller = some stage' ∧ r.Holds c' id stage' := by
  cases h with
  | unknown hf => rw [hflag] at hf; cases hf
  | awaited => exact ⟨_, rfl, .awaited hflag'⟩
  | stored => exact ⟨_, rfl, .past hflag'⟩
  | @due e _ _ hid he =>
    exact ⟨.past, by simp [Stage.release?, ← hid, (hcaller e he).2], .past hflag'⟩
  | late _ he _ ht =>
    -- nobody calls while one that came after the end is to be told of it
    rw [(hcaller _ he).1] at ht
    cases ht
  | past => exact ⟨_, rfl, .past hflag'⟩

/-- Releasing a subscription, from inside a callback or not. -/
theorem Sound.release (h : Sound t r c) (id : Nat) {caller : Option Nat}
    (hcaller : r.Admits caller) : Sound t r (c.release id caller) := by
  cases hl : c.listener? id with
  | none => simpa [Channel.release, hl] using h
  | some l =>
    have hflag : c.flag? id = some l.active := by simp [flag?, hl]
    -- whether its flag was set or not, it is clear now, and nothing new is heard
    have released {c' : Channel} {ms : List Message}
        (hc : Extends c id [.released id caller] ms c') (hms : ∀ m ∈ ms, m = .unsubscribe id)
        (hl' : c'.listener? id = some { l with active := false }) : Sound t r c' := by
      refine h.happen hc (by simp [Happening.IsAbout]) (fun m hm => ⟨hms m hm, by simp⟩)
        (List.Sublist.refl _) (fun e he _ => he) (fun a ha hh => ?_) fun l'' hl'' => ?_
      · obtain ⟨stage, hs, hh⟩ := hh.release hflag hcaller
          (show c'.flag? id = some false by simp [flag?, hl'])
        exact ⟨{ a with stage }, by simp [Account.next, hs], hh⟩
      · obtain rfl := Option.some.inj (hl'.symm.trans hl'')
        simpa using h.heard id l hl
    have hrecord := extends_record c id (.released id caller)
    cases hactive : l.active with
    | true =>
      rw [show c.release id caller =
        ((c.record (.released id caller)).deactivate id).post (.unsubscribe id) by
          simp [Channel.release, hl, hactive]]
      exact released ((hrecord.trans (extends_updateListener _ id _)).trans (extends_post _ id _))
        (by simp) (by simp [deactivate, listener?_updateListener, hl])
    | false =>
      rw [show c.release id caller = c.record (.released id caller) by
        simp [Channel.release, hl, hactive]]
      exact released hrecord (List.forall_mem_nil _) (by simp [hl, ← hactive])

/-- What is known to the hub of a new number: nothing. -/
theorem Sound.unknown (h : Sound t r c) {id : Nat} (hid : c.flag? id = none) :
    ∃ a, account id c.journal = some a ∧ a.stage = .unknown := by
  obtain ⟨a, ha, hh⟩ := h.accounts id
  refine ⟨a, ha, ?_⟩
  generalize a.stage = stage at hh
  cases hh with
  | unknown => rfl
  | awaited hf | stored hf | due hf | late hf | past hf => simp [hid] at hf

/-- Subscribing: the new number is awaited. -/
theorem Sound.subscribe (h : Sound t r c) (s : Subscriber) : Sound t r (c.subscribe s).2 := by
  -- without a flag a number is unknown, and then the journal says nothing of it
  have hnew : c.flag? (c.listeners.length + 1) = none := by simp [flag?, listener?]
  obtain ⟨a, ha, hunknown⟩ := h.unknown hnew
  obtain ⟨he, hfits⟩ := fits_of_account ha
  rw [hunknown] at hfits
  obtain ⟨hfresh, htold⟩ : (∀ s, (c.listeners.length + 1, s) ∉ subscriptions c.journal) ∧
      toldTo (c.listeners.length + 1) c.journal = [] := by
    cases hfits with
    | unknown hs _ _ _ ht => exact ⟨hs, ht⟩
  have hjournal : (c.subscribe s).2.journal =
    c.journal ++ [.subscribed (c.listeners.length + 1) s] := rfl
  have hinbox : (c.subscribe s).2.inbox =
    c.inbox ++ [.subscribe (c.listeners.length + 1) s] := rfl
  refine { h with
    accounts := ?accounts
    heard := ?heard
    ended := by simpa [hjournal] using h.ended
    entries := by simpa [hjournal] using h.entries
    subscriptions_nodup := ?subscriptions_nodup
    subscribed := ?subscribed
    withdrawn := by simpa [hjournal, hinbox] using h.withdrawn
    reported := ?reported
    outgoing := ?outgoing
    counted := ?counted }
  case accounts =>
    intro id
    by_cases hid : id = c.listeners.length + 1
    · subst hid
      refine ⟨{ a with stage := .awaited false }, ?_,
        .awaited (by simp [flag?, listener?_subscribe])⟩
      rw [hjournal, account_append, ha]
      simp [Account.next, hunknown]
    · -- the flags of the others are where they were
      obtain ⟨b, hb, hh⟩ := h.accounts id
      refine ⟨b, ?_, hh.congr (by simp [flag?, listener?_subscribe, hid]) fun _ _ => .rfl⟩
      rw [hjournal, account_append, hb]
      simp [Account.next, Ne.symm hid]
  case heard =>
    intro id l hl
    rw [listener?_subscribe] at hl
    rw [hjournal, toldTo_append]
    split at hl
    · next hid => cases hl; simp [hid, htold]
    · simpa using h.heard id l hl
  case subscriptions_nodup =>
    rw [hjournal, subscriptions_append, List.map_append, List.nodup_append]
    refine ⟨h.subscriptions_nodup, by simp, ?_⟩
    -- the number is fresh
    intro i hi j hj
    obtain ⟨⟨i, s'⟩, hs', rfl⟩ := List.mem_map.1 hi
    rintro rfl
    simp at hj
    exact hfresh s' (hj ▸ hs')
  case subscribed =>
    rw [hjournal, hinbox]
    simp [h.subscribed, Message.subscription?]
  case reported =>
    simpa [hjournal, hinbox, List.filterMap_cons, Message.event?] using h.reported
  case outgoing =>
    rw [hjournal]
    show c.connection.Outgoing _ _
    simpa using h.outgoing
  case counted =>
    rw [hjournal]
    simpa using (show (c.subscribe s).2.statistics.sent = _ from h.counted)

/-- Handing an envelope to a connection that has been open. -/
theorem Sound.handOver (h : Sound t r c) (he : t.events ≠ []) (e : Envelope) :
    Sound t r (c.handOver e) := by
  have hjournal : (c.handOver e).journal = c.journal ++ [.sent e] := rfl
  refine { h with
    accounts := ?accounts
    heard := ?heard
    ended := by simpa [hjournal] using h.ended
    entries := by simpa [hjournal] using h.entries
    subscriptions_nodup := by simpa [hjournal] using h.subscriptions_nodup
    subscribed := by simpa [Channel.handOver] using h.subscribed
    withdrawn := by simpa [Channel.handOver] using h.withdrawn
    reported := by simpa [Channel.handOver] using h.reported
    course := h.course.post_send _
    outgoing := ?outgoing
    counted := by simpa [Channel.handOver] using h.counted }
  case accounts =>
    intro id
    obtain ⟨a, ha, hh⟩ := h.accounts id
    refine ⟨a, ?_, hh.congr (by rw [flag?, flag?, listener?_handOver]) fun _ _ => .rfl⟩
    rw [hjournal, account_append, ha]
    rfl
  case heard =>
    intro id l hl
    rw [hjournal, toldTo_append]
    simpa using h.heard id l (listener?_handOver c id e ▸ hl)
  case outgoing =>
    simpa [Channel.handOver] using h.outgoing.post_send (h.course.not_early he) e.encode

/-- Counting what is not sent changes nothing. -/
theorem Sound.count (h : Sound t r c) {g : Statistics → Statistics}
    (hg : ∀ s, (g s).sent = s.sent) : Sound t r (c.count g) := by
  refine { h with accounts := ?_, heard := ?_, counted := (hg _).trans h.counted }
  · intro id
    obtain ⟨a, ha, hh⟩ := h.accounts id
    exact ⟨a, ha, hh.congr (by rw [flag?, flag?, listener?_count]) fun _ _ => .rfl⟩
  · intro id l hl
    exact h.heard id l (listener?_count c id g ▸ hl)

/-- Sending an envelope, whatever the state of the connection. -/
theorem Sound.send (h : Sound t r c) (e : Envelope) : Sound t r (c.send e) := by
  unfold Channel.send
  split
  · next hs =>
    have hopen : c.connection.state = .opened := by simpa [state, ConnectionState.isOpen] using hs
    exact h.handOver (h.course.events_ne_nil hopen) e
  · exact h.count (g := fun s => { s with droppedSends := s.droppedSends + 1 }) fun _ => rfl

/-- What a subscriber asks for is done. -/
theorem Sound.grant (h : Sound t r c) {id : Nat} (hcaller : r.Admits (some id)) (q : Request) :
    Sound t r (c.grant id q) := by
  cases q with
  | leave => exact h.release id hcaller
  | release other => exact h.release other hcaller
  | send e => exact h.send e
  | subscribe s => exact h.subscribe s

end Channel

end PartyLine
