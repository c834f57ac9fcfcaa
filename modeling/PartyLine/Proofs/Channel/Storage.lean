import PartyLine.Proofs.Channel.Deeds

/-!
# Storage

Who takes part in a channel is kept in three places: the flags behind the handles, the set
of the hub, and the number that the channel shows. They change at different times. A new
handle has its flag set before the hub stores the subscriber, a released one has it cleared
before the hub drops it, and the end empties the set and clears the flags in one turn. In
between they differ by what waits in the hub's inbox, and by nothing else.

The invariant has a part for each way to differ: the number shown is the size of the set, and
whoever is stored with its flag cleared has its release waiting (`Tidy`); and whoever is active
without being stored has its subscription waiting, which is so in every sound channel
(`stored_or_waiting`). When nothing waits, those who are stored are those who are active. They
are counted by their numbers: the set has no number twice, and the active handles are counted
by their places among the listeners.

* `Tidy`: the set with its number, and the releases that the hub has still to learn of;
* `Tidy.grant`, `Tidy.tellAll`, `Tidy.take`: callbacks, rounds and the hub's turns keep it;
* `stored_or_waiting`: where the subscriber of an active handle is;
* `no_leaked_subscription`: flags, set and number, in every use of a channel.
-/

namespace PartyLine

namespace Channel

variable {c c' : Channel}

/-! ## Flags -/

/-- The hub learns of a release by a message, unless the flag was clear before. -/
theorem mem_inbox_release {id : Nat} (h : c.isActive id) (caller : Option Nat) :
    .unsubscribe id ∈ (c.release id caller).inbox := by
  obtain ⟨l, hl, hactive⟩ : ∃ l, c.listener? id = some l ∧ l.active = true := by
    simpa [flag?] using (isActive_iff c id).1 h
  have hrelease : c.release id caller =
      ((c.record (.released id caller)).deactivate id).post (.unsubscribe id) := by
    simp [release, hl, hactive]
  rw [hrelease]
  exact List.mem_append_right _ List.mem_cons_self

/-- Those who are active stay so when another subscribes. -/
theorem isActive_subscribe {id : Nat} (h : c.isActive id) (s : Subscriber) :
    (c.subscribe s).2.isActive id := by
  rw [isActive, listener?_subscribe]
  split
  · rfl
  · exact h

/-! ## What the inbox explains -/

/-- The set goes with the number that is shown, and whoever is stored in it with its flag
    cleared is about to be dropped. -/
structure Tidy (c : Channel) : Prop where
  emptied : c.fanout.Emptied
  counted : c.statistics.subscribers = c.fanout.size
  own (e : Fanout.Entry) : e ∈ c.fanout.entries → e.listener = e.id
  withdrawn (e : Fanout.Entry) : e ∈ c.fanout.entries → c.isActive e.id = false →
    .unsubscribe e.id ∈ c.inbox

/-- A channel stays tidy while the set stays as it is, no message is taken, and no flag is
    cleared without one. -/
theorem Tidy.congr (h : Tidy c) (hfanout : c'.fanout = c.fanout)
    (hcounted : c'.statistics.subscribers = c.statistics.subscribers)
    (hinbox : ∀ m ∈ c.inbox, m ∈ c'.inbox)
    (hflags : ∀ e ∈ c.fanout.entries, c.isActive e.id → c'.isActive e.id ∨
      .unsubscribe e.id ∈ c'.inbox) : Tidy c' := by
  refine ⟨hfanout ▸ h.emptied, ?_, hfanout ▸ h.own, fun e he hclear => ?_⟩
  · rw [hcounted, hfanout, h.counted]
  · rw [hfanout] at he
    cases hactive : c.isActive e.id with
    | true => simpa [hclear] using hflags e he hactive
    | false => exact hinbox _ (h.withdrawn e he hactive)

theorem Tidy.hear (h : Tidy c) (id : Nat) (n : Note) : Tidy (c.hear id n) := by
  have hextends := extends_hear c id n
  refine h.congr hextends.fanout (by rw [hextends.statistics]) ?_ fun e _ hactive => .inl ?_
  · rw [hextends.inbox]
    exact fun m hm => List.mem_append_left [] hm
  · rwa [isActive_eq, flag?_hear, ← isActive_eq]

theorem Tidy.release (h : Tidy c) (id : Nat) (caller : Option Nat) :
    Tidy (c.release id caller) := by
  obtain ⟨xs, ms, hextends, -⟩ := extends_release c id caller
  refine h.congr hextends.fanout (by rw [hextends.statistics]) ?_ fun e _ hactive => ?_
  · rw [hextends.inbox]
    exact fun m hm => List.mem_append_left ms hm
  · by_cases hid : e.id = id
    · rw [hid] at hactive ⊢
      exact .inr (mem_inbox_release hactive caller)
    · rw [isActive, hextends.listener e.id hid]
      exact .inl hactive

theorem Tidy.subscribe (h : Tidy c) (s : Subscriber) : Tidy (c.subscribe s).2 :=
  h.congr rfl rfl (fun _ hm => List.mem_append_left _ hm)
    fun _ _ hactive => .inl (isActive_subscribe hactive s)

theorem Tidy.handOver (h : Tidy c) (e : Envelope) : Tidy (c.handOver e) :=
  h.congr rfl rfl (fun _ hm => hm) fun e' _ hactive =>
    .inl (by rwa [isActive, listener?_handOver])

/-- Counting anything else keeps a channel tidy. -/
theorem Tidy.count (h : Tidy c) {g : Statistics → Statistics}
    (hg : ∀ s, (g s).subscribers = s.subscribers) : Tidy (c.count g) :=
  h.congr rfl (hg _) (fun _ hm => hm) fun e _ hactive =>
    .inl (by rwa [isActive, listener?_count])

theorem Tidy.send (h : Tidy c) (e : Envelope) : Tidy (c.send e) := by
  unfold Channel.send
  split
  · exact h.handOver e
  · exact h.count (g := fun s => { s with droppedSends := s.droppedSends + 1 }) fun _ => rfl

/-- What a subscriber asks for keeps a channel tidy. -/
theorem Tidy.grant (h : Tidy c) (id : Nat) (q : Request) : Tidy (c.grant id q) := by
  cases q with
  | leave => exact h.release id _
  | release other => exact h.release other _
  | send e => exact h.send e
  | subscribe s => exact h.subscribe s

/-- So does a callback. -/
theorem Tidy.tell (h : Tidy c) (id : Nat) (s : Subscriber) (n : Note) :
    Tidy (host.tell id s n c) :=
  tell_keeps (fun h => h.hear id n) (fun _ q h => h.grant id q) h

/-- And a round in which a note is told. -/
theorem Tidy.tellAll (h : Tidy c) (n : Note) (es : List Fanout.Entry) :
    Tidy (Fanout.tellAll host n es c).2 :=
  tellAll_keeps (fun _ _ _ _ h => h.tell _ _ n) h

/-- Nobody is stored, whoever is told. -/
theorem Tidy.of_entries_eq_nil (hentries : c.fanout.entries = [])
    (hcounted : c.statistics.subscribers = 0) : Tidy c where
  emptied _ := hentries
  counted := by rw [hcounted, Fanout.size, hentries, List.length_nil]
  own := by simp [hentries]
  withdrawn := by simp [hentries]

variable {m : Message} {rest : List Message}

/-- The hub has taken a message by which nobody who is stored is dropped. -/
theorem Tidy.taken (h : Tidy c) (hinbox : c.inbox = m :: rest)
    (hm : ∀ e ∈ c.fanout.entries, m ≠ .unsubscribe e.id) : Tidy (c.taking m rest c.fanout) := by
  refine ⟨h.emptied, h.counted, h.own, fun e he hclear => ?_⟩
  rw [isActive_eq, flag?_taking, ← isActive_eq] at hclear
  have hwaits := h.withdrawn e he hclear
  rw [hinbox] at hwaits
  exact (List.mem_cons.1 hwaits).resolve_left (hm e he).symm

/-- The set is replaced, and the number with it. -/
theorem Tidy.of_restocked {f : Fanout} (hemptied : f.Emptied)
    (hown : ∀ e ∈ f.entries, e.listener = e.id)
    (hwithdrawn : ∀ e ∈ f.entries, c.isActive e.id = false → .unsubscribe e.id ∈ c.inbox) :
    Tidy { c with fanout := f }.countSubscribers where
  emptied := hemptied
  counted := rfl
  own := hown
  withdrawn e he hclear := by
    refine hwithdrawn e he ?_
    rwa [countSubscribers, isActive, listener?_count] at hclear

/-- The hub's turns keep a channel tidy. -/
theorem Tidy.take (h : Tidy c) (hinbox : c.inbox = m :: rest) :
    Tidy ((c.taking m rest c.fanout).handle m) := by
  have htaken := h.taken hinbox
  have hhandling := handling (c := c.taking m rest c.fanout) h.emptied m
  generalize (c.taking m rest c.fanout).handle m = c' at hhandling
  cases hhandling with
  | drop | opened => exact htaken (by simp)
  | @store id s hlatch hactive =>
    replace htaken := htaken (by simp)
    refine .of_restocked (fun hended => ?_) (fun e he => ?_) fun e he hclear => ?_
    · rw [Fanout.termination_store, hlatch] at hended
      cases hended
    · rcases Fanout.mem_store he with rfl | he
      · rfl
      · exact h.own e he
    · rcases Fanout.mem_store he with rfl | he
      · -- it has just been found active
        rw [hactive] at hclear
        cases hclear
      · exact htaken.withdrawn e he hclear
  | @late id s t hlatch =>
    -- whoever comes after the end is told of it, and nobody is stored
    have hentries : c.fanout.entries = [] := h.emptied (Option.isSome_of_eq_some hlatch)
    have hextends := extends_dismiss (c.taking (.subscribe id s) rest c.fanout) id
    refine Tidy.tell (.of_entries_eq_nil ?_ ?_) id s t.note
    · rw [hextends.fanout]
      exact hentries
    · rw [hextends.statistics]
      exact h.counted.trans (by rw [Fanout.size, hentries, List.length_nil])
  | @remove id =>
    refine .of_restocked (h.emptied.remove id) (fun e he => ?_) fun e he hclear => ?_
    · exact h.own e (List.mem_filter.1 he).1
    · obtain ⟨he, hid⟩ := List.mem_filter.1 he
      rw [isActive_eq, flag?_taking, ← isActive_eq] at hclear
      have hwaits := h.withdrawn e he hclear
      rw [hinbox] at hwaits
      exact (List.mem_cons.1 hwaits).resolve_left fun heq => by simp_all
  | @absent id hcontains =>
    refine htaken fun e he heq => ?_
    rw [Message.unsubscribe.inj heq] at hcontains
    simpa using List.any_eq_false.1 hcontains e he
  | decoded => exact ((htaken (by simp)).tellAll _ _).count fun _ => rfl
  | malformed =>
    exact ((htaken (by simp)).count (g := fun s => { s with malformed := s.malformed + 1 })
      fun _ => rfl).tellAll _ _
  | ended => exact .of_entries_eq_nil rfl rfl

end Channel

namespace Scene

open Channel

variable {params : ConnectParams} {fault : Option TransportError} {s s' : Scene}

/-- Whatever happens next keeps a channel tidy. -/
theorem tidy_does {d : Deed} (h : Tidy s.channel) (hd : Does s d s') : Tidy s'.channel := by
  cases hd with
  | connection =>
    exact h.congr rfl rfl (fun _ hm => List.mem_append_left _ hm) fun e _ hactive => .inl hactive
  | take hinbox => exact h.take hinbox
  | subscribe subscriber => exact h.subscribe subscriber
  | release id => exact h.release id none
  | send e => exact h.send e
  | check => exact h
  | handOver => exact h.handOver _
  | @rearrange entries hperm =>
    refine ⟨fun hended => ?_, ?_, fun e he => ?_, fun e he hclear => ?_⟩
    · obtain rfl := List.Perm.eq_nil (h.emptied hended ▸ hperm)
      rfl
    · exact h.counted.trans hperm.length_eq.symm
    · exact h.own e (hperm.mem_iff.1 he)
    · exact h.withdrawn e (hperm.mem_iff.1 he) hclear
  | overtake hinbox =>
    refine h.congr rfl rfl (fun m hm => ?_) fun e _ hactive => .inl hactive
    simp only [List.mem_append, List.mem_cons, hinbox] at hm ⊢
    tauto

theorem tidy_nexts (h : Tidy s.channel) (hs : Nexts s s') : Tidy s'.channel := by
  induction hs with
  | refl => exact h
  | tail _ hnext ih =>
    obtain ⟨d, hd⟩ := next_iff_does.1 hnext
    exact tidy_does ih hd

end Scene

namespace Channel

variable {t : Trace} {c : Channel}

/-- Whoever is active is stored, or its message waits. -/
theorem stored_or_waiting (h : Sound t (.idle c) c) {id : Nat}
    (hactive : c.isActive id) : (∃ e ∈ c.fanout.entries, e.id = id) ∨
      ∃ subscriber, .subscribe id subscriber ∈ c.inbox := by
  obtain ⟨a, ha, hh⟩ := h.accounts id
  obtain ⟨-, hfits⟩ := fits_of_account ha
  have hflag := (isActive_iff c id).1 hactive
  generalize a.stage = stage at hh hfits
  cases hh with
  | unknown hf | past hf => simp [hflag] at hf
  | stored _ he hid => exact .inl ⟨_, he, hid⟩
  | due _ _ _ he | late _ he => cases he
  | awaited =>
    cases hfits with
    | @awaited _ subscriber hsub harr =>
      rw [h.subscribed, List.mem_append] at hsub
      obtain ⟨m, hm, hsub⟩ := List.mem_filterMap.1 (hsub.resolve_left (harr subscriber))
      cases m <;> cases hsub
      exact .inr ⟨subscriber, hm⟩

/-- Only handles that were given out are active. -/
theorem mem_range'_of_isActive {id : Nat} (h : c.isActive id) :
    id ∈ List.range' 1 c.listeners.length := by
  cases id with
  | zero => cases h
  | succ i =>
    have hlt : i < c.listeners.length := by
      by_contra hge
      rw [isActive, listener?, List.getElem?_eq_none (Nat.le_of_not_lt hge)] at h
      cases h
    rw [List.mem_range'_1]
    omega

/-- The numbers of the active handles, counted by their flags. -/
theorem length_filter_isActive (c : Channel) :
    ((List.range' 1 c.listeners.length).filter c.isActive).length =
      c.listeners.countP (·.active) := by
  have hflags : (List.range' 1 c.listeners.length).map c.isActive =
      c.listeners.map (·.active) := by
    refine List.ext_getElem (by simp) fun i hi hi' => ?_
    rw [List.length_map] at hi'
    simp [Nat.add_comm 1 i, isActive, listener?, hi']
  have hcount := congrArg (List.countP id) hflags
  rw [List.countP_map, List.countP_map] at hcount
  rw [← List.countP_eq_length_filter]
  exact hcount

/-- When nothing waits for the hub, those who are stored are those who are active. -/
theorem size_eq_countP (h : Sound t (.idle c) c) (htidy : Tidy c)
    (hinbox : c.inbox = []) : c.fanout.size = c.listeners.countP (·.active) := by
  have hmem (id : Nat) : id ∈ c.fanout.entries.map (·.id) ↔
      id ∈ (List.range' 1 c.listeners.length).filter c.isActive := by
    rw [List.mem_filter, List.mem_map]
    constructor
    · rintro ⟨e, he, rfl⟩
      have hactive : c.isActive e.id := by
        by_contra hclear
        have := htidy.withdrawn e he (by simpa using hclear)
        simp [hinbox] at this
      exact ⟨mem_range'_of_isActive hactive, hactive⟩
    · rintro ⟨-, hactive⟩
      have := stored_or_waiting h hactive
      simpa [hinbox] using this
  have hperm := (List.perm_ext_iff_of_nodup h.entries_nodup
    ((List.nodup_range' 1).filter _)).2 hmem
  rw [← length_filter_isActive, ← hperm.length_eq, List.length_map]
  rfl

/-- No subscription is leaked: in every use of a channel, between any two messages of the hub,
    the number that is shown is that of the stored subscribers; whoever is stored with its flag
    cleared has its release waiting for the hub, and whoever is active is stored, or has its
    message waiting. So when nothing waits, the number shown is that of the active handles. -/
theorem no_leaked_subscription {params : ConnectParams} {fault : Option TransportError}
    {s : Scene} (h : Scene.Nexts (Scene.start params fault) s) :
    s.channel.statistics.subscribers = s.channel.fanout.size ∧
    (∀ e ∈ s.channel.fanout.entries, s.channel.isActive e.listener = false →
      .unsubscribe e.id ∈ s.channel.inbox) ∧
    (∀ id, s.channel.isActive id → (∃ e ∈ s.channel.fanout.entries, e.id = id ∧ e.listener = id) ∨
      ∃ subscriber, .subscribe id subscriber ∈ s.channel.inbox) ∧
    (s.channel.inbox = [] →
      s.channel.statistics.subscribers = s.channel.listeners.countP (·.active)) := by
  have hsound := ((Scene.invariant_init params fault).nexts h).sound
  have htidy := Scene.tidy_nexts (.of_entries_eq_nil rfl rfl) h
  refine ⟨htidy.counted, fun e he hclear => ?_, fun id hactive => ?_, fun hinbox => ?_⟩
  · rw [htidy.own e he] at hclear
    exact htidy.withdrawn e he hclear
  · rcases stored_or_waiting hsound hactive with ⟨e, he, rfl⟩ | hwaiting
    · exact .inl ⟨e, he, rfl, htidy.own e he⟩
    · exact .inr hwaiting
  · rw [htidy.counted]
    exact size_eq_countP hsound htidy hinbox

/-- Two subscribers are stored, and the first is released twice; a third is released before the
    hub has taken its message. -/
def releasedEarly : Scene :=
  (Scene.start { url := "ws://host" } none).after [.subscribe {}, .subscribe {}, .hub, .hub,
    .release 1, .release 1, .subscribe {}, .release 3]

theorem no_leaked_subscription_releasedEarly :
    releasedEarly.channel.statistics.subscribers = 2 ∧
    .unsubscribe 1 ∈ releasedEarly.channel.inbox ∧
    (releasedEarly.after [.hub, .hub, .hub]).channel.statistics.subscribers = 1 := by
  have hearly : Scene.Nexts (Scene.start { url := "ws://host" } none) releasedEarly :=
    Scene.nexts_of_steps (Scene.reachable_after _ _ _)
  have hlater := hearly.trans (Scene.nexts_of_steps (releasedEarly.steps_after [.hub, .hub, .hub]))
  obtain ⟨hcounted, hwithdrawn, -, -⟩ := no_leaked_subscription hearly
  obtain ⟨-, -, -, hquiet⟩ := no_leaked_subscription hlater
  exact ⟨hcounted, hwithdrawn ⟨1, 1, {}⟩ List.mem_cons_self rfl, hquiet rfl⟩

end Channel

end PartyLine
