import PartyLine.Proofs.Channel.Inbound
import PartyLine.Proofs.Channel.Turn

/-!
# Latecomers

Who subscribes to a channel whose connection has ended is told of the end and of nothing
else, however far the hub is behind: frames may still wait in its inbox, and the event of
the end with them. It may not even have been posted. The actor of the connection sets its
state first and posts the event then, so that a consumer may see the end and post its own
message before it.

The reason is the order of the inbox. All frames were posted before the state was set, so
they are taken before the message of anybody who has seen it. This is said of the messages in
the order of their posting, taken or not (`posted`), since then it stays true when the hub takes
one: no frame stands behind the message of a latecomer (`Behind`). Steps in which the news of
a change of state is overtaken (`Scene.Next`) keep this, as what is overtaken is no frame, and
they keep the invariant of scenes, which does not look at the order of events and other
messages.

So when the message of a latecomer is taken, no frame comes any more. Stored before the end, it
waits for the end; taken after it, it is told at once. Its account says the rest.

* `Scene.Next`: what can happen next, where the news of a change of state may be late;
* `posted`, `Behind`: the messages in the order of their posting, frames not behind
  latecomers;
* `Closing`: a channel that has ended, with its latecomers in order, `closing_nexts`;
* `told_of_silent`: what is told to a subscription that arrives when all frames are taken;
* `latecomer_told`: what a latecomer is told, in every use of a channel.
-/

namespace PartyLine

open Channel

namespace Scene

/-- A scene follows another, where the event that goes with a change of state may be
    overtaken by what consumers post on seeing the state. -/
inductive Next (s : Scene) : Scene → Prop
  | step {s' : Scene} : Step s s' → Next s s'
  | overtake {before after : List Message} {e : ConnectionEvent} {m : Message} :
      s.channel.inbox = before ++ .event e :: m :: after → e.frame? = none → m.event? = none →
      Next s { s with
        channel := { s.channel with inbox := before ++ m :: .event e :: after } }

/-- The scenes that can follow in any number of steps, with events overtaken. -/
abbrev Nexts : Scene → Scene → Prop := Relation.ReflTransGen Next

/-- Steps may follow without any event being overtaken. -/
theorem nexts_of_steps {s s' : Scene} (h : Steps s s') : Nexts s s' :=
  Relation.ReflTransGen.mono (fun _ _ => Next.step) _ _ h

variable {s s' : Scene}

/-- The invariant does not depend on where events stand between other messages. -/
theorem Invariant.next (h : Invariant s) (hs : Next s s') : Invariant s' := by
  rcases hs with hs | @⟨before, after, e, m, hinbox, -, hm⟩
  · exact h.step hs
  · obtain ⟨hsound, hcalls⟩ := h
    refine ⟨{ hsound with
      accounts := ?accounts
      heard := ?heard
      subscribed := ?subscribed
      withdrawn := ?withdrawn
      reported := ?reported }, hcalls⟩
    case accounts =>
      intro id
      obtain ⟨a, ha, hh⟩ := hsound.accounts id
      exact ⟨a, ha, (hh.idle (.idle _) rfl (by cases id <;> rfl) (fun _ _ _ he _ => he)
        (by simp [Round.idle])).1⟩
    case heard =>
      intro id l hl
      exact hsound.heard id l (by cases id <;> exact hl)
    case subscribed =>
      simpa [hinbox, List.filterMap_cons, Message.subscription?] using hsound.subscribed
    case withdrawn =>
      intro id hid
      refine hsound.withdrawn id ?_
      simp only [List.mem_append, List.mem_cons, hinbox] at hid ⊢
      tauto
    case reported =>
      simpa [hinbox, List.filterMap_cons, hm] using hsound.reported

theorem Invariant.nexts (h : Invariant s) (hs : Nexts s s') : Invariant s' := by
  induction hs with
  | refl => exact h
  | tail _ hs ih => exact ih.next hs

/-- After the end nobody is stored. -/
theorem emptied_step (h : s.channel.fanout.Emptied) (hs : Step s s') :
    s'.channel.fanout.Emptied := by
  cases hs with
  | act hc =>
    rcases moves_of_step? hc with - | ⟨-, htakes⟩ | ⟨-, hserved⟩
    · exact h
    · exact htakes.fanout h
    · exact hserved.fanout ▸ h
  | check => exact h
  | handOver => exact h
  | rearrange hperm =>
    intro hlatch
    obtain rfl := List.Perm.eq_nil (h hlatch ▸ hperm)
    rfl

theorem emptied_nexts (h : s.channel.fanout.Emptied) (hs : Nexts s s') :
    s'.channel.fanout.Emptied := by
  induction hs with
  | refl => exact h
  | tail _ hs ih =>
    rcases hs with hs | ⟨-, -, -⟩
    · exact emptied_step ih hs
    · exact ih

end Scene

namespace Channel

/-! ## The order of posting -/

/-- The message that the hub takes. -/
def Happening.message? : Happening → Option Message
  | took m => some m
  | _ => none

/-- All messages that have been posted to the hub, taken or not, in the order in which it
    takes them. -/
def posted (c : Channel) : List Message := c.journal.filterMap Happening.message? ++ c.inbox

/-- The message `m` is not a frame behind the message of a subscription that was made after
    the happenings `J`. -/
def Behind (J : List Happening) (latecomer m : Message) : Prop :=
  ∀ id sub, latecomer = .subscribe id sub → .subscribed id sub ∉ J →
    ∀ f, m ≠ .event (.frame f)

variable {J : List Happening} {c c' : Channel} {m : Message} {rest : List Message}

theorem filterMap_message?_eq_nil {xs : List Happening} (h : ∀ m, .took m ∉ xs) :
    xs.filterMap Happening.message? = [] := by
  refine List.filterMap_eq_nil_iff.2 fun x hx => ?_
  cases x with
  | took m => exact absurd hx (h m)
  | _ => rfl

/-- What is served posts no events. -/
theorem Served.posted (h : Served c c') :
    ∃ ms, c'.posted = c.posted ++ ms ∧ ms.filterMap Message.event? = [] := by
  obtain ⟨-, -, ⟨ms, hinbox, hms⟩, ⟨xs, hjournal, hxs⟩⟩ := h
  refine ⟨ms, ?_, hms⟩
  simp [Channel.posted, hinbox, hjournal, filterMap_message?_eq_nil hxs]

/-- Nor does a turn of the hub. -/
theorem Takes.posted (h : Takes c m rest c') (hinbox : c.inbox = m :: rest) :
    ∃ ms, c'.posted = c.posted ++ ms ∧ ms.filterMap Message.event? = [] := by
  obtain ⟨-, -, ⟨ms, hinbox', hms⟩, ⟨xs, hjournal, hxs⟩⟩ := h
  refine ⟨ms, ?_, hms⟩
  simp [Channel.posted, hinbox, hinbox', hjournal, Happening.message?,
    filterMap_message?_eq_nil hxs]

/-- What is no event may be posted behind everything. -/
theorem pairwise_behind_append {l ms : List Message} (h : l.Pairwise (Behind J))
    (hms : ms.filterMap Message.event? = []) : (l ++ ms).Pairwise (Behind J) := by
  have hframe : ∀ m ∈ ms, ∀ f, m ≠ .event (.frame f) := by
    rintro m hm f rfl
    cases List.filterMap_eq_nil_iff.1 hms _ hm
  refine List.pairwise_append.2 ⟨h, ?_, fun a _ b hb _ _ _ _ => hframe b hb⟩
  exact List.Pairwise.imp_of_mem (fun _ hb _ _ _ _ _ => hframe _ hb)
    (List.pairwise_of_forall fun _ _ => trivial)

/-- An event that is no frame may be overtaken. -/
theorem pairwise_behind_swap {before after : List Message} {e : ConnectionEvent}
    (h : (before ++ .event e :: m :: after).Pairwise (Behind J)) (he : e.frame? = none) :
    (before ++ m :: .event e :: after).Pairwise (Behind J) := by
  have hframe : Behind J m (.event e) := by
    rintro id sub - - f h
    cases h
    cases he
  simp only [List.pairwise_append, List.pairwise_cons, List.mem_cons, forall_eq_or_imp] at h ⊢
  obtain ⟨hbefore, ⟨⟨-, he⟩, hm, hafter⟩, hboth⟩ := h
  refine ⟨hbefore, ⟨⟨hframe, hm⟩, he, hafter⟩, ?_⟩
  intro a ha
  obtain ⟨ha₁, ha₂, ha₃⟩ := hboth a ha
  exact ⟨ha₂, ha₁, ha₃⟩

/-- Nobody is a latecomer who has subscribed by now. -/
theorem Sound.pairwise_behind {t : Trace} {r : Round} (h : Sound t r c) :
    c.posted.Pairwise (Behind c.journal) := by
  have hsubscribed (id : Nat) (sub : Subscriber) (hm : .subscribe id sub ∈ c.posted) :
      .subscribed id sub ∈ c.journal := by
    have hmem : (id, sub) ∈ subscriptions c.journal := by
      rw [h.subscribed, List.mem_append]
      refine (List.mem_append.1 hm).imp (fun hm => ?_) fun hm => ?_
      · obtain ⟨x, hx, hxm⟩ := List.mem_filterMap.1 hm
        refine List.mem_filterMap.2 ⟨x, hx, ?_⟩
        cases x with
        | took m => cases hxm; rfl
        | _ => cases hxm
      · exact List.mem_filterMap.2 ⟨_, hm, rfl⟩
    obtain ⟨x, hx, hxs⟩ := List.mem_filterMap.1 hmem
    cases x with
    | subscribed id sub => cases hxs; exact hx
    | _ => cases hxs
  refine List.Pairwise.imp_of_mem (fun ha _ _ id sub hsub hnew => ?_)
    (List.pairwise_of_forall fun _ _ => trivial)
  exact absurd (hsubscribed id sub (hsub ▸ ha)) hnew

/-- The hub takes no frame after the message of a latecomer. -/
theorem framesTaken_of_latecomer {before after : List Happening} {id : Nat} {sub : Subscriber}
    (h : c.posted.Pairwise (Behind J))
    (hJ : c.journal = before ++ .took (.subscribe id sub) :: after)
    (hnew : .subscribed id sub ∉ J) : framesTaken after = [] := by
  refine List.filterMap_eq_nil_iff.2 fun e he => ?_
  obtain ⟨x, hx, hxe⟩ := List.mem_filterMap.1 he
  have htaken : (c.journal.filterMap Happening.message?).Pairwise (Behind J) :=
    (List.pairwise_append.1 h).1
  rw [hJ, List.filterMap_append, List.pairwise_append] at htaken
  obtain ⟨-, htaken, -⟩ := htaken
  rw [List.filterMap_cons] at htaken
  obtain ⟨hlate, -⟩ := List.pairwise_cons.1 htaken
  rcases x with _ | _ | _ | (_ | _ | e') | _ | _ <;> cases hxe
  have := hlate (.event e) (List.mem_filterMap.2 ⟨_, hx, rfl⟩) id sub rfl hnew
  cases e with
  | frame f => exact absurd rfl (this f)
  | opened | failed e | closed => rfl

end Channel

/-- A channel has ended at one time, and latecomers to it are in order since. -/
structure Scene.Closing (s₀ s : Scene) : Prop where
  /-- Nothing has been reported since. -/
  events : s.trace.events = s₀.trace.events
  order : s.channel.posted.Pairwise (Behind s₀.channel.journal)

namespace Scene

variable {s₀ s s' : Scene} {t : Termination}

/-- What happens to a channel that has ended. -/
theorem Closing.next (h : Closing s₀ s) (hs : Next s s') (hinvariant : Invariant s')
    (hend : endOf s₀.trace.events = some t) : Closing s₀ s' := by
  obtain ⟨hevents, horder⟩ := h
  have served {c : Channel} (hc : Served s.channel c) :
      c.posted.Pairwise (Behind s₀.channel.journal) := by
    obtain ⟨ms, hposted, hms⟩ := hc.posted
    rw [hposted]
    exact pairwise_behind_append horder hms
  rcases hs with hs | @⟨before, after, e, m, hinbox, he, -⟩
  · cases hs with
    | @act a c hc =>
      rcases moves_of_step? hc with @⟨a, connection, es, hstep⟩ | ⟨hinbox, htakes⟩ | ⟨ha, hserved⟩
      · have hcourse := hinvariant.sound.course
        simp only [observe, hstep, hevents] at hcourse ⊢
        -- an event would make an end of the one before
        cases es with
        | nil => exact ⟨by simp, by simpa [posted] using horder⟩
        | cons e es =>
          rw [endOf_eq_none hcourse] at hend
          cases hend
      · obtain ⟨ms, hposted, hms⟩ := htakes.posted hinbox
        refine ⟨hevents, ?_⟩
        show c.posted.Pairwise _
        rw [hposted]
        exact pairwise_behind_append horder hms
      · refine ⟨?_, served hserved⟩
        cases a with
        | connection a => exact absurd rfl (ha a)
        | hub | subscribe | release | send => exact hevents
    | check => exact ⟨hevents, horder⟩
    | handOver => exact ⟨hevents, served (served_handOver _ _)⟩
    | rearrange => exact ⟨hevents, horder⟩
  · refine ⟨hevents, ?_⟩
    rw [posted, hinbox, ← List.append_assoc] at horder
    show List.Pairwise _ (_ ++ (before ++ _))
    rw [← List.append_assoc]
    exact pairwise_behind_swap horder he

theorem closing_nexts (hs : Nexts s₀ s) (hinvariant : Invariant s₀)
    (hend : endOf s₀.trace.events = some t) : Closing s₀ s := by
  induction hs with
  | refl => exact ⟨rfl, hinvariant.sound.pairwise_behind⟩
  | tail hs hnext ih => exact ih.next hnext ((hinvariant.nexts hs).next hnext) hend

end Scene

namespace Channel

/-! ## What is told when all frames are taken -/

variable {id : Nat} {sub : Subscriber} {b : Account} {J K : List Happening}

/-- The first release. -/
theorem Released.exists_first (h : Released id K) : ∃ K₁ caller K₂,
    K = K₁ ++ .released id caller :: K₂ ∧ ¬Released id K₁ := by
  induction K with
  | nil => exact absurd h (not_released_nil id)
  | cons x K ih =>
    by_cases hx : ∃ caller, .released id caller = x
    · obtain ⟨caller, rfl⟩ := hx
      exact ⟨[], caller, K, rfl, not_released_nil id⟩
    · obtain ⟨K₁, caller, K₂, rfl, hK₁⟩ := ih (((released_cons ..).1 h).resolve_left hx)
      refine ⟨x :: K₁, caller, K₂, rfl, ?_⟩
      rw [released_cons]
      exact fun h => h.elim hx hK₁

/-- Stored when no frame comes any more, a subscription is told of the end at most, and if
    it is not released, certainly. -/
theorem told_of_stored (h : ({ stage := .stored sub } : Account).after? id K = some b)
    (hbusy : b.stage.isBusy = false) (hK : framesTaken K = []) :
    (toldTo id K = [] ∨ ∃ t, ended K = some t ∧ toldTo id K = [t.note].filter sub.wants) ∧
      ∀ t, ended K = some t → ¬Released id K → toldTo id K = [t.note].filter sub.wants := by
  by_cases hreleased : Released id K
  · refine ⟨?_, fun t _ hnot => absurd hreleased hnot⟩
    obtain ⟨K₁, caller, K₂, rfl, hK₁⟩ := hreleased.exists_first
    rw [Account.after?_append] at h
    obtain ⟨⟨end?, stage⟩, ha, h⟩ := Option.bind_eq_some_iff.1 h
    obtain ⟨a', hnext, hover⟩ := after?_cons_eq_some h
    simp only [Account.next, if_pos, Option.map_eq_some_iff] at hnext
    obtain ⟨stage', hs, rfl⟩ := hnext
    have hframes : framesTaken K₁ = [] := by
      rw [framesTaken_append, List.append_eq_nil_iff] at hK
      exact hK.1
    -- whatever the stage, nothing is told after the release
    have silent (hstage : stage' = .past) :
        toldTo id (K₁ ++ .released id caller :: K₂) = toldTo id K₁ := by
      simp [toldTo_of_past hstage hover]
    obtain ⟨-, hheard⟩ := heard_of_after? rfl ha hK₁
    cases hheard with
    | stored _ htold =>
      cases hs
      exact .inl (by rw [silent rfl, htold, hframes]; rfl)
    | ending _ htold =>
      obtain ⟨-, hs⟩ := Option.ite_none_right_eq_some.1 hs
      cases hs
      exact .inl (by rw [silent rfl, htold, hframes]; rfl)
    | @past t hend htold =>
      cases hs
      refine .inr ⟨t, by simp [hend], ?_⟩
      rw [silent rfl, htold, hframes]
      rfl
    | due begun round hK₁ => simp [hK₁] at hframes
    | last => cases hs
  · obtain ⟨-, hheard⟩ := heard_of_after? rfl h hreleased
    generalize b.stage = stage at hheard hbusy
    cases hheard with
    | stored hend htold =>
      refine ⟨.inl (by rw [htold, hK]; rfl), fun t ht => ?_⟩
      rw [hend] at ht
      cases ht
    | @past t hend htold =>
      have htold : toldTo id K = [t.note].filter sub.wants := by rw [htold, hK]; rfl
      refine ⟨.inr ⟨t, hend, htold⟩, fun t' ht' _ => ?_⟩
      obtain rfl := Option.some.inj (hend.symm.trans ht')
      exact htold
    | due | ending | last => cases hbusy

/-- A subscription whose message is taken when no frame comes any more is told of the end at
    most, and if it is not released, certainly. -/
theorem told_of_silent (h : account id (J ++ .took (.subscribe id sub) :: K) = some b)
    (hbusy : b.stage.isBusy = false) (hK : framesTaken K = []) :
    (toldTo id (J ++ .took (.subscribe id sub) :: K) = [] ∨
      ∃ t, ended (J ++ .took (.subscribe id sub) :: K) = some t ∧
        toldTo id (J ++ .took (.subscribe id sub) :: K) = [t.note].filter sub.wants) ∧
    ∀ t, ended (J ++ .took (.subscribe id sub) :: K) = some t →
      ¬Released id (J ++ .took (.subscribe id sub) :: K) →
        toldTo id (J ++ .took (.subscribe id sub) :: K) = [t.note].filter sub.wants := by
  obtain ⟨htold, a, ha, hlate, hover, hstored⟩ := account_arrival h
  have hsplit : toldTo id (J ++ .took (.subscribe id sub) :: K) = toldTo id K := by simp [htold]
  have hended : ended (J ++ .took (.subscribe id sub) :: K) = (ended J).or (ended K) := by simp
  rw [hsplit, hended, released_append, released_cons]
  cases hend : ended J with
  | some t =>
    have hheard := toldTo_of_late (hlate t hend) ha hbusy
    refine ⟨.inr ⟨t, rfl, hheard⟩, fun t' ht' _ => ?_⟩
    cases ht'
    exact hheard
  | none =>
    by_cases hreleased : Released id J
    · refine ⟨.inl (toldTo_of_past (hover hend hreleased) ha), fun t _ hnot => ?_⟩
      exact absurd (.inl hreleased) hnot
    · rw [hstored hend hreleased] at ha
      obtain ⟨hmost, hcertain⟩ := told_of_stored ha hbusy hK
      exact ⟨hmost, fun t ht hnot => hcertain t ht fun h => hnot (.inr (.inr h))⟩

/-- When the hub has taken the end and the message of a subscription, it is done with the
    subscription. -/
theorem Sound.over {tr : Trace} {c : Channel} {t : Termination} (h : Sound tr (.idle c) c)
    (hend : c.fanout.termination = some t) (harr : (id, sub) ∈ arrivals c.journal) :
    c.isActive id = false := by
  obtain ⟨a, ha, hh⟩ := h.accounts id
  obtain ⟨-, hfits⟩ := fits_of_account ha
  have hended : Channel.ended c.journal = some t := h.ended.trans hend
  generalize a.stage = stage at hh hfits
  cases hh with
  | unknown hf | past hf => simp [isActive_eq, hf]
  | awaited =>
    cases hfits with
    | awaited _ hnone => exact absurd harr (hnone sub)
  | stored =>
    cases hfits with
    | stored _ _ _ hnone =>
      rw [hended] at hnone
      cases hnone
  | due _ _ _ he | late _ he => cases he

/-- Whoever has subscribed has a listener, and its message has been taken or waits. -/
theorem Sound.exists_listener {tr : Trace} {c : Channel} {r : Round} (h : Sound tr r c)
    (hsub : .subscribed id sub ∈ c.journal) : (∃ l, c.listener? id = some l) ∧
      (.took (.subscribe id sub) ∈ c.journal ∨ .subscribe id sub ∈ c.inbox) := by
  have hmem : (id, sub) ∈ subscriptions c.journal := List.mem_filterMap.2 ⟨_, hsub, rfl⟩
  refine ⟨?_, ?_⟩
  · cases hl : c.listener? id with
    | some l => exact ⟨l, rfl⟩
    | none =>
      obtain ⟨a, ha, hunknown⟩ := h.unknown (show c.flag? id = none by simp [flag?, hl])
      obtain ⟨-, hfits⟩ := fits_of_account ha
      rw [hunknown] at hfits
      cases hfits with
      | unknown hnone => exact absurd hmem (hnone sub)
  · rw [h.subscribed, List.mem_append] at hmem
    refine hmem.imp (fun harr => ?_) fun hm => ?_
    · obtain ⟨mid, late, hJ⟩ := exists_of_mem_arrivals harr
      simp [hJ]
    · obtain ⟨m, hm, hms⟩ := List.mem_filterMap.1 hm
      cases m with
      | subscribe id sub => cases hms; exact hm
      | unsubscribe | event => cases hms

/-- The message that is taken of a subscription is its own. -/
theorem Sound.took_of_arrivals {tr : Trace} {c : Channel} {r : Round} {sub' : Subscriber}
    (h : Sound tr r c) (hsub : .subscribed id sub ∈ c.journal)
    (harr : (id, sub') ∈ arrivals c.journal) : .took (.subscribe id sub) ∈ c.journal := by
  have hmem : (id, sub) ∈ subscriptions c.journal := List.mem_filterMap.2 ⟨_, hsub, rfl⟩
  have hmem' : (id, sub') ∈ subscriptions c.journal := by
    rw [h.subscribed]
    exact List.mem_append_left _ harr
  obtain ⟨-, rfl⟩ := Prod.ext_iff.1 (List.inj_on_of_nodup_map h.subscriptions_nodup hmem hmem' rfl)
  obtain ⟨mid, late, hJ⟩ := exists_of_mem_arrivals harr
  simp [hJ]

/-- The end that has been reported is latched, or waits for the hub. -/
theorem Sound.latched_or_waits {tr : Trace} {c : Channel} {t : Termination}
    (h : Sound tr (.idle c) c) (hend : endOf tr.events = some t) :
    c.fanout.termination = some t ∨
      c.fanout.termination = none ∧ ∃ e, e.end? = some t ∧ .event e ∈ c.inbox := by
  have hlatch : Channel.ended c.journal = c.fanout.termination := h.ended
  rw [h.reported, endOf, List.findSome?_append, ← endOf, ← Channel.ended, hlatch] at hend
  cases ht : c.fanout.termination with
  | some t' =>
    rw [ht] at hend
    exact .inl hend
  | none =>
    rw [ht, Option.none_or] at hend
    obtain ⟨before, e, after, hevents, he, -⟩ := List.findSome?_eq_some_iff.1 hend
    have he' : e ∈ c.inbox.filterMap Message.event? := by simp [hevents]
    obtain ⟨m, hm, hme⟩ := List.mem_filterMap.1 he'
    cases m with
    | event e => cases hme; exact .inr ⟨rfl, e, he, hm⟩
    | subscribe | unsubscribe => cases hme

/-- A latecomer to a channel that has ended is told of the end at most; and certainly, if it
    is not released, once the hub has taken the end and its message. -/
theorem Sound.told_of_latecomer {tr : Trace} {c : Channel} {t : Termination}
    (h : Sound tr (.idle c) c) (horder : c.posted.Pairwise (Behind J))
    (hnew : .subscribed id sub ∉ J) (hsub : .subscribed id sub ∈ c.journal)
    (hb : account id c.journal = some b) (hbusy : b.stage.isBusy = false)
    (hend : c.fanout.termination = some t ∨
      c.fanout.termination = none ∧ ∃ e, e.end? = some t ∧ .event e ∈ c.inbox) :
    (toldTo id c.journal = [] ∨ toldTo id c.journal = [t.note].filter sub.wants) ∧
    (.took (.subscribe id sub) ∈ c.journal → c.fanout.termination = some t →
      ¬Released id c.journal → toldTo id c.journal = [t.note].filter sub.wants) := by
  have hlatch : Channel.ended c.journal = c.fanout.termination := h.ended
  by_cases htook : .took (.subscribe id sub) ∈ c.journal
  · obtain ⟨before, after, hJ⟩ := List.append_of_mem htook
    have hsilent := framesTaken_of_latecomer horder hJ hnew
    rw [hJ] at hb
    obtain ⟨hmost, hcertain⟩ := told_of_silent hb hbusy hsilent
    rw [← hJ, hlatch] at hmost hcertain
    refine ⟨hmost.imp_right ?_, fun _ ht => hcertain t ht⟩
    -- the end it is told of is the one that is latched
    rintro ⟨t', ht', htold⟩
    rcases hend with ht | ⟨ht, -⟩
    · rw [htold, Option.some.inj (ht'.symm.trans ht)]
    · rw [ht] at ht'
      cases ht'
  · refine ⟨.inl (toldTo_of_not_arrived hb fun sub' harr => ?_), fun h => absurd h htook⟩
    exact htook (h.took_of_arrivals hsub harr)

/-- Whoever subscribes to a channel whose connection has ended, in every use of a channel, is
    told of that end at most, and of nothing else: no message reaches it, and no frame that
    could not be decoded. Its message comes to the hub, and so does the end, if they have not
    already. Once the hub has taken both, the subscription is not active and nobody is stored
    under its number; and if it was not released, it has been told of the end, as far as it
    wants to be. This is so even where the event of the end is posted only after messages of
    those who have seen the state. -/
theorem latecomer_told {params : ConnectParams} {fault : Option TransportError} {s : Scene}
    (h : Scene.Nexts (Scene.start params fault) s) (hterminated : s.channel.isTerminated) :
    ∃ t : Termination, endOf s.trace.events = some t ∧ s.channel.state = t.state ∧
      ∀ s', Scene.Nexts s s' → ∀ id sub, .subscribed id sub ∈ s'.channel.journal →
        .subscribed id sub ∉ s.channel.journal →
        ∃ l, s'.channel.listener? id = some l ∧ inbound l.heard = [] ∧
          l.heard <+: [t.note].filter sub.wants ∧
          (.took (.subscribe id sub) ∈ s'.channel.journal ∨
            .subscribe id sub ∈ s'.channel.inbox) ∧
          (s'.channel.fanout.termination = some t ∨
            s'.channel.fanout.termination = none ∧
              ∃ e, e.end? = some t ∧ .event e ∈ s'.channel.inbox) ∧
          (.took (.subscribe id sub) ∈ s'.channel.journal →
            s'.channel.fanout.termination = some t →
            s'.channel.isActive id = false ∧ (∀ e ∈ s'.channel.fanout.entries, e.id ≠ id) ∧
              (¬Released id s'.channel.journal → l.heard = [t.note].filter sub.wants)) := by
  have hinvariant := (Scene.invariant_init params fault).nexts h
  obtain ⟨t, hend⟩ := exists_endOf hinvariant.sound.course hterminated
  obtain ⟨hstate, -⟩ := state_of_endOf hinvariant.sound.course hend
  refine ⟨t, hend, hstate, ?_⟩
  intro s' h' id sub hsub hnew
  have hinvariant' := hinvariant.nexts h'
  have hsound := hinvariant'.sound
  -- no event is reported any more, and the frames that were are before whoever arrives
  obtain ⟨hevents, horder⟩ := Scene.closing_nexts h' hinvariant hend
  have hreported := hsound.latched_or_waits (hevents ▸ hend)
  obtain ⟨⟨l, hl⟩, hposted⟩ := hsound.exists_listener hsub
  obtain ⟨b, hb, -, hbusy⟩ := hinvariant'.account id
  obtain ⟨hmost, hcertain⟩ := hsound.told_of_latecomer horder hnew hsub hb hbusy hreported
  rw [← hsound.heard id l hl] at hmost hcertain
  refine ⟨l, hl, ?_, ?_, hposted, hreported, ?_⟩
  · rcases hmost with hmost | hmost
    · rw [hmost]
      rfl
    · rw [hmost, inbound_note]
  · rcases hmost with hmost | hmost
    · rw [hmost]
      exact List.nil_prefix
    · exact ⟨[], by rw [List.append_nil, hmost]⟩
  · -- the end has emptied the set, and nobody is stored behind it
    intro htook ht
    have harr : (id, sub) ∈ arrivals s'.channel.journal := List.mem_filterMap.2 ⟨_, htook, rfl⟩
    have hemptied : s'.channel.fanout.Emptied :=
      Scene.emptied_nexts (Scene.emptied_nexts (fun _ => rfl) h) h'
    refine ⟨hsound.over ht harr, ?_, hcertain htook ht⟩
    rw [hemptied (by simp [ht])]
    exact List.forall_mem_nil _

/-- A channel that has closed while a frame and the end still wait for the hub. -/
def lagging : Scene :=
  (Scene.start { url := "ws://host" } none).after [.connection (.start 0),
    .connection (.connected none), .connection .handle, .connection (.received 0 (.frame "x")),
    .connection (.received 0 .ended), .connection .handle, .connection .handle]

/-- The message of a subscription is posted before the event of the end. -/
def overtaken : Scene :=
  let s := lagging.after [.subscribe {}]
  { s with channel := { s.channel with
      inbox := [.event .opened, .event (.frame "x"), .subscribe 1 {}, .event .closed] } }

theorem nexts_overtaken : Scene.Nexts lagging overtaken :=
  .tail (Scene.nexts_of_steps (lagging.steps_after [.subscribe {}]))
    (@Scene.Next.overtake _ [.event .opened, .event (.frame "x")] [] _ _ rfl rfl rfl)

theorem latecomer_told_overtaken : lagging.channel.isTerminated ∧
    (overtaken.after [.hub, .hub, .hub, .hub]).channel.journal =
      [.subscribed 1 {}, .took (.event .opened), .took (.event (.frame "x")),
        .took (.subscribe 1 {}), .took (.event .closed), .dismissed 1, .told 1 .complete] ∧
    ∃ l, (overtaken.after [.hub, .hub, .hub, .hub]).channel.listener? 1 = some l ∧
      inbound l.heard = [] ∧ l.heard = [.complete] := by
  have hJ : (overtaken.after [.hub, .hub, .hub, .hub]).channel.journal =
      [.subscribed 1 {}, .took (.event .opened), .took (.event (.frame "x")),
        .took (.subscribe 1 {}), .took (.event .closed), .dismissed 1, .told 1 .complete] := rfl
  obtain ⟨t, ht, -, htold⟩ := latecomer_told (s := lagging)
    (Scene.nexts_of_steps (Scene.reachable_after _ _ _)) rfl
  obtain rfl : Termination.completed = t := Option.some.inj ht
  obtain ⟨l, hl, hinbound, -, -, -, hdone⟩ := htold (overtaken.after [.hub, .hub, .hub, .hub])
    (nexts_overtaken.trans (Scene.nexts_of_steps (Scene.steps_after _ _))) 1 {} (by simp [hJ])
    (by simp [show lagging.channel.journal = [] from rfl])
  obtain ⟨-, -, hheard⟩ := hdone (by simp [hJ]) rfl
  exact ⟨rfl, hJ, l, hl, hinbound, hheard (by simp [hJ])⟩

end Channel

end PartyLine
