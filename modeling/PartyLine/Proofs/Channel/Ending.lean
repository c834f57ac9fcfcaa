import PartyLine.Proofs.Channel.Hearing
import PartyLine.Proofs.Channel.Scene

/-!
# Endings

A channel ends once. Every subscriber, early or late, is told of the same end, as
the last thing it is told, and it is the end that the connection has come to.

Three ends have to agree. The connection reports one, by an event that is the last of its story;
the hub takes that event and latches it; and whoever is stored then, or arrives later, is told.
Between the first two the event waits in the hub's inbox, so that the latch is the reported
end as soon as the inbox is empty. Between the last two there is a round, in which a subscription
can only be released: its account allows one note of the end and nothing after it.

* `terminal_told`: a note of the end is the last note and tells of the latched end;
* `Sound.past`: when the hub has taken the end and all else, it is done with everybody;
* `Sound.told_once`: when all is done, whoever was not released has been told of it;
* `one_ending`: the law of endings, in every use of a channel.
-/

namespace PartyLine

namespace Channel

variable {id : Nat} {J : List Happening} {b : Account}

/-- A note of the end is the last note that is told, and tells of the latched end. -/
theorem terminal_told (h : account id J = some b) {x y : List Note} {n : Note}
    (htold : toldTo id J = x ++ n :: y) (hn : n.isTerminal) :
    y = [] ∧ ∃ t, ended J = some t ∧ n = t.note := by
  obtain ⟨J₁, J', rfl, -, hJ'⟩ := List.filterMap_eq_append_iff.1 htold
  obtain ⟨J₂, e, J₃, rfl, -, he, rfl⟩ := List.filterMap_eq_cons_iff.1 hJ'
  obtain rfl : e = .told id n := by
    cases e with
    | told i m =>
      simp only [Happening.note?, Option.ite_none_right_eq_some, Option.some.injEq] at he
      rw [he.1, he.2]
    | _ => cases he
  rw [← List.append_assoc] at h
  obtain ⟨⟨end?, stage⟩, a', ha, hnext, h⟩ := account_split h
  obtain ⟨hend, hfits⟩ := fits_of_account ha
  simp only [Account.next, if_pos, Option.map_eq_some_iff] at hnext
  obtain ⟨stage', hs, rfl⟩ := hnext
  -- of the stages at which something is told, only one is for a note of the end
  cases hfits with
  | due _ _ _ _ hm =>
    obtain ⟨⟨rfl, hm'⟩, -⟩ := Option.ite_none_right_eq_some.1 hs
    simp [hn] at hm'
  | ending =>
    obtain ⟨⟨-, hm'⟩, -⟩ := Option.ite_none_right_eq_some.1 hs
    simp [hn] at hm'
  | @last _ t _ _ ht =>
    obtain ⟨hm, hs⟩ := Option.ite_none_right_eq_some.1 hs
    cases hs
    refine ⟨toldTo_of_past rfl h, t, ?_, hm.symm⟩
    rw [← List.append_assoc, ended_append, ht]
    rfl
  | unknown | awaited | stored | late | released | finished => cases hs

/-- Whoever has been told of the end has been told once. -/
theorem filter_isTerminal (h : account id J = some b) {t : Termination}
    (hmem : t.note ∈ toldTo id J) : (toldTo id J).filter Note.isTerminal = [t.note] := by
  obtain ⟨x, y, htold⟩ := List.append_of_mem hmem
  obtain ⟨rfl, -⟩ := terminal_told h htold t.isTerminal_note
  -- nothing before it is a note of the end, as that would be the last
  have hx : x.filter Note.isTerminal = [] := by
    refine List.filter_eq_nil_iff.2 fun n hn hterminal => ?_
    obtain ⟨x₁, x₂, rfl⟩ := List.append_of_mem hn
    have := (terminal_told h (x := x₁) (y := x₂ ++ [t.note]) (by simpa using htold) hterminal).1
    simp at this
  simp [htold, hx]

variable {tr : Trace} {c : Channel} {t : Termination}

/-- When the hub has taken the end and all else, it is done with every subscription. -/
theorem Sound.past (h : Sound tr (.idle c) c) (hinbox : c.inbox = [])
    (hend : Channel.ended c.journal = some t) (id : Nat) : ∃ b, account id c.journal = some b ∧
      (c.flag? id = none ∧ b.stage = .unknown ∨ c.flag? id = some false ∧ b.stage = .past) := by
  obtain ⟨b, hb, hh⟩ := h.accounts id
  obtain ⟨-, hfits⟩ := fits_of_account hb
  refine ⟨b, hb, ?_⟩
  generalize b.stage = stage at hh hfits
  cases hh with
  | unknown hf => exact .inl ⟨hf, rfl⟩
  | past hf => exact .inr ⟨hf, rfl⟩
  | awaited =>
    have hsubscribed := h.subscribed
    rw [hinbox, List.filterMap_nil, List.append_nil] at hsubscribed
    cases hfits with
    | awaited hs harr => exact absurd (hsubscribed ▸ hs) (harr _)
  | stored =>
    cases hfits with
    | stored _ _ _ hnone =>
      rw [hend] at hnone
      cases hnone
  | due _ _ _ he | late _ he => cases he

/-- Then whoever was not released has been told of the end, and that once. -/
theorem Sound.told_once (h : Sound tr (.idle c) c) (hinbox : c.inbox = [])
    (hend : Channel.ended c.journal = some t) {id : Nat} {s : Subscriber}
    (hs : (id, s) ∈ subscriptions c.journal) (hreleased : ¬Released id c.journal)
    (hwants : s.wants t.note) :
    ∃ l, c.listener? id = some l ∧ l.heard.filter Note.isTerminal = [t.note] := by
  obtain ⟨b, hb, hstage⟩ := h.past hinbox hend id
  obtain ⟨-, hfits⟩ := fits_of_account hb
  rcases hstage with ⟨-, hstage⟩ | ⟨hf, hstage⟩
  · rw [hstage] at hfits
    cases hfits with
    | unknown hnone => exact absurd hs (hnone s)
  · obtain ⟨l, hl, -⟩ := Option.map_eq_some_iff.1 hf
    refine ⟨l, hl, ?_⟩
    rw [h.heard id l hl]
    rw [hstage] at hfits
    refine filter_isTerminal hb ?_
    cases hfits with
    | released _ hr => exact absurd hr hreleased
    | finished harr _ hend' htold =>
      -- it has arrived as the subscriber that it subscribed as
      have hsubscribed := h.subscribed
      rw [hinbox, List.filterMap_nil, List.append_nil] at hsubscribed
      obtain rfl := h.arrivals_inj harr (hsubscribed ▸ hs)
      obtain rfl := Option.some.inj (hend'.symm.trans hend)
      exact htold hwants

/-- In every use of a channel, a note of the end is the last that a subscriber is told,
    and all such notes tell of the end that is latched; this is the end that the
    connection has come to, and the error that of its one failure. When the connection
    has ended and the hub has taken all of its messages, no subscription is active, and
    whoever was not released has been told of the end once, if it wanted to be. -/
theorem one_ending {params : ConnectParams} {fault : Option TransportError} {s : Scene}
    (h : Scene.Reachable params fault s) :
    (∀ id l x n y, s.channel.listener? id = some l → l.heard = x ++ n :: y → n.isTerminal →
      y = [] ∧ ∃ t, s.channel.fanout.termination = some t ∧ n = t.note) ∧
    (∀ t, s.channel.fanout.termination = some t →
      (t = .completed ↔ s.channel.state = .closed) ∧
      ∀ e, t = .failed e ↔ s.channel.state = .errored ∧
        s.trace.events.filterMap ConnectionEvent.failure? = [e]) ∧
    (s.channel.isTerminated → s.channel.inbox = [] →
      ∃ t, s.channel.fanout.termination = some t ∧ (∀ id, s.channel.isActive id = false) ∧
        ∀ id sub, .subscribed id sub ∈ s.channel.journal → ¬Released id s.channel.journal →
          sub.wants t.note → ∃ l, s.channel.listener? id = some l ∧
            l.heard.filter Note.isTerminal = [t.note]) := by
  have hsound := h.invariant.sound
  have hlatch : ended s.channel.journal = s.channel.fanout.termination := hsound.ended
  refine ⟨?_, ?_, ?_⟩
  · intro id l x n y hl hheard hn
    obtain ⟨b, hb, -⟩ := hsound.accounts id
    rw [hsound.heard id l hl] at hheard
    rw [← hlatch]
    exact terminal_told hb hheard hn
  · -- what is latched has been taken, and so is the end that was reported
    intro t ht
    have hend : endOf s.trace.events = some t := by
      rw [hsound.reported, endOf, List.findSome?_append, ← endOf, ← ended, hlatch, ht]
      rfl
    obtain ⟨hstate, hfailures⟩ := state_of_endOf hsound.course hend
    rw [state, hstate, hfailures]
    cases t <;> simp [Termination.state, Termination.error?, eq_comm]
  · -- with nothing left in the inbox the hub has taken all that was reported
    intro hterminated hinbox
    obtain ⟨t, hend⟩ : ∃ t, ended s.channel.journal = some t := by
      have hreported := hsound.reported
      rw [hinbox, List.filterMap_nil, List.append_nil] at hreported
      rw [ended, ← hreported]
      exact exists_endOf hsound.course hterminated
    refine ⟨t, hlatch ▸ hend, ?_, ?_⟩
    · intro id
      obtain ⟨b, -, ⟨hf, -⟩ | ⟨hf, -⟩⟩ := hsound.past hinbox hend id <;> simp [isActive_eq, hf]
    · intro id sub hsub hreleased hwants
      exact hsound.told_once hinbox hend (List.mem_filterMap.2 ⟨_, hsub, rfl⟩) hreleased hwants

/-- A channel that closes between two subscriptions. -/
def closedBetween : Scene :=
  (Scene.start { url := "ws://host" } none).after [.connection (.start 0), .subscribe {},
    .connection (.connected none), .connection .handle, .connection (.received 0 .ended),
    .connection .handle, .subscribe {}, .hub, .hub, .hub, .hub]

theorem one_ending_closedBetween :
    closedBetween.channel.listener? 1 = some { active := false, heard := [.complete] } ∧
    (∃ t, closedBetween.channel.fanout.termination = some t ∧ Note.complete = t.note) ∧
    (∀ e, Termination.completed = .failed e ↔ closedBetween.channel.state = .errored ∧
      closedBetween.trace.events.filterMap ConnectionEvent.failure? = [e]) ∧
    closedBetween.channel.isTerminated ∧ closedBetween.channel.inbox = [] ∧
    .subscribed 2 {} ∈ closedBetween.channel.journal ∧ ¬Released 2 closedBetween.channel.journal ∧
    ∃ t, closedBetween.channel.fanout.termination = some t ∧
      ∃ l, closedBetween.channel.listener? 2 = some l ∧
        l.heard.filter Note.isTerminal = [t.note] := by
  have hjournal : closedBetween.channel.journal = [.subscribed 1 {}, .subscribed 2 {},
      .took (.subscribe 1 {}), .took (.event .opened), .took (.event .closed), .dismissed 1,
      .told 1 .complete, .took (.subscribe 2 {}), .dismissed 2, .told 2 .complete] := rfl
  have hsubscribed : .subscribed 2 {} ∈ closedBetween.channel.journal := by simp [hjournal]
  have hreleased : ¬Released 2 closedBetween.channel.journal := by simp [hjournal]
  obtain ⟨hlast, hagree, htaken⟩ := one_ending (s := closedBetween) (Scene.reachable_after _ _ _)
  obtain ⟨t, ht, -, htold⟩ := htaken rfl rfl
  have hwants : ({} : Subscriber).wants t.note := by cases t <;> rfl
  exact ⟨rfl, (hlast 1 _ [] .complete [] rfl rfl rfl).2, (hagree .completed rfl).2, rfl, rfl,
    hsubscribed, hreleased, t, ht, htold 2 {} hsubscribed hreleased hwants⟩

end Channel

end PartyLine
