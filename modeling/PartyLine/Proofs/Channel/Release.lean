import PartyLine.Proofs.Channel.Hearing
import PartyLine.Proofs.Channel.Scene
import PartyLine.Proofs.Fanout

/-!
# Releases

A released subscriber is told nothing more, but for one case: if the hub takes its
message only after the end of the channel, it is told of the end nevertheless. On the
set of subscribers alone the case is that of an insertion after the end.

Releasing clears the flag, and every turn in a round asks for the flag. So a subscription that
is stored when it is released is over. One whose message still waits is not: before the end
the hub asks for its flag and drops it, but after the end it tells it of the end without asking.
The account of a released subscription has therefore two stages to be in, over or awaited, and
goes on from the second to the note of the end and to nothing else.

* `toldTo_after_release`: what an account allows to be told after a release;
* `silent_after_release`: what is told after a release, in every use of a channel, and
  what a call on a set makes a released subscriber hear;
* `not_silent_after_release`: a subscriber that is told of the end after its release.
-/

namespace PartyLine

namespace Channel

variable {id : Nat} {a b : Account} {before after : List Happening} {caller : Option Nat}

/-- A released subscription is over, or still awaited. -/
theorem Account.next_released (h : a.next id (.released id caller) = some b) :
    b.stage = .awaited true ∨ b.stage = .past := by
  obtain ⟨end?, stage⟩ := a
  simp only [next, if_pos, Option.map_eq_some_iff] at h
  obtain ⟨stage', hs, rfl⟩ := h
  cases stage with
  | awaited => cases hs; exact .inl rfl
  | stored | past => cases hs; exact .inr rfl
  | due s n =>
    obtain ⟨-, hs⟩ := Option.ite_none_right_eq_some.1 hs
    cases hs
    exact .inr rfl
  | unknown | late | last => cases hs

/-- What is told after a release: the end, if the message is taken only after it. -/
theorem toldTo_after_release (h : account id (before ++ .released id caller :: after) = some b)
    (hb : b.stage.isBusy = false) :
    (∀ mid sub late t, after = mid ++ .took (.subscribe id sub) :: late →
      ended (before ++ mid) = some t → toldTo id after = [t.note].filter sub.wants) ∧
    (toldTo id after = [] ∨ ∃ mid sub late t, after = mid ++ .took (.subscribe id sub) :: late ∧
      ended (before ++ mid) = some t ∧ sub.wants t.note) := by
  -- the message is taken after the release: all depends on whether the end is there by then
  have arrival (mid : List Happening) (sub : Subscriber) (late : List Happening)
      (hafter : after = mid ++ .took (.subscribe id sub) :: late) :
      (∀ t, ended (before ++ mid) = some t → toldTo id after = [t.note].filter sub.wants) ∧
        (ended (before ++ mid) = none → toldTo id after = []) := by
    have hJ : before ++ .released id caller :: after =
        before ++ .released id caller :: mid ++ .took (.subscribe id sub) :: late := by
      simp [hafter]
    rw [hJ] at h
    obtain ⟨htold, a, ha, hlate, hover, -⟩ := account_arrival h
    have hend : ended (before ++ .released id caller :: mid) = ended (before ++ mid) := by simp
    rw [hend] at hlate hover
    have hmid : toldTo id mid = [] := by
      simp only [toldTo_append, List.append_eq_nil_iff, toldTo_cons] at htold
      exact htold.2.2
    have hsplit : toldTo id after = toldTo id late := by simp [hafter, hmid]
    refine ⟨?_, ?_⟩
    · intro t ht
      rw [hsplit, toldTo_of_late (hlate t ht) ha hb]
    · intro hnone
      rw [hsplit, toldTo_of_past (hover hnone (by simp)) ha]
  refine ⟨fun mid sub late t hafter => (arrival mid sub late hafter).1 t, ?_⟩
  by_cases harr : ∃ sub, (id, sub) ∈ arrivals after
  · obtain ⟨sub, harr⟩ := harr
    obtain ⟨mid, late, hafter⟩ := exists_of_mem_arrivals harr
    obtain ⟨htold, hnone⟩ := arrival mid sub late hafter
    cases hend : ended (before ++ mid) with
    | none => exact .inl (hnone hend)
    | some t =>
      by_cases hw : sub.wants t.note
      · exact .inr ⟨mid, sub, late, t, hafter, hend, hw⟩
      · exact .inl (by rw [htold t hend]; simp [hw])
  · -- the message was taken before the release, or has not been taken yet
    left
    obtain ⟨a, a', ha, hnext, hafter⟩ := account_split h
    have ha' : account id (before ++ [.released id caller]) = some a' := by
      rw [account_append, ha]
      simpa using hnext
    have hfits := (fits_of_account ha').2
    rcases Account.next_released hnext with hstage | hstage
    · rw [hstage] at hfits
      have hnew (s : Subscriber) : (id, s) ∉ arrivals (before ++ .released id caller :: after) := by
        cases hfits with
        | awaited _ hbefore =>
          have := hbefore s
          simp_all
      have := toldTo_of_not_arrived h hnew
      simp only [toldTo_append, toldTo_cons, List.append_eq_nil_iff] at this
      exact this.2.2
    · exact toldTo_of_past hstage hafter

/-- After its release, in every use of a channel, a subscription is told nothing more,
    unless the hub takes its message when the channel has ended: then it is told of the
    end, if it wants to be. In the same way no call on a set of subscribers makes one
    hear anything whose flag is clear, except an insertion after the end. -/
theorem silent_after_release {params : ConnectParams} {fault : Option TransportError} {s : Scene}
    (h : Scene.Reachable params fault s) :
    (∀ id caller before after, s.channel.journal = before ++ .released id caller :: after →
      (∀ l, s.channel.listener? id = some l → l.heard = toldTo id before ++ toldTo id after) ∧
      (∀ mid sub late t, after = mid ++ .took (.subscribe id sub) :: late →
        ended (before ++ mid) = some t → toldTo id after = [t.note].filter sub.wants) ∧
      (toldTo id after = [] ∨ ∃ mid sub late t,
        after = mid ++ .took (.subscribe id sub) :: late ∧ ended (before ++ mid) = some t ∧
          sub.wants t.note)) ∧
    ∀ (f : Fanout) (a : Audience) (i : Nat) (l : Listener), a[i]? = some l → l.active = false →
      ∀ call : Fanout.Call, (f.perform Audience.host a call).2[i]? =
        some { l with heard := l.heard ++ f.late i call } := by
  refine ⟨?_, ?_⟩
  · intro id caller before after hJ
    obtain ⟨b, hb, -, hbusy⟩ := h.invariant.account id
    rw [hJ] at hb
    refine ⟨?_, toldTo_after_release hb hbusy⟩
    intro l hl
    rw [h.invariant.sound.heard id l hl, hJ]
    simp
  · intro f a i l hl hactive call
    exact Audience.heard_perform f hl hactive call

/-- A subscriber that subscribes to an ended channel and is released at once: its
    connection has failed for want of a transport. -/
def releasedLate : Scene :=
  (Scene.start { url := "ws://host" } (some .timeout)).after [.connection (.start 0),
    .connection .handle, .hub, .subscribe {}, .release 1, .hub]

theorem silent_after_release_late :
    releasedLate.channel.journal = [.took (.event (.failed .timeout)), .subscribed 1 {}] ++
      .released 1 none :: [.took (.subscribe 1 {}), .dismissed 1,
        .told 1 (.error (.transport .timeout))] ∧
    toldTo 1 [.took (.subscribe 1 {}), .dismissed 1, .told 1 (.error (.transport .timeout))] =
      [(Termination.failed .timeout).note].filter ({} : Subscriber).wants ∧
    (Fanout.perform Audience.host { entries := [⟨1, 0, {}⟩] } [{ active := false }]
      (.terminate .completed)).2[0]? = some { active := false } ∧
    (Fanout.perform Audience.host { termination := some .completed } [{ active := false }]
      (.insert ⟨1, 0, {}⟩)).2[0]? = some { active := false, heard := [.complete] } := by
  have hJ : releasedLate.channel.journal = [.took (.event (.failed .timeout)), .subscribed 1 {}] ++
      .released 1 none :: [.took (.subscribe 1 {}), .dismissed 1,
        .told 1 (.error (.transport .timeout))] := rfl
  obtain ⟨hsilent, hcall⟩ := silent_after_release (s := releasedLate) (Scene.reachable_after _ _ _)
  obtain ⟨-, htold, -⟩ := hsilent 1 none _ _ hJ
  exact ⟨hJ, htold [] {} _ (.failed .timeout) rfl rfl,
    hcall { entries := [⟨1, 0, {}⟩] } [{ active := false }] 0 _ rfl rfl (.terminate .completed),
    hcall { termination := some .completed } [{ active := false }] 0 _ rfl rfl
      (.insert ⟨1, 0, {}⟩)⟩

/-- Not every released subscriber is silent: one whose message waits while the channel
    has ended is told of the end. -/
theorem not_silent_after_release :
    ¬∀ params fault s, Scene.Reachable params fault s → ∀ id caller before after,
      s.channel.journal = before ++ .released id caller :: after → toldTo id after = [] := by
  intro h
  have := h _ _ releasedLate (Scene.reachable_after _ _ _) 1 none
    [.took (.event (.failed .timeout)), .subscribed 1 {}] _ rfl
  cases this

end Channel

end PartyLine
