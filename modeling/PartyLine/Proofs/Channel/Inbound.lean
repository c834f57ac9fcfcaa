import PartyLine.Proofs.Channel.Hearing
import PartyLine.Proofs.Channel.Scene

/-!
# What subscribers hear of frames

Every frame that the transport hands out comes to the hub, once and in order, and of
the frames that the hub takes each subscriber hears those from its arrival to its
release or to the end. Where a release comes out of another subscriber's callback, the
frame that goes round at that time is heard only if the turn was before.

The two halves are proved apart. That frames come to the hub is a matter of queues: what has
been read is what the hub has taken, then what waits in its inbox, then what waits in that of the
connection. What a subscriber hears is a matter of its account from the happening by which it was
stored on: each frame taken makes a turn due, and no other happening can be next for it before
the turn is done. A frame is heard as what it decodes to, an envelope or the error, if the
subscriber wants it.

* `inbound`: what a subscription has been told of frames, without the note of the end;
* `framesRead_eq`: where the frames are that have been read;
* `inbound_of_stored`: what is heard from being stored until a release, or until now;
* `inbound_stream`: what each subscriber hears of them, in every use of a channel.
-/

namespace PartyLine

namespace Channel

/-- What a subscription has been told of frames. -/
def inbound (notes : List Note) : List Note := notes.filter fun n => !n.isTerminal

variable {id : Nat} {s : Subscriber} {a b : Account} {K L : List Happening}

@[simp] theorem inbound_append (x y : List Note) : inbound (x ++ y) = inbound x ++ inbound y :=
  List.filter_append ..

/-- What is told of frames is kept. -/
theorem inbound_image (s : Subscriber) (fs : List String) :
    inbound (fs.flatMap s.image) = fs.flatMap s.image := by
  refine List.filter_eq_self.2 fun n hn => ?_
  obtain ⟨f, -, hn⟩ := List.mem_flatMap.1 hn
  obtain ⟨hn, -⟩ := List.mem_filter.1 hn
  simp [List.mem_singleton.1 hn]

/-- What is told of the end is left out. -/
theorem inbound_note (s : Subscriber) (t : Termination) :
    inbound ([t.note].filter s.wants) = [] := by
  refine List.filter_eq_nil_iff.2 fun n hn => ?_
  obtain ⟨hn, -⟩ := List.mem_filter.1 hn
  simp [List.mem_singleton.1 hn]

/-- Where the frames are that have been read: the hub has taken them, or they wait in its
    inbox or in that of the connection. -/
theorem framesRead_eq {t : Trace} {r : Round} {c : Channel} (h : Sound t r c) :
    t.reads.filterMap Received.frame? = framesTaken c.journal ++
      framesOf (c.inbox.filterMap Message.event?) ++ framesOf c.connection.unreported := by
  rw [framesOf_story h.course.story, h.reported]
  simp [framesOf, framesTaken]

/-- The hub takes no event after the end. -/
theorem eventsTaken_eq_nil {t : Trace} {r : Round} {c : Channel} (h : Sound t r c)
    (hJ : c.journal = K ++ L) (hend : ended K ≠ none) : eventsTaken L = [] := by
  cases hL : eventsTaken L with
  | nil => rfl
  | cons e rest =>
    have hcourse := h.course
    rw [h.reported, hJ, eventsTaken_append, hL, List.append_assoc] at hcourse
    exact absurd (endOf_eq_none hcourse) hend

/-- What a stored subscription hears of frames until its release, or until now. -/
theorem inbound_of_stored (h : ({ stage := .stored s } : Account).after? id (K ++ L) = some b)
    (hb : b.stage.isBusy = false) (hK : ¬Released id K)
    (hL : L = [] ∨ ∃ caller rest, L = .released id caller :: rest) :
    ∃ segment, inbound (toldTo id (K ++ L)) = segment.flatMap s.image ∧
      (segment = framesTaken K ∨ ∃ begun f round caller rest,
        K = begun ++ .took (.event (.frame f)) :: round ∧ (∀ m, .took m ∉ round) ∧
          toldTo id round = [] ∧ L = .released id (some caller) :: rest ∧ caller ≠ id ∧
            segment = framesTaken begun) := by
  rw [Account.after?_append] at h
  obtain ⟨a, ha, h⟩ := Option.bind_eq_some_iff.1 h
  obtain ⟨-, hheard⟩ := heard_of_after? rfl ha hK
  have told (htold : toldTo id L = []) (fs : List String) (x : List Note) (hx : inbound x = [])
      (hK : toldTo id K = fs.flatMap s.image ++ x) :
      inbound (toldTo id (K ++ L)) = fs.flatMap s.image := by
    simp [htold, hK, hx, inbound_image]
  rcases hL with rfl | ⟨caller, rest, rfl⟩
  · -- not released yet
    cases h
    generalize b.stage = stage at hheard hb
    cases hheard with
    | stored _ hK => exact ⟨_, told rfl _ [] rfl (by simpa using hK), .inl rfl⟩
    | past _ hK => exact ⟨_, told rfl _ _ (inbound_note _ _) hK, .inl rfl⟩
    | due | ending | last => cases hb
  · obtain ⟨a', hnext, h⟩ := after?_cons_eq_some h
    obtain ⟨end?, stage⟩ := a
    simp only [Account.next, if_pos, Option.map_eq_some_iff] at hnext
    obtain ⟨stage', hs, rfl⟩ := hnext
    have silent (hover : stage' = .past) : toldTo id (.released id caller :: rest) = [] := by
      simpa using toldTo_of_past hover h
    cases hheard with
    | stored _ hK =>
      cases hs
      exact ⟨_, told (silent rfl) _ [] rfl (by simpa using hK), .inl rfl⟩
    | past _ hK =>
      cases hs
      exact ⟨_, told (silent rfl) _ _ (inbound_note _ _) hK, .inl rfl⟩
    | ending _ hK =>
      obtain ⟨-, hs⟩ := Option.ite_none_right_eq_some.1 hs
      cases hs
      exact ⟨_, told (silent rfl) _ [] rfl (by simpa using hK), .inl rfl⟩
    | due begun round hK hround htold hend hbegun hw =>
      -- released from inside the callback of another, while the frame goes round
      obtain ⟨hcaller, hs⟩ := Option.ite_none_right_eq_some.1 hs
      cases hs
      obtain ⟨j, rfl, hj⟩ := (Option.any_eq_true _ _).1 hcaller
      refine ⟨framesTaken begun, told (silent rfl) _ [] rfl ?_, .inr ⟨begun, _, round, j, rest, hK,
        hround, htold, rfl, by simpa using hj, rfl⟩⟩
      simp [hK, htold, hbegun]
    | last => cases hs

/-- In every use of a channel, the frames that the transport has handed out are those
    that the hub has taken, those that wait for it and those that wait for the actor of
    the connection, in this order; and the hub takes nothing after the end. Of frames a
    subscription hears nothing before the hub takes its message, and nothing at all if it
    was released or the channel had ended by then. Else it hears what it wants of each
    frame that the hub takes from then on until the release, if there is one. If that
    comes out of the callback of another subscription while a frame goes round, the
    frame is the first not to be heard, unless it was heard before. -/
theorem inbound_stream {params : ConnectParams} {fault : Option TransportError} {c : Scene}
    (h : Scene.Reachable params fault c) :
    c.trace.reads.filterMap Received.frame? = framesTaken c.channel.journal ++
      framesOf (c.channel.inbox.filterMap Message.event?) ++
        framesOf c.channel.connection.unreported ∧
    (∀ before after, c.channel.journal = before ++ after → ended before ≠ none →
      eventsTaken after = []) ∧
    ∀ id l, c.channel.listener? id = some l →
      ((∀ sub, (id, sub) ∉ arrivals c.channel.journal) → l.heard = []) ∧
      ∀ before sub mid after,
        c.channel.journal = before ++ .took (.subscribe id sub) :: (mid ++ after) →
        ¬Released id mid → (after = [] ∨ ∃ caller rest, after = .released id caller :: rest) →
        (Released id before ∨ ended before ≠ none → inbound l.heard = []) ∧
        (¬Released id before → ended before = none →
          ∃ segment, inbound l.heard = segment.flatMap sub.image ∧
            (segment = framesTaken mid ∨ ∃ begun f round caller rest,
              mid = begun ++ .took (.event (.frame f)) :: round ∧ (∀ m, .took m ∉ round) ∧
                toldTo id round = [] ∧ after = .released id (some caller) :: rest ∧
                  caller ≠ id ∧ segment = framesTaken begun)) := by
  have hsound := h.invariant.sound
  refine ⟨framesRead_eq hsound, ?_, ?_⟩
  · intro before after hJ
    exact eventsTaken_eq_nil hsound hJ
  · intro id l hl
    obtain ⟨b, hb, -, hbusy⟩ := h.invariant.account id
    rw [hsound.heard id l hl]
    refine ⟨toldTo_of_not_arrived hb, ?_⟩
    intro before sub mid after hJ hmid hafter
    rw [hJ] at hb ⊢
    obtain ⟨htold, a, ha, hlate, hover, hstored⟩ := account_arrival hb
    have hheard : toldTo id (before ++ .took (.subscribe id sub) :: (mid ++ after)) =
        toldTo id (mid ++ after) := by simp [htold]
    rw [hheard]
    refine ⟨?_, ?_⟩
    · -- it came too late, or not at all
      intro hnot
      cases hend : ended before with
      | some t =>
        rw [toldTo_of_late (hlate t hend) ha hbusy]
        exact inbound_note sub t
      | none =>
        rw [toldTo_of_past (hover hend (hnot.resolve_right (absurd hend))) ha]
        rfl
    · intro hreleased hend
      rw [hstored hend hreleased] at ha
      exact inbound_of_stored ha hbusy hmid hafter

/-- Releases the second subscription on the second frame. -/
def jealous : Subscriber where
  respond heard := if heard.length = 2 then [.release 2] else []

/-- Two subscriptions, of which the first releases the second while a frame goes round. -/
def releasedInRound : Scene :=
  (Scene.start { url := "ws://host" } none).after [.connection (.start 0),
    .connection (.connected none), .connection .handle, .subscribe jealous, .subscribe {}, .hub,
    .hub, .hub, .connection (.received 0 (.frame "x")), .connection (.received 0 (.frame "y")),
    .connection .handle, .connection .handle, .hub, .hub, .hub]

theorem inbound_stream_releasedInRound :
    ∃ before mid after, releasedInRound.channel.journal =
        before ++ .took (.subscribe 2 {}) :: (mid ++ after) ∧
      ¬Released 2 mid ∧ (∃ rest, after = .released 2 (some 1) :: rest) ∧ ¬Released 2 before ∧
      ended before = none ∧
      ∃ l, releasedInRound.channel.listener? 2 = some l ∧
        ∃ segment, inbound l.heard = segment.flatMap ({} : Subscriber).image ∧
          (segment = framesTaken mid ∨ ∃ begun f round caller rest,
            mid = begun ++ .took (.event (.frame f)) :: round ∧ (∀ m, .took m ∉ round) ∧
              toldTo 2 round = [] ∧ after = .released 2 (some caller) :: rest ∧
                caller ≠ 2 ∧ segment = framesTaken begun) := by
  have hJ : releasedInRound.channel.journal =
      [.subscribed 1 jealous, .subscribed 2 {}, .took (.event .opened),
        .took (.subscribe 1 jealous)] ++ .took (.subscribe 2 {}) ::
      ([.took (.event (.frame "x")), .told 1 (.ofFrame "x"), .told 2 (.ofFrame "x"),
        .took (.event (.frame "y")), .told 1 (.ofFrame "y")] ++
      [.released 2 (some 1), .took (.unsubscribe 2)]) := rfl
  obtain ⟨-, -, hheard⟩ := inbound_stream (c := releasedInRound) (Scene.reachable_after _ _ _)
  obtain ⟨-, hsegment⟩ := hheard 2 _ rfl
  have hmid : ¬Released 2 [.took (.event (.frame "x")), .told 1 (.ofFrame "x"),
    .told 2 (.ofFrame "x"), .took (.event (.frame "y")), .told 1 (.ofFrame "y")] := by simp
  have hbefore : ¬Released 2 [.subscribed 1 jealous, .subscribed 2 {}, .took (.event .opened),
    .took (.subscribe 1 jealous)] := by simp
  exact ⟨_, _, _, hJ, hmid, ⟨_, rfl⟩, hbefore, rfl, _, rfl,
    (hsegment _ _ _ _ hJ hmid (.inr ⟨_, _, rfl⟩)).2 hbefore rfl⟩

end Channel

end PartyLine
