import PartyLine.Proofs.Channel.Account

/-!
# Hearing

What a subscription hears from the time it is stored until its release: of every
frame that the hub takes, as far as it wants it, then of the end. Only a frame
that is still going round may be missing. Once it is over it hears nothing.

The notes since then are followed happening by happening, as the account is. At each stage it is
known what has been told: in between rounds all frames that were taken, while a frame goes round all
but that one, after the end the note of it as well. A release ends this, and what is told after it
is read off the stage that it leads to.

* `toldTo_of_past`, `toldTo_of_last`, `toldTo_of_late`: what is told at the end;
* `Heard`: what has been told since it was stored, by the stage it is at;
* `heard_of_after?`: every account of a stored subscription is of that kind.
-/

namespace PartyLine

namespace Channel

variable {id : Nat} {s : Subscriber} {a b : Account} {K : List Happening}

/-! ## At the end -/

/-- The account before the last of some happenings, and before that one. -/
theorem after?_cons_eq_some {x : Happening} (h : a.after? id (x :: K) = some b) :
    ∃ a', a.next id x = some a' ∧ a'.after? id K = some b :=
  Option.bind_eq_some_iff.1 (by simpa using h)

/-- What is over stays over. -/
theorem Account.next_past {x : Happening} (ha : a.stage = .past) (h : a.next id x = some b) :
    b.stage = .past ∧ x.note? id = none := by
  obtain ⟨end?, stage⟩ := a
  obtain rfl : stage = .past := ha
  cases x with
  | subscribed i s | dismissed i =>
    simp only [next] at h
    split at h
    · cases h
    · cases h; exact ⟨rfl, rfl⟩
  | released i caller =>
    simp only [next] at h
    split at h <;> cases h <;> exact ⟨rfl, rfl⟩
  | sent e => cases h; exact ⟨rfl, rfl⟩
  | told i n =>
    simp only [next] at h
    split at h
    · cases h
    · next hi => cases h; exact ⟨rfl, by simp [hi]⟩
  | took m =>
    refine ⟨?_, rfl⟩
    obtain ⟨-, h⟩ := next_took.1 h
    cases m with
    | subscribe i s =>
      simp only [take?] at h
      split at h <;> cases h
      rfl
    | unsubscribe i => cases h; rfl
    | event e =>
      cases end? with
      | some t => cases h
      | none => cases h; cases e <;> rfl

/-- Nothing is told to what is over. -/
theorem toldTo_of_past (ha : a.stage = .past) (h : a.after? id K = some b) : toldTo id K = [] := by
  induction K generalizing a with
  | nil => rfl
  | cons x K ih =>
    obtain ⟨a', hx, h⟩ := after?_cons_eq_some h
    obtain ⟨ha', hn⟩ := Account.next_past ha hx
    rw [toldTo_cons, hn, ih ha' h]
    rfl

/-- The last note is told before the hub goes on. -/
theorem toldTo_of_last {n : Note} (ha : a.stage = .last n) (h : a.after? id K = some b)
    (hb : b.stage.isBusy = false) : toldTo id K = [n] := by
  induction K generalizing a with
  | nil => cases h; simp [ha, Stage.isBusy] at hb
  | cons x K ih =>
    obtain ⟨a', hx, h⟩ := after?_cons_eq_some h
    obtain ⟨end?, stage⟩ := a
    obtain rfl : stage = .last n := ha
    cases x with
    | subscribed i s | dismissed i | released i caller =>
      simp only [Account.next] at hx
      split at hx <;> cases hx
      simpa using ih rfl h
    | sent e => cases hx; simpa using ih rfl h
    | took m => cases hx
    | told i m =>
      simp only [Account.next] at hx
      split at hx
      · next hi =>
        obtain ⟨stage, hs, rfl⟩ := Option.map_eq_some_iff.1 hx
        obtain ⟨hn, hs⟩ := Option.ite_none_right_eq_some.1 hs
        cases hs
        simp [hi, hn, toldTo_of_past rfl h]
      · next hi => cases hx; simpa [hi] using ih rfl h

/-- A subscription that comes after the end is told of it, whether released or not. -/
theorem toldTo_of_late {s : Subscriber} {t : Termination} (ha : a.stage = .late s t)
    (h : a.after? id K = some b) (hb : b.stage.isBusy = false) :
    toldTo id K = [t.note].filter s.wants := by
  induction K generalizing a with
  | nil => cases h; simp [ha, Stage.isBusy] at hb
  | cons x K ih =>
    obtain ⟨a', hx, h⟩ := after?_cons_eq_some h
    obtain ⟨end?, stage⟩ := a
    obtain rfl : stage = .late s t := ha
    cases x with
    | subscribed i s | told i m | released i caller =>
      simp only [Account.next] at hx
      split at hx
      · cases hx
      · next hi => cases hx; simpa [hi] using ih rfl h
    | sent e => cases hx; simpa using ih rfl h
    | took m => cases hx
    | dismissed i =>
      simp only [Account.next] at hx
      split at hx
      · cases hx
        by_cases hw : s.wants t.note
        · simpa [hw] using toldTo_of_last (by simp [Stage.lastly, hw]) h hb
        · simpa [hw] using toldTo_of_past (by simp [Stage.lastly, hw]) h
      · cases hx; simpa using ih rfl h

/-! ## From the arrival on -/

/-- What a subscription has been told since it was stored, while not released. -/
inductive Heard (id : Nat) (s : Subscriber) (K : List Happening) : Stage → Prop
  | stored : ended K = none → toldTo id K = (framesTaken K).flatMap s.image →
      Heard id s K (.stored s)
  /-- A frame goes round, and the turn is still to come. -/
  | due (before round : List Happening) {f : String} :
      K = before ++ .took (.event (.frame f)) :: round → (∀ m, .took m ∉ round) →
      toldTo id round = [] → ended before = none →
      toldTo id before = (framesTaken before).flatMap s.image → s.wants (.ofFrame f) →
      Heard id s K (.due s (.ofFrame f))
  | ending {t : Termination} : ended K = some t →
      toldTo id K = (framesTaken K).flatMap s.image → Heard id s K (.due s t.note)
  | last {t : Termination} : ended K = some t → toldTo id K = (framesTaken K).flatMap s.image →
      s.wants t.note → Heard id s K (.last t.note)
  | past {t : Termination} : ended K = some t →
      toldTo id K = (framesTaken K).flatMap s.image ++ [t.note].filter s.wants → Heard id s K .past

/-- What has been heard stays so while nothing happens to the subscription and the hub
    takes no event. -/
theorem Heard.congr {x : Happening} {stage : Stage} (h : Heard id s K stage)
    (he : x.event? = none) (ht : x.note? id = none)
    (hbusy : stage.isBusy → ∀ m, x ≠ .took m) : Heard id s (K ++ [x]) stage := by
  have hend : ended (K ++ [x]) = ended K := by
    rw [ended_append, ended_cons, he]
    exact Option.or_none
  have hframes : framesTaken (K ++ [x]) = framesTaken K := by
    rw [framesTaken_append, framesTaken_cons, he]
    exact List.append_nil _
  have htold (L : List Happening) : toldTo id (L ++ [x]) = toldTo id L := by
    rw [toldTo_append, toldTo_cons, ht]
    exact List.append_nil _
  cases h with
  | stored h₁ h₂ => exact .stored (by rwa [hend]) (by rwa [htold, hframes])
  | due before round h₁ h₂ h₃ h₄ h₅ h₆ =>
    refine .due before (round ++ [x]) (by simp [h₁]) (fun m hm => ?_) (by rwa [htold]) h₄ h₅ h₆
    rcases List.mem_append.1 hm with hm | hm
    · exact h₂ m hm
    · exact hbusy rfl m (List.mem_singleton.1 hm).symm
  | ending h₁ h₂ => exact .ending (by rwa [hend]) (by rwa [htold, hframes])
  | last h₁ h₂ h₃ => exact .last (by rwa [hend]) (by rwa [htold, hframes]) h₃
  | past h₁ h₂ => exact .past (hend ▸ h₁) (by rwa [htold, hframes])

/-- Once an event is taken, what goes round is due to be heard. -/
theorem Heard.takeEvent {stage : Stage} (h : Heard id s K stage) (hbusy : stage.isBusy = false)
    (hnone : ended K = none) (e : ConnectionEvent) :
    Heard id s (K ++ [.took (.event e)]) (e.note?.elim stage stage.goesRound) := by
  have hend : ended (K ++ [.took (.event e)]) = e.end? := by simp [hnone]
  cases h with
  | stored _ htold =>
    cases e with
    | opened => exact .stored hend (by simpa using htold)
    | frame f =>
      by_cases hw : s.wants (.ofFrame f)
      · simpa [ConnectionEvent.note?, Stage.goesRound, hw] using
          Heard.due (K := K ++ [.took (.event (.frame f))]) K [] rfl (by simp) rfl hnone htold hw
      · simpa [ConnectionEvent.note?, Stage.goesRound, hw] using
          Heard.stored hend (by simp [htold, Subscriber.image, hw])
    | failed e => exact .ending (t := .failed e) hend (by simpa using htold)
    | closed => exact .ending (t := .completed) hend (by simpa using htold)
  | past hK => simp [hnone] at hK
  | due | ending | last => cases hbusy

/-- The flag is cleared at the end; a last note is still to be heard if it is wanted. -/
theorem Heard.dismiss {stage stage' : Stage} (h : Heard id s K stage)
    (hs : stage.dismiss? = some stage') : Heard id s (K ++ [.dismissed id]) stage' := by
  cases h with
  | @ending t hend htold =>
    obtain ⟨-, hs⟩ := Option.ite_none_right_eq_some.1 hs
    cases hs
    by_cases hw : s.wants t.note
    · simpa [Stage.lastly, hw] using
        Heard.last (K := K ++ [.dismissed id]) (by simpa using hend) (by simpa using htold) hw
    · simpa [Stage.lastly, hw] using
        Heard.past (s := s) (K := K ++ [.dismissed id]) (by simpa using hend)
          (by simpa [hw] using htold)
  | due => simp [Stage.dismiss?] at hs
  | stored | last | past => cases hs

/-- What is told is heard. -/
theorem Heard.tell {stage stage' : Stage} {n : Note} (h : Heard id s K stage)
    (hs : stage.tell? n = some stage') : Heard id s (K ++ [.told id n]) stage' := by
  cases h with
  | due before round hK hround htold hend htold' hw =>
    obtain ⟨⟨hn, -⟩, hs⟩ := Option.ite_none_right_eq_some.1 hs
    cases hs
    -- since the frame was taken nothing else has been
    have hevents : eventsTaken round = [] := eventsTaken_of_not_took hround
    have hframes : framesTaken round = [] := by rw [framesTaken, hevents]; rfl
    have hend' : ended round = none := by rw [ended, hevents]; rfl
    exact .stored (by simp [hK, hend, hend'])
      (by simp [hK, htold, htold', hframes, Subscriber.image, hw, ← hn])
  | last hend htold hw =>
    obtain ⟨hn, hs⟩ := Option.ite_none_right_eq_some.1 hs
    cases hs
    exact .past (by simpa using hend) (by simp [htold, hw, ← hn])
  | ending =>
    obtain ⟨⟨rfl, hn⟩, -⟩ := Option.ite_none_right_eq_some.1 hs
    simp at hn
  | stored | past => cases hs

/-- Taking a message keeps account of what is heard. -/
theorem Heard.took {m : Message} (he : a.ended = ended K) (hh : Heard id s K a.stage)
    (hbusy : a.stage.isBusy = false) (h : a.take? id m = some b) :
    b.ended = ended (K ++ [.took m]) ∧ Heard id s (K ++ [.took m]) b.stage := by
  cases m with
  | subscribe i s' =>
    simp only [Account.take?] at h
    split at h
    · -- it has arrived already
      obtain ⟨stage', hs, -⟩ := Option.map_eq_some_iff.1 h
      generalize a.stage = stage at hh hs
      cases hh <;> cases hs
    · cases h
      exact ⟨by simpa using he, hh.congr rfl rfl (by simp [hbusy])⟩
  | unsubscribe i =>
    cases h
    exact ⟨by simpa using he, hh.congr rfl rfl (by simp [hbusy])⟩
  | event e =>
    obtain ⟨end?, stage⟩ := a
    cases end? with
    | some t => cases h
    | none =>
      cases h
      have hnone : ended K = none := he.symm
      exact ⟨by simp [hnone], hh.takeEvent hbusy hnone e⟩

/-- Every happening but a release keeps account of what is heard. -/
theorem heard_next {x : Happening} (he : a.ended = ended K) (hh : Heard id s K a.stage)
    (hr : ∀ caller, x ≠ .released id caller) (h : a.next id x = some b) :
    b.ended = ended (K ++ [x]) ∧ Heard id s (K ++ [x]) b.stage := by
  -- whoever hears has been stored, and is subscribed no second time
  cases x with
  | subscribed i s' =>
    obtain ⟨end?, stage⟩ := a
    simp only [Account.next] at h
    split at h
    · cases hh <;> cases h
    · cases h
      exact ⟨by simpa using he, hh.congr rfl rfl (by simp)⟩
  | released i caller =>
    simp only [Account.next] at h
    split at h
    · next hi => exact absurd (hi ▸ rfl) (hr caller)
    · cases h
      exact ⟨by simpa using he, hh.congr rfl rfl (by simp)⟩
  | sent e =>
    cases h
    exact ⟨by simpa using he, hh.congr rfl rfl (by simp)⟩
  | took m =>
    obtain ⟨hbusy, h⟩ := Account.next_took.1 h
    exact hh.took he hbusy h
  | dismissed i =>
    simp only [Account.next] at h
    split at h
    · next hi =>
      subst hi
      obtain ⟨stage, hs, rfl⟩ := Option.map_eq_some_iff.1 h
      exact ⟨by simpa using he, hh.dismiss hs⟩
    · cases h
      exact ⟨by simpa using he, hh.congr rfl rfl (by simp)⟩
  | told i n =>
    simp only [Account.next] at h
    split at h
    · next hi =>
      subst hi
      obtain ⟨stage, hs, rfl⟩ := Option.map_eq_some_iff.1 h
      exact ⟨by simpa using he, hh.tell hs⟩
    · next hi =>
      cases h
      exact ⟨by simpa using he, hh.congr rfl (by simp [hi]) (by simp)⟩

/-- What is heard from the time of being stored on, until a release. -/
theorem heard_of_after? (ha : a = { stage := .stored s }) (h : a.after? id K = some b)
    (hr : ¬Released id K) : b.ended = ended K ∧ Heard id s K b.stage := by
  induction K using List.reverseRecOn generalizing b with
  | nil =>
    cases h
    subst ha
    exact ⟨rfl, .stored rfl rfl⟩
  | append_singleton K x ih =>
    rw [Account.after?_append] at h
    obtain ⟨a', ha', h⟩ := Option.bind_eq_some_iff.1 h
    rw [released_append, not_or] at hr
    obtain ⟨he, hh⟩ := ih ha' hr.1
    refine heard_next he hh (fun caller hx => hr.2 ?_) (by simpa using h)
    exact ⟨caller, by simp [hx]⟩

end Channel

end PartyLine
