import Mathlib.Data.List.Induction
import PartyLine.Proofs.Channel.Journal

/-!
# Accounts

The journal of a channel tells the life of every subscription. It is subscribed,
and its message waits in the hub's inbox; when the hub takes the message it is
stored, unless it has been released or the channel has ended; while it is stored
it is told of every frame that the hub takes, in its turn, until it is released
or the end is taken; and after the end's note it is told nothing.

An *account* follows this life happening by happening: it has the stage of the subscription and
the end of the channel, if the hub has taken it. It is partial. A journal in which a turn is
missed, something is told that is not due, or a number is given twice, has none; that a journal of
a channel has one is part of the invariant in `PartyLine.Proofs.Channel.Sound`. What follows here
is about journals alone: whatever stage an account has led to, the journal says so too, in terms
of who has subscribed, arrived, been released or dismissed, and what it has been told
(`Stage.Fits`).

* `Stage`: where a subscription is in its life;
* `Account.next`: the life, happening by happening, of those journals in which
  no turn is missed and nothing is told that is not due;
* `fits_of_account`: what a journal says of the stage it has led to;
* `account_arrival`: the stage at which a subscription is when the hub takes its message.
-/

namespace PartyLine

namespace Channel

/-! ## Stages -/

/-- Where a subscription is in its life. -/
inductive Stage where
  | unknown
  /-- Its message waits in the hub's inbox. -/
  | awaited (released : Bool)
  | stored (s : Subscriber)
  /-- Stored, and its turn to be told a note is still to come. -/
  | due (s : Subscriber) (note : Note)
  /-- Its message was taken after the end, of which it is still to be told. -/
  | late (s : Subscriber) (t : Termination)
  /-- Its flag is cleared, and the last note is still to be told. -/
  | last (note : Note)
  | past

namespace Stage

/-- The stage after the flag is cleared at the end. -/
def lastly (s : Subscriber) (n : Note) : Stage := if s.wants n then last n else past

/-- The stage once a note goes round: a stored subscription is due to be told what
    it wants, and due to be told of the end in any case. -/
def goesRound (n : Note) : Stage → Stage
  | stored s => if n.isTerminal || s.wants n then due s n else stored s
  | stage => stage

/-- Whether something is still to be told before the hub can go on. -/
def isBusy : Stage → Bool
  | due .. | late .. | last _ => true
  | _ => false

/-- The stage after a release: one that comes before its turn is another's. -/
def release? (id : Nat) (caller : Option Nat) : Stage → Option Stage
  | awaited _ => some (awaited true)
  | stored _ | past => some past
  | due .. => if caller.any (· != id) then some past else none
  | _ => none

/-- The stage after the hub clears the flag: at the end only. -/
def dismiss? : Stage → Option Stage
  | due s n => if n.isTerminal then some (lastly s n) else none
  | late s t => some (lastly s t.note)
  | _ => none

/-- The stage after a note is told: only one that is due. -/
def tell? (n : Note) : Stage → Option Stage
  | due s m => if m = n ∧ n.isTerminal = false then some (stored s) else none
  | last m => if m = n then some past else none
  | _ => none

/-- The stage once the hub takes the message of the subscription. -/
def arrive? (s : Subscriber) (ended : Option Termination) : Stage → Option Stage
  | awaited released =>
      match ended with
      | some t => some (late s t)
      | none => some (if released then past else stored s)
  | _ => none

end Stage

/-- The account of a subscription: how the channel has ended, and its stage. -/
structure Account where
  ended : Option Termination := none
  stage : Stage := .unknown

namespace Account

/-- The account after the hub takes an event: there is none after the end. -/
def takeEvent? (a : Account) (e : ConnectionEvent) : Option Account :=
  match a.ended with
  | some _ => none
  | none => some { ended := e.end?, stage := e.note?.elim a.stage a.stage.goesRound }

/-- The account after the hub takes a message. -/
def take? (id : Nat) (a : Account) : Message → Option Account
  | .subscribe i s =>
      if i = id then (a.stage.arrive? s a.ended).map fun stage => { a with stage } else some a
  | .unsubscribe _ => some a
  | .event e => a.takeEvent? e

/-- The account of a subscription after one more happening; nothing if it does not
    go with the life of a subscription. -/
def next (id : Nat) (a : Account) : Happening → Option Account
  | .subscribed i _ =>
      if i = id then
        match a.stage with
        | .unknown => some { a with stage := .awaited false }
        | _ => none
      else some a
  | .released i caller =>
      if i = id then (a.stage.release? id caller).map fun stage => { a with stage } else some a
  | .sent _ => some a
  | .took m => if a.stage.isBusy then none else a.take? id m
  | .dismissed i => if i = id then a.stage.dismiss?.map fun stage => { a with stage } else some a
  | .told i n => if i = id then (a.stage.tell? n).map fun stage => { a with stage } else some a

/-- The hub goes on only when nothing is left to be told. -/
theorem next_took {id : Nat} {a b : Account} {m : Message} :
    a.next id (.took m) = some b ↔ a.stage.isBusy = false ∧ a.take? id m = some b := by
  simp [next]

end Account

/-- The account after some more happenings. -/
def Account.after? (id : Nat) (a : Account) (J : List Happening) : Option Account :=
  J.foldlM (Account.next id) a

/-- The account of a subscription in a journal. -/
def account (id : Nat) (J : List Happening) : Option Account := ({} : Account).after? id J

@[simp] theorem Account.after?_nil (id : Nat) (a : Account) : a.after? id [] = some a := rfl

@[simp] theorem Account.after?_cons (id : Nat) (a : Account) (x : Happening) (J : List Happening) :
    a.after? id (x :: J) = (a.next id x).bind (·.after? id J) := rfl

@[simp] theorem Account.after?_append (id : Nat) (a : Account) (J K : List Happening) :
    a.after? id (J ++ K) = (a.after? id J).bind (·.after? id K) :=
  List.foldlM_append

theorem account_append (id : Nat) (J K : List Happening) :
    account id (J ++ K) = (account id J).bind (·.after? id K) :=
  Account.after?_append id {} J K

/-! ## What the journal says of a stage -/

/-- What a journal has to say of a subscription at a stage. -/
inductive Stage.Fits (id : Nat) (J : List Happening) : Stage → Prop
  | unknown : (∀ s, (id, s) ∉ subscriptions J) → (∀ s, (id, s) ∉ arrivals J) →
      ¬Released id J → ¬Dismissed id J → toldTo id J = [] → Fits id J unknown
  | awaited {released : Bool} {s : Subscriber} : (id, s) ∈ subscriptions J →
      (∀ s, (id, s) ∉ arrivals J) → (released = true ↔ Released id J) → ¬Dismissed id J →
      toldTo id J = [] → Fits id J (awaited released)
  | stored {s : Subscriber} : (id, s) ∈ arrivals J → ¬Released id J → ¬Dismissed id J →
      ended J = none → Fits id J (stored s)
  /-- Due to be told of a frame. -/
  | due {s : Subscriber} {n : Note} : (id, s) ∈ arrivals J → ¬Released id J → ¬Dismissed id J →
      ended J = none → n.isTerminal = false → s.wants n → Fits id J (due s n)
  /-- Due to be told of the end. -/
  | ending {s : Subscriber} {t : Termination} : (id, s) ∈ arrivals J → ¬Released id J →
      ¬Dismissed id J → ended J = some t → Fits id J (due s t.note)
  | late {s : Subscriber} {t : Termination} : (id, s) ∈ arrivals J → ¬Dismissed id J →
      ended J = some t → Fits id J (late s t)
  | last {s : Subscriber} {t : Termination} : (id, s) ∈ arrivals J → Dismissed id J →
      ended J = some t → s.wants t.note → Fits id J (last t.note)
  /-- Over by its release. -/
  | released {s : Subscriber} : (id, s) ∈ arrivals J → Released id J → Fits id J past
  /-- Over by the end of the channel. -/
  | finished {s : Subscriber} {t : Termination} : (id, s) ∈ arrivals J → Dismissed id J →
      ended J = some t → (s.wants t.note → t.note ∈ toldTo id J) → Fits id J past

variable {id : Nat} {J : List Happening}

/-- Whether something that happens leaves a subscription alone. -/
def Happening.Spares (id : Nat) : Happening → Prop
  | subscribed i _ | released i _ | dismissed i | told i _ | took (.subscribe i _) => i ≠ id
  | sent _ | took _ => True

/-- What a journal says of a stage stays so while the subscription is left alone and the
    end stays the same. -/
theorem Stage.Fits.congr {x : Happening} {stage : Stage} (h : stage.Fits id J)
    (hend : ended (J ++ [x]) = ended J) (hx : x.Spares id) : stage.Fits id (J ++ [x]) := by
  -- each view that a stage speaks of, as far as this subscription is concerned
  have harr (s : Subscriber) : (id, s) ∈ arrivals (J ++ [x]) ↔ (id, s) ∈ arrivals J := by
    rcases x with _ | _ | _ | (_ | _ | _) | _ | _ <;> simp
    rintro rfl
    exact absurd rfl hx
  have hsub (s : Subscriber) :
      (id, s) ∈ subscriptions (J ++ [x]) ↔ (id, s) ∈ subscriptions J := by
    cases x <;> simp
    rintro rfl
    exact absurd rfl hx
  have hrel : Released id (J ++ [x]) ↔ Released id J := by
    cases x <;> simp
    rintro rfl
    exact absurd rfl hx
  have hdis : Dismissed id (J ++ [x]) ↔ Dismissed id J := by
    cases x <;> simp
    rintro rfl
    exact absurd rfl hx
  have htold : toldTo id (J ++ [x]) = toldTo id J := by
    cases x <;> simp
    exact hx
  cases h with
  | unknown h₁ h₂ h₃ h₄ h₅ =>
    exact .unknown (by simpa only [hsub]) (by simpa only [harr]) (by rwa [hrel]) (by rwa [hdis])
      (by rwa [htold])
  | awaited h₁ h₂ h₃ h₄ h₅ =>
    exact .awaited ((hsub _).2 h₁) (by simpa only [harr]) (by rwa [hrel]) (by rwa [hdis])
      (by rwa [htold])
  | stored h₁ h₂ h₃ h₄ =>
    exact .stored (by rwa [harr]) (by rwa [hrel]) (by rwa [hdis]) (by rwa [hend])
  | due h₁ h₂ h₃ h₄ h₅ h₆ =>
    exact .due (by rwa [harr]) (by rwa [hrel]) (by rwa [hdis]) (by rwa [hend]) h₅ h₆
  | ending h₁ h₂ h₃ h₄ =>
    exact .ending (by rwa [harr]) (by rwa [hrel]) (by rwa [hdis]) (by rwa [hend])
  | late h₁ h₂ h₃ => exact .late (by rwa [harr]) (by rwa [hdis]) (by rwa [hend])
  | last h₁ h₂ h₃ h₄ => exact .last (by rwa [harr]) (by rwa [hdis]) (by rwa [hend]) h₄
  | released h₁ h₂ => exact .released ((harr _).2 h₁) (hrel.2 h₂)
  | finished h₁ h₂ h₃ h₄ =>
    exact .finished ((harr _).2 h₁) (hdis.2 h₂) (hend ▸ h₃) (htold ▸ h₄)

/-- Subscribing under a new number. -/
theorem Stage.Fits.subscribe (h : Stage.unknown.Fits id J) (s : Subscriber) :
    (Stage.awaited false).Fits id (J ++ [.subscribed id s]) := by
  cases h with
  | unknown hsub harr hrel hdis htold =>
    exact .awaited (s := s) (by simp) (by simpa using harr) (by simpa using hrel)
      (by simpa using hdis) (by simpa using htold)

/-- Releasing a subscription goes with the journal. -/
theorem Stage.Fits.release {stage stage' : Stage} {caller : Option Nat} (h : stage.Fits id J)
    (hs : stage.release? id caller = some stage') :
    stage'.Fits id (J ++ [.released id caller]) := by
  cases h with
  | awaited hsub harr hrel hdis htold =>
    cases hs
    exact .awaited (by simpa using hsub) (by simpa using harr) (by simp) (by simpa using hdis)
      (by simpa using htold)
  | due harr | ending harr =>
    obtain ⟨-, hs⟩ := Option.ite_none_right_eq_some.1 hs
    cases hs
    exact .released (by simpa using harr) (by simp)
  | stored harr | released harr | finished harr =>
    cases hs
    exact .released (by simpa using harr) (by simp)
  | unknown | late | last => cases hs

/-- Taking the message of a subscription goes with the journal. -/
theorem Stage.Fits.arrive {stage stage' : Stage} {s : Subscriber} (h : stage.Fits id J)
    (hs : stage.arrive? s (ended J) = some stage') :
    stage'.Fits id (J ++ [.took (.subscribe id s)]) := by
  have hend : ended (J ++ [.took (.subscribe id s)]) = ended J := by simp
  cases h with
  | @awaited released _ hsub harr hrel hdis htold =>
    cases hJ : ended J with
    | some t =>
      simp only [hJ, arrive?, Option.some.injEq] at hs
      subst hs
      exact .late (by simp) (by simpa using hdis) (hend.trans hJ)
    | none =>
      simp only [hJ, arrive?, Option.some.injEq] at hs
      subst hs
      split
      · next hr => exact .released (s := s) (by simp) (by simpa using hrel.1 hr)
      · next hr =>
        exact .stored (by simp) (by simpa using fun h => hr (hrel.2 h)) (by simpa using hdis)
          (hend.trans hJ)
  | unknown | stored | due | ending | late | last | released | finished => cases hs

/-- Taking an event goes with the journal: what it makes the hub tell goes round. -/
theorem Stage.Fits.takeEvent {stage : Stage} (h : stage.Fits id J) (hbusy : stage.isBusy = false)
    (hnone : ended J = none) (e : ConnectionEvent) :
    (e.note?.elim stage stage.goesRound).Fits id (J ++ [.took (.event e)]) := by
  have hend : ended (J ++ [.took (.event e)]) = e.end? := by simp [hnone]
  -- what goes round concerns those who are stored
  have elim_eq {stage : Stage} (h : ∀ n, stage.goesRound n = stage) :
      e.note?.elim stage stage.goesRound = stage := by
    cases e.note? with
    | none => rfl
    | some n => exact h n
  cases h with
  | unknown h₁ h₂ h₃ h₄ h₅ =>
    rw [elim_eq fun _ => rfl]
    exact .unknown (by simpa using h₁) (by simpa using h₂) (by simpa using h₃)
      (by simpa using h₄) (by simpa using h₅)
  | awaited h₁ h₂ h₃ h₄ h₅ =>
    rw [elim_eq fun _ => rfl]
    exact .awaited (by simpa using h₁) (by simpa using h₂) (by simpa using h₃)
      (by simpa using h₄) (by simpa using h₅)
  | released h₁ h₂ =>
    rw [elim_eq fun _ => rfl]
    exact .released (by simpa using h₁) (by simpa using h₂)
  | @stored s harr hrel hdis =>
    replace harr : (id, s) ∈ arrivals (J ++ [.took (.event e)]) := by simpa using harr
    replace hrel : ¬Released id (J ++ [.took (.event e)]) := by simpa using hrel
    replace hdis : ¬Dismissed id (J ++ [.took (.event e)]) := by simpa using hdis
    cases e with
    | opened => exact .stored harr hrel hdis hend
    | frame f =>
      by_cases hw : s.wants (.ofFrame f)
      · simpa [ConnectionEvent.note?, goesRound, hw] using
          Fits.due harr hrel hdis hend (Note.isTerminal_ofFrame f) hw
      · simpa [ConnectionEvent.note?, goesRound, hw] using Fits.stored harr hrel hdis hend
    | failed e => exact .ending (t := .failed e) harr hrel hdis hend
    | closed => exact .ending (t := .completed) harr hrel hdis hend
  | finished _ _ hJ => simp [hnone] at hJ
  | due | ending | late | last => cases hbusy

/-- Clearing the flag at the end goes with the journal. -/
theorem Stage.Fits.dismiss {stage stage' : Stage} (h : stage.Fits id J)
    (hs : stage.dismiss? = some stage') : stage'.Fits id (J ++ [.dismissed id]) := by
  -- whoever does not want the last note is done with
  have lastly {s : Subscriber} {t : Termination} (harr : (id, s) ∈ arrivals J)
      (hend : ended J = some t) : (Stage.lastly s t.note).Fits id (J ++ [.dismissed id]) := by
    unfold Stage.lastly
    split
    · next hw => exact .last (by simpa using harr) (by simp) (by simpa using hend) hw
    · next hw =>
      exact .finished (by simpa using harr) (by simp) (by simpa using hend) (absurd · hw)
  cases h with
  | ending harr _ _ hend =>
    obtain ⟨-, hs⟩ := Option.ite_none_right_eq_some.1 hs
    cases hs
    exact lastly harr hend
  | late harr _ hend =>
    cases hs
    exact lastly harr hend
  | due _ _ _ _ hn => simp [dismiss?, hn] at hs
  | unknown | awaited | stored | last | released | finished => cases hs

/-- Telling a note goes with the journal. -/
theorem Stage.Fits.tell {stage stage' : Stage} {n : Note} (h : stage.Fits id J)
    (hs : stage.tell? n = some stage') : stage'.Fits id (J ++ [.told id n]) := by
  cases h with
  | due harr hrel hdis hend =>
    obtain ⟨-, hs⟩ := Option.ite_none_right_eq_some.1 hs
    cases hs
    exact .stored (by simpa using harr) (by simpa using hrel) (by simpa using hdis)
      (by simpa using hend)
  | last harr hdis hend =>
    obtain ⟨hn, hs⟩ := Option.ite_none_right_eq_some.1 hs
    cases hs
    exact .finished (by simpa using harr) (by simpa using hdis) (by simpa using hend)
      (by simp [hn])
  | ending =>
    obtain ⟨⟨rfl, hn⟩, -⟩ := Option.ite_none_right_eq_some.1 hs
    simp at hn
  | unknown | awaited | stored | late | released | finished => cases hs

/-- Taking a message goes with the journal. -/
theorem Stage.Fits.took {a b : Account} {m : Message} (he : a.ended = ended J)
    (hf : a.stage.Fits id J) (hbusy : a.stage.isBusy = false) (h : a.take? id m = some b) :
    b.ended = ended (J ++ [.took m]) ∧ b.stage.Fits id (J ++ [.took m]) := by
  cases m with
  | subscribe i s =>
    simp only [Account.take?] at h
    split at h
    · next hi =>
      subst hi
      obtain ⟨stage, hs, rfl⟩ := Option.map_eq_some_iff.1 h
      rw [he] at hs
      exact ⟨by simpa using he, hf.arrive hs⟩
    · next hi =>
      cases h
      exact ⟨by simpa using he, hf.congr (by simp) hi⟩
  | unsubscribe i =>
    cases h
    exact ⟨by simpa using he, hf.congr (by simp) trivial⟩
  | event e =>
    obtain ⟨end?, stage⟩ := a
    cases end? with
    | some t => cases h
    | none =>
      cases h
      have hnone : ended J = none := he.symm
      exact ⟨by simp [hnone], hf.takeEvent hbusy hnone e⟩

/-- The account goes with the journal. -/
theorem fits_next {a b : Account} {x : Happening}
    (he : a.ended = ended J) (hf : a.stage.Fits id J) (h : a.next id x = some b) :
    b.ended = ended (J ++ [x]) ∧ b.stage.Fits id (J ++ [x]) := by
  -- what happens to another subscription leaves the stage as it is; what happens to this one has
  -- a lemma of its own for each kind
  cases x with
  | subscribed i s =>
    obtain ⟨end?, stage⟩ := a
    simp only [Account.next] at h
    split at h
    · next hi =>
      subst hi
      cases stage with
      | unknown =>
        cases h
        exact ⟨by simpa using he, hf.subscribe s⟩
      | awaited | stored | due | late | last | past => cases h
    · next hi =>
      cases h
      exact ⟨by simpa using he, hf.congr (by simp) hi⟩
  | released i caller =>
    simp only [Account.next] at h
    split at h
    · next hi =>
      subst hi
      obtain ⟨stage, hs, rfl⟩ := Option.map_eq_some_iff.1 h
      exact ⟨by simpa using he, hf.release hs⟩
    · next hi =>
      cases h
      exact ⟨by simpa using he, hf.congr (by simp) hi⟩
  | sent e =>
    cases h
    exact ⟨by simpa using he, hf.congr (by simp) trivial⟩
  | took m =>
    obtain ⟨hbusy, h⟩ := Account.next_took.1 h
    exact hf.took he hbusy h
  | dismissed i =>
    simp only [Account.next] at h
    split at h
    · next hi =>
      subst hi
      obtain ⟨stage, hs, rfl⟩ := Option.map_eq_some_iff.1 h
      exact ⟨by simpa using he, hf.dismiss hs⟩
    · next hi =>
      cases h
      exact ⟨by simpa using he, hf.congr (by simp) hi⟩
  | told i n =>
    simp only [Account.next] at h
    split at h
    · next hi =>
      subst hi
      obtain ⟨stage, hs, rfl⟩ := Option.map_eq_some_iff.1 h
      exact ⟨by simpa using he, hf.tell hs⟩
    · next hi =>
      cases h
      exact ⟨by simpa using he, hf.congr (by simp) hi⟩

/-- What a journal says of the stage it has led to. -/
theorem fits_of_account {a : Account} (h : account id J = some a) :
    a.ended = ended J ∧ a.stage.Fits id J := by
  -- the journal grows at its end
  induction J using List.reverseRecOn generalizing a with
  | nil =>
    cases h
    exact ⟨rfl, .unknown nofun nofun nofun nofun rfl⟩
  | append_singleton J x ih =>
    rw [account_append] at h
    obtain ⟨b, hb, h⟩ := Option.bind_eq_some_iff.1 h
    obtain ⟨he, hf⟩ := ih hb
    exact fits_next he hf (by simpa using h)

/-- Nothing is told before the hub takes the message. -/
theorem toldTo_of_not_arrived {a : Account} (h : account id J = some a)
    (harr : ∀ s, (id, s) ∉ arrivals J) : toldTo id J = [] := by
  obtain ⟨-, hf⟩ := fits_of_account h
  generalize a.stage = stage at hf
  cases hf with
  | unknown _ _ _ _ htold | awaited _ _ _ _ htold => exact htold
  | stored h | due h | ending h | late h | last h | released h | finished h =>
    exact absurd h (harr _)

/-- The accounts before and after something that happens. -/
theorem account_split {J K : List Happening} {x : Happening} {b : Account}
    (h : account id (J ++ x :: K) = some b) : ∃ a a', account id J = some a ∧
      a.next id x = some a' ∧ a'.after? id K = some b := by
  rw [account_append] at h
  obtain ⟨a, ha, h⟩ := Option.bind_eq_some_iff.1 h
  obtain ⟨a', ha', h⟩ := Option.bind_eq_some_iff.1 (Account.after?_cons id a x K ▸ h)
  exact ⟨a, a', ha, ha', h⟩

/-- The hub takes the message of a subscription. It has been told nothing before. -/
theorem account_arrival {J K : List Happening} {s : Subscriber} {b : Account}
    (h : account id (J ++ .took (.subscribe id s) :: K) = some b) :
    toldTo id J = [] ∧ ∃ a : Account, a.after? id K = some b ∧
      (∀ t, ended J = some t → a.stage = .late s t) ∧
      (ended J = none → Released id J → a.stage = .past) ∧
      (ended J = none → ¬Released id J → a = { stage := .stored s }) := by
  obtain ⟨⟨end?, stage⟩, a', ha, hnext, h⟩ := account_split h
  obtain ⟨he, hfits⟩ := fits_of_account ha
  obtain rfl : end? = ended J := he
  obtain ⟨-, htake⟩ := Account.next_took.1 hnext
  simp only [Account.take?, if_pos, Option.map_eq_some_iff] at htake
  obtain ⟨stage', hs, rfl⟩ := htake
  cases hfits with
  | @awaited released _ hsub harr hrel hdis htold =>
    refine ⟨htold, _, h, fun t ht => ?_, fun hend hr => ?_, fun hend hr => ?_⟩
    · simp only [Stage.arrive?, ht, Option.some.injEq] at hs
      exact hs.symm
    · obtain rfl := hrel.2 hr
      simp only [Stage.arrive?, hend, if_pos, Option.some.injEq] at hs
      exact hs.symm
    · obtain rfl : released = false := by simpa using mt hrel.1 hr
      simp only [Stage.arrive?, hend, Bool.false_eq_true, if_false, Option.some.injEq] at hs
      rw [← hs, hend]
  | unknown | stored | due | ending | late | last | released | finished => cases hs

/-- Where an arrival is in a journal. -/
theorem exists_of_mem_arrivals {J : List Happening} {s : Subscriber} (h : (id, s) ∈ arrivals J) :
    ∃ mid late, J = mid ++ .took (.subscribe id s) :: late := by
  obtain ⟨x, hx, harr⟩ := List.mem_filterMap.1 h
  obtain ⟨mid, late, hJ⟩ := List.append_of_mem hx
  rcases x with _ | _ | _ | (_ | _ | _) | _ | _ <;> cases harr
  exact ⟨mid, late, hJ⟩

end Channel

end PartyLine
