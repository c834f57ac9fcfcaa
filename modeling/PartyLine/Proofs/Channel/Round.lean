import Mathlib.Data.List.Nodup
import PartyLine.Proofs.Channel.Sound

/-!
# Rounds

A note goes round: each stored subscriber in its turn is told of it, or passed
over if its flag is cleared or it does not want the note, and then does in return
what it likes. Rounds keep a channel sound, whatever that is.

A round goes by recursion over those who are due, and so do the proofs: the first of them has its
turn, and the moment after it has one fewer due. A turn is not always the same, as the flag may
have been cleared since the round began, by the callback of somebody before; then the turn is
passed over, and the account says that none was missed. What a callback asks for is done in the
middle of the round, as if a consumer had done it (`Sound.grants`).

* `Turn`: where a subscription is when its turn has come;
* `Sound.inTurn`: what happens in a turn, which is done thereby;
* `Sound.tellAll`, `Sound.finishAll`: the rounds of a frame and of the end.
-/

namespace PartyLine

namespace Channel

variable {t : Trace} {r : Round} {c : Channel} {e : Fanout.Entry} {es : List Fanout.Entry}

/-- A number arrives once at most. -/
theorem Sound.arrivals_inj (h : Sound t r c) {id : Nat} {s s' : Subscriber}
    (hs : (id, s) ∈ arrivals c.journal) (hs' : (id, s') ∈ arrivals c.journal) : s = s' := by
  have hnodup : ((arrivals c.journal).map (·.1)).Nodup := by
    have := h.subscriptions_nodup
    rw [h.subscribed, List.map_append] at this
    exact (List.nodup_append.1 this).1
  exact (Prod.ext_iff.1 (List.inj_on_of_nodup_map hnodup hs hs' rfl)).2

/-- What a channel holds of a subscription whose turn has come. -/
inductive Turn (r : Round) (c : Channel) (e : Fanout.Entry) : Stage → Prop
  | due : c.flag? e.id = some true → e ∈ r.fanout.entries →
      (r.note.isTerminal || e.subscriber.wants r.note) → Turn r c e (.due e.subscriber r.note)
  | stored {e' : Fanout.Entry} : c.flag? e.id = some true → e' ∈ r.fanout.entries →
      e'.id = e.id → e'.subscriber = e.subscriber →
      (r.note.isTerminal || e.subscriber.wants r.note) = false → Turn r c e (.stored e.subscriber)
  | past : c.flag? e.id = some false → Turn r c e .past

/-- Whoever is due is still due to be told, or is not concerned, or has been released. -/
theorem Sound.turn (h : Sound t r c) (he : e ∈ r.due) (hlatch : r.fanout.termination = none) :
    ∃ a, account e.id c.journal = some a ∧ Turn r c e a.stage := by
  obtain ⟨a, ha, hh⟩ := h.accounts e.id
  obtain ⟨-, hfits⟩ := fits_of_account ha
  obtain ⟨-, harrived⟩ := h.entries e (.inr he)
  refine ⟨a, ha, ?_⟩
  generalize a.stage = stage at hh hfits
  cases hh with
  | unknown => cases hfits with | unknown _ harr => exact absurd harrived (harr _)
  | awaited => cases hfits with | awaited _ harr => exact absurd harrived (harr _)
  | late _ _ _ ht => rw [hlatch] at ht; cases ht
  | past hflag => exact .past hflag
  | @stored e' hflag he' hid hwants =>
    have heq : e'.subscriber = e.subscriber := by
      cases hfits with
      | stored harr => exact h.arrivals_inj harr harrived
    rw [heq] at hwants ⊢
    exact .stored hflag he' hid heq (hwants ⟨e, he, rfl⟩)
  | @due e' hflag hstored hid he' =>
    obtain rfl : e' = e := List.inj_on_of_nodup_map h.due_nodup he' he hid
    refine .due hflag hstored ?_
    generalize r.note = n at hfits ⊢
    cases hfits with
    | due _ _ _ _ _ hw => simp [hw]
    | ending => simp

/-- Each subscription has one turn in a round. -/
theorem Sound.ne_of_mem_due (h : Sound t { r with due := e :: es } c) :
    ∀ e' ∈ es, e'.id ≠ e.id := by
  have hnodup := h.due_nodup
  simp only [List.map_cons, List.nodup_cons, List.mem_map, not_exists, not_and] at hnodup
  exact hnodup.1

/-- Something happens to a subscription in its turn, which is done thereby. -/
theorem Sound.inTurn (h : Sound t { r with due := e :: es } c) {c' : Channel}
    {xs : List Happening} (hc : Extends c e.id xs [] c') (hxs : ∀ x ∈ xs, x.IsAbout e.id)
    (haccount : ∀ a, account e.id c.journal = some a →
      ∃ a', a.after? e.id xs = some a' ∧ { r with due := es }.Holds c' e.id a'.stage)
    (hheard : ∀ l, c'.listener? e.id = some l →
      l.heard = toldTo e.id c.journal ++ toldTo e.id xs) : Sound t { r with due := es } c' := by
  refine h.happen hc hxs nofun (List.sublist_cons_self e es) (fun e' he' hid => ?_)
    (fun a ha _ => haccount a ha) hheard
  exact (List.mem_cons.1 he').resolve_left fun heq => hid (heq ▸ rfl)

/-- A subscription is passed over in its turn. -/
theorem Sound.skip (h : Sound t { r with due := e :: es } c) (hlatch : r.fanout.termination = none)
    (hskip : c.flag? e.id ≠ some true ∨ (r.note.isTerminal || e.subscriber.wants r.note) = false) :
    Sound t { r with due := es } c := by
  refine h.inTurn (.refl c e.id) nofun (fun a ha => ⟨a, rfl, ?_⟩)
    fun l hl => by simpa using h.heard e.id l hl
  obtain ⟨a', ha', hturn⟩ := h.turn List.mem_cons_self hlatch
  obtain rfl : a' = a := Option.some.inj (ha'.symm.trans ha)
  generalize a'.stage = stage at hturn
  cases hturn with
  | due hflag _ hwants =>
    rcases hskip with hskip | hskip
    · exact absurd hflag hskip
    · exact absurd hwants (by simp [hskip])
  | stored hflag he' hid heq hwants =>
    -- it stays stored, not being concerned by the note
    rw [← heq]
    exact .stored hflag he' hid fun _ => heq ▸ hwants
  | past hflag => exact .past hflag

/-- A subscription is told what a frame says in its turn. -/
theorem Sound.hear (h : Sound t { r with due := e :: es } c) (hlatch : r.fanout.termination = none)
    (hn : r.note.isTerminal = false) (hflag : c.flag? e.id = some true)
    (hw : e.subscriber.wants r.note) : Sound t { r with due := es } (c.hear e.id r.note) := by
  refine h.inTurn (extends_hear c e.id r.note) (by simp [Happening.IsAbout])
    (fun a ha => ?_) fun l hl => ?_
  · obtain ⟨a', ha', hturn⟩ := h.turn List.mem_cons_self hlatch
    obtain rfl : a' = a := Option.some.inj (ha'.symm.trans ha)
    obtain ⟨end?, stage⟩ := a'
    cases hturn with
    | due _ he' _ =>
      refine ⟨{ ended := end?, stage := .stored e.subscriber },
        by simp [Account.next, Stage.tell?, hn], .stored (by simpa using hflag) he' rfl ?_⟩
      rintro ⟨e', hmem, hid⟩
      exact absurd hid (h.ne_of_mem_due e' hmem)
    | stored _ _ _ _ hwants => simp [hw] at hwants
    | past hover => rw [hflag] at hover; cases hover
  · rw [listener?_hear, if_pos rfl] at hl
    obtain ⟨l', hl', rfl⟩ := Option.map_eq_some_iff.1 hl
    simp [h.heard e.id l' hl']

/-- A subscription is told of the end in its turn: its flag is cleared first. -/
theorem Sound.last (h : Sound t { r with due := e :: es } c) {a : Account} {t' : Termination}
    (ha : account e.id c.journal = some a) (hflag : (c.flag? e.id).isSome)
    (hstage : a.stage = .due e.subscriber t'.note ∨ a.stage = .late e.subscriber t') :
    Sound t { r with due := es } (if e.subscriber.wants t'.note then
      (c.dismiss e.id).hear e.id t'.note else c.dismiss e.id) := by
  have hdismiss : a.stage.dismiss? = some (.lastly e.subscriber t'.note) := by
    rcases hstage with hstage | hstage <;> simp [hstage, Stage.dismiss?]
  have hcleared : (c.dismiss e.id).flag? e.id = some false := by
    rw [flag?_dismiss_self]
    obtain ⟨b, hb⟩ := Option.isSome_iff_exists.1 hflag
    rw [hb]
    rfl
  obtain ⟨end?, stage⟩ := a
  split
  · next hw =>
    refine h.inTurn ((extends_dismiss c e.id).trans (extends_hear _ e.id t'.note))
      (by simp [Happening.IsAbout]) (fun a' ha' => ?_) fun l hl => ?_
    · obtain rfl : _ = a' := Option.some.inj (ha.symm.trans ha')
      refine ⟨{ ended := end?, stage := .past }, ?_, .past (by simpa using hcleared)⟩
      simp [Account.next, hdismiss, Stage.lastly, hw, Stage.tell?]
    · rw [listener?_hear, if_pos rfl, listener?_dismiss, if_pos rfl] at hl
      obtain ⟨l', hl', rfl⟩ := Option.map_eq_some_iff.1 hl
      obtain ⟨l'', hl'', rfl⟩ := Option.map_eq_some_iff.1 hl'
      simp [h.heard e.id l'' hl'']
  · next hw =>
    refine h.inTurn (extends_dismiss c e.id) (by simp [Happening.IsAbout])
      (fun a' ha' => ?_) fun l hl => ?_
    · obtain rfl : _ = a' := Option.some.inj (ha.symm.trans ha')
      refine ⟨{ ended := end?, stage := .past }, ?_, .past (by simpa using hcleared)⟩
      simp [Account.next, hdismiss, Stage.lastly, hw]
    · rw [listener?_dismiss, if_pos rfl] at hl
      obtain ⟨l', hl', rfl⟩ := Option.map_eq_some_iff.1 hl
      simp [h.heard e.id l' hl']

/-! ## Whole rounds -/

/-- What a subscriber asks for after a callback is done. -/
theorem Sound.grants (h : Sound t r c) {id : Nat} (hcaller : r.Admits (some id))
    (qs : List Request) : Sound t r (qs.foldl (fun c q => c.grant id q) c) := by
  induction qs generalizing c with
  | nil => exact h
  | cons q qs ih => exact ih (h.grant hcaller q)

/-- A subscriber that has had its turn may call while the others are still to have
    theirs. -/
theorem Sound.admits (h : Sound t { r with due := e :: es } c)
    (hlatch : r.fanout.termination = none) : { r with due := es }.Admits (some e.id) := by
  intro e' he'
  exact ⟨hlatch, by simpa using Ne.symm (h.ne_of_mem_due e' he')⟩

/-- A subscription is told of the end and asks in return for what it likes. -/
theorem Sound.finish (h : Sound t { r with due := e :: es } c) {a : Account} {t' : Termination}
    (ha : account e.id c.journal = some a) (hflag : (c.flag? e.id).isSome)
    (hstage : a.stage = .due e.subscriber t'.note ∨ a.stage = .late e.subscriber t')
    (hcaller : { r with due := es }.Admits (some e.id)) :
    Sound t { r with due := es } (host.tell e.id e.subscriber t'.note (c.dismiss e.id)) := by
  have hlast := h.last ha hflag hstage
  unfold Host.tell
  split
  · next hw =>
    rw [if_pos hw] at hlast
    exact hlast.grants hcaller _
  · next hw =>
    rw [if_neg hw] at hlast
    exact hlast

/-- The round of a frame: all that are due are told, or passed over. -/
theorem Sound.tellAll (hlatch : r.fanout.termination = none) (hn : r.note.isTerminal = false)
    (h : Sound t { r with due := es } c) :
    Sound t { r with due := [] } (Fanout.tellAll host r.note es c).2 := by
  induction es generalizing c with
  | nil => exact h
  | cons e es ih =>
    have hlistener := (h.entries e (.inr List.mem_cons_self)).1
    simp only [Fanout.tellAll, hlistener]
    split
    · next hactive =>
      refine ih ?_
      unfold Host.tell
      split
      · next hw =>
        exact (h.hear hlatch hn ((isActive_iff c e.id).1 hactive) hw).grants (h.admits hlatch) _
      · next hw => exact h.skip hlatch (.inr (by simpa [hn] using hw))
    · next hactive => exact ih (h.skip hlatch (.inl (mt (isActive_iff c e.id).2 hactive)))

/-- The round of the end: all that are due are told of it, or passed over. -/
theorem Sound.finishAll {t' : Termination} (hlatch : r.fanout.termination = none)
    (hn : r.note = t'.note) (h : Sound t { r with due := es } c) :
    Sound t { r with due := [] } (Fanout.finishAll host t' es c).2 := by
  induction es generalizing c with
  | nil => exact h
  | cons e es ih =>
    have hlistener := (h.entries e (.inr List.mem_cons_self)).1
    simp only [Fanout.finishAll, hlistener]
    split
    · next hactive =>
      have hflag := (isActive_iff c e.id).1 hactive
      obtain ⟨a, ha, hturn⟩ := h.turn List.mem_cons_self hlatch
      -- everyone is due to be told of the end, whether it wants the note or not
      have hstage : a.stage = .due e.subscriber t'.note := by
        generalize a.stage = stage at hturn
        cases hturn with
        | due => simp [hn]
        | stored _ _ _ _ hwants => simp [hn] at hwants
        | past hover => rw [hflag] at hover; cases hover
      exact ih (h.finish ha (by simp [hflag]) (.inl hstage) (h.admits hlatch))
    · next hactive => exact ih (h.skip hlatch (.inl (mt (isActive_iff c e.id).2 hactive)))

end Channel

end PartyLine
