import Mathlib.Data.List.Nodup
import PartyLine.Proofs.Fanout.Window

/-!
# What each subscriber hears of a run

Runs of a set do what the windows of its subscribers say: every subscriber has heard its
transcript, and every move answers what is expected of it. What is stored and whose flag is set
is compared with the windows move by move. A move is taken in two parts: what it makes of the set,
and what it makes of the audience, where those who are present have turns of their own.

Windows are read off the moves alone, and sets are stored states, so the invariant says how the two
go together (`Upheld`): stored are those whose window nobody has taken them out of, present are
those who are stored with their flags set, latched is the first end among the moves, and each
listener has heard the transcript of its window. A move that inserts nobody changes the
windows that it closes and the transcripts of those who are present; one that inserts adds a
window that begins with it, and leaves all others as they are. The order in which a round goes
through the set has no part in any of this, and may be another one at each move.

* `Fanout.Admissible`: the moves that the windows speak of;
* `Fanout.Upheld`: a set and its audience as the windows have them;
* `Fanout.Heard`: what a move does to an audience, `Upheld.heard_round` for one with a round;
* `Upheld.next`, `Upheld.insert`: a move that inserts nobody, and one that does;
* `Fanout.ran_as_specified`: all runs.
-/

namespace PartyLine

/-- What a listener makes of a note that it is told. -/
theorem Audience.getElem?_tell_self {a : Audience} {i : Nat} {l : Listener} (hl : a[i]? = some l)
    (s : Subscriber) (n : Note) : (host.tell i s n a)[i]? =
      some (if s.wants n then
        { active := l.active && !s.leaves (l.heard ++ [n]), heard := l.heard ++ [n] }
      else l) := by
  unfold Host.tell
  split
  · simp [host, hear, update, hl, Subscriber.leaves]
  · exact hl

namespace Fanout

/-! ## Moves and what they come to -/

/-- Moves as the specification has them: every number and every listener is used once, and a
    subscriber is inserted with its flag set, having heard nothing. -/
structure Admissible (a₀ : Audience) (moves : List Move) : Prop where
  ids : ((inserted moves).map (·.id)).Nodup
  listeners : ((inserted moves).map (·.listener)).Nodup
  active : ∀ e ∈ inserted moves, a₀[e.listener]? = some {} ∧ .clear e.listener ∉ e.before moves

section Run

variable {a₀ a a' : Audience} {f f' : Fanout} {moves : List Move} {answers : List Answer} {m : Move}
  {x : Answer} {e : Entry}

theorem Admissible.init (h : Admissible a₀ (moves ++ [m])) : Admissible a₀ moves := by
  obtain ⟨hids, hlisteners, hactive⟩ := h
  rw [inserted_append_singleton, List.map_append, List.nodup_append] at hids hlisteners
  refine ⟨hids.1, hlisteners.1, fun e he => ?_⟩
  rw [← Entry.before_append he [m]]
  refine hactive e ?_
  rw [inserted_append_singleton]
  exact List.mem_append_left _ he

/-- What is known of an entry that is inserted last. -/
theorem Admissible.last (h : Admissible a₀ (moves ++ [.call (.insert e)])) :
    e.id ∉ (inserted moves).map (·.id) ∧ e.listener ∉ (inserted moves).map (·.listener) ∧
      a₀[e.listener]? = some {} ∧ .clear e.listener ∉ moves := by
  obtain ⟨hids, hlisteners, hactive⟩ := h
  have hlast : inserted (moves ++ [.call (.insert e)]) = inserted moves ++ [e] :=
    inserted_append_singleton moves _
  rw [hlast, List.map_append, List.nodup_append] at hids hlisteners
  have hid : e.id ∉ (inserted moves).map (·.id) := fun hid =>
    hids.2.2 _ hid _ (List.mem_singleton_self _) rfl
  have hlistener : e.listener ∉ (inserted moves).map (·.listener) := fun hlistener =>
    hlisteners.2.2 _ hlistener _ (List.mem_singleton_self _) rfl
  obtain ⟨hfresh, hclear⟩ := hactive e (by rw [hlast]; exact List.mem_append_right _ (.head _))
  rw [Entry.before_insert hid] at hclear
  exact ⟨hid, hlistener, hfresh, hclear⟩

/-- A set and its audience are as the specification has them. -/
structure Upheld (a₀ : Audience) (moves : List Move) (f : Fanout) (a : Audience) : Prop where
  set : Stored moves f
  stored : ∀ e, e ∈ f.entries ↔ e ∈ inserted moves ∧ e.isStored moves
  termination : f.termination = endOf? moves
  emptied : f.Emptied
  present : ∀ e ∈ inserted moves, e.isPresent moves ↔ e ∈ f.entries ∧ a.isActive e.listener
  heard : ∀ e ∈ inserted moves, (a[e.listener]?).map (·.heard) = some (e.transcript moves)
  fresh : ∀ i, i ∉ (inserted moves).map (·.listener) → .clear i ∉ moves → a[i]? = a₀[i]?

/-- What a move does to an audience that inserts nobody: those present hear of it and are there
    still or not, the others hear nothing. -/
structure Heard (moves : List Move) (m : Move) (a a' : Audience) : Prop where
  heard : ∀ e ∈ inserted moves, e.isPresent moves →
    (a'[e.listener]?).map (·.heard) = some (e.transcript moves ++ e.heardOf m)
  active : ∀ e ∈ inserted moves, e.isPresent moves → e.takenOutBy m = false →
    a'.isActive e.listener = e.isPresent (moves ++ [m])
  absent : ∀ e ∈ inserted moves, e.isPresent moves = false →
    (a'[e.listener]?).map (·.heard) = (a[e.listener]?).map (·.heard) ∧
      (a'.isActive e.listener → a.isActive e.listener)
  others : ∀ i, i ∉ (inserted moves).map (·.listener) → m ≠ .clear i → a'[i]? = a[i]?

theorem Upheld.perm (hu : Upheld a₀ moves f a) {entries : List Entry}
    (hperm : entries.Perm f.entries) : Upheld a₀ moves { f with entries } a where
  set := hu.set.perm hperm
  stored e := hperm.mem_iff.trans (hu.stored e)
  termination := hu.termination
  emptied hlatch := List.Perm.eq_nil (hu.emptied hlatch ▸ hperm)
  present e he := (hu.present e he).trans (and_congr_left fun _ => hperm.mem_iff.symm)
  heard := hu.heard
  fresh := hu.fresh

/-- Whoever is present has its flag set, and has heard what it should. -/
theorem Upheld.getElem? (hu : Upheld a₀ moves f a) (he : e ∈ inserted moves)
    (h : e.isPresent moves) :
    a[e.listener]? = some { active := true, heard := e.transcript moves } := by
  have hactive := ((hu.present e he).1 h).2
  obtain ⟨⟨active, heard⟩, hl, rfl⟩ := Option.map_eq_some_iff.1 (hu.heard e he)
  have hactive : active = true := by simpa [Audience.isActive, hl] using hactive
  rw [hl, hactive]

/-- Nobody is present in an ended set. -/
theorem Upheld.isPresent_of_ended (hu : Upheld a₀ moves f a) (hended : f.termination.isSome)
    (he : e ∈ inserted moves) : e.isPresent moves = false := by
  rw [Bool.eq_false_iff]
  intro h
  have hmem := ((hu.present e he).1 h).1
  rw [hu.emptied hended] at hmem
  cases hmem

/-- A move that inserts nobody. -/
theorem Upheld.next (hu : Upheld a₀ moves f a) (hm : m.entry? = none)
    (hentries : f'.entries = f.entries.filter (!·.takenOutBy m))
    (hend : f'.termination = f.termination.or m.end?) (hemptied : f'.Emptied)
    (ha : Heard moves m a a') : Upheld a₀ (moves ++ [m]) f' a' := by
  have hinserted : inserted (moves ++ [m]) = inserted moves := by
    simp [inserted_append_singleton, hm]
  have hmem (e : Entry) : e ∈ f'.entries ↔ e ∈ f.entries ∧ e.takenOutBy m = false := by
    simp [hentries]
  refine ⟨hu.set.sublist (hentries ▸ List.filter_sublist) m, fun e => ?_, ?_, hemptied,
    fun e he => ?_, fun e he => ?_, fun i hi hclear => ?_⟩
  · rw [hmem, hu.stored, hinserted, and_assoc]
    refine and_congr_right fun he => ?_
    simp [Entry.isStored_append_singleton he]
  · rw [hend, hu.termination, endOf?_append_singleton]
  · -- whoever is not present has left or is gone for good
    rw [hinserted] at he
    rw [hmem]
    cases h : e.isPresent moves with
    | true =>
      have hstored := ((hu.present e he).1 h).1
      cases htaken : e.takenOutBy m with
      | true => simp [Entry.isPresent_append_singleton he h, Entry.closedBy, htaken]
      | false => simp [hstored, ha.active e he h htaken]
    | false =>
      rw [(Entry.of_not_isPresent he h m).2]
      refine iff_of_false Bool.false_ne_true ?_
      rintro ⟨⟨hstored, -⟩, hactive⟩
      have hactive := (ha.absent e he h).2 hactive
      exact Bool.false_ne_true (h.symm.trans ((hu.present e he).2 ⟨hstored, hactive⟩))
  · rw [hinserted] at he
    cases h : e.isPresent moves with
    | true => rw [ha.heard e he h, Entry.transcript_of_isPresent he h]
    | false => rw [(ha.absent e he h).1, hu.heard e he, (Entry.of_not_isPresent he h m).1]
  · rw [hinserted] at hi
    rw [List.mem_append, not_or] at hclear
    have hne : m ≠ .clear i := fun heq => hclear.2 (heq ▸ List.mem_singleton_self _)
    rw [ha.others i hi hne, hu.fresh i hi hclear.1]

/-- A move that tells nothing and leaves the flags alone. -/
theorem Upheld.heard_of_silent (hu : Upheld a₀ moves f a) (hm : m.note? = none)
    (hclears : ∀ i, m.clears i = false) : Heard moves m a a where
  heard e he h := by
    rw [hu.heard e he]
    simp [Entry.heardOf, hm]
  active e he h htaken := by
    have hopen : e.closedBy m = false := by simp [Entry.closedBy, htaken, hclears]
    rw [(Entry.of_silent he hm hopen).2, h, ((hu.present e he).1 h).2]
  absent _ _ _ := ⟨rfl, id⟩
  others _ _ _ := rfl

/-- Whatever is told to an ended set. -/
theorem Upheld.heard_of_ended (hu : Upheld a₀ moves f a) (hended : f.termination.isSome) :
    Heard moves m a a where
  heard e he h := by simp [hu.isPresent_of_ended hended he] at h
  active e he h := by simp [hu.isPresent_of_ended hended he] at h
  absent _ _ _ := ⟨rfl, id⟩
  others _ _ _ := rfl

/-- A flag is cleared. -/
theorem Upheld.heard_clear (hu : Upheld a₀ moves f a) (i : Nat) :
    Heard moves (.clear i) a (Audience.host.deactivate i a) := by
  have hself : (Audience.host.deactivate i a).isActive i = false := by
    cases hl : a[i]? <;>
      simp [Audience.isActive, Audience.host, Audience.setActive, Audience.update, hl]
  have hheard (j : Nat) : ((Audience.host.deactivate i a)[j]?).map (·.heard) =
      (a[j]?).map (·.heard) := by
    by_cases hj : i = j
    · cases hl : a[j]? <;>
        simp [Audience.host, Audience.setActive, Audience.update, hj, hl]
    · rw [Audience.apart.deactivate_of_ne (Ne.symm hj)]
  refine ⟨fun e he _ => ?_, fun e he h _ => ?_, fun e he h => ⟨hheard _, fun hactive => ?_⟩,
    fun j hj hne => ?_⟩
  · rw [hheard, hu.heard e he]
    simp [Entry.heardOf, Move.note?]
  · rw [Entry.isPresent_append_singleton he h]
    by_cases hi : e.listener = i
    · simp [hi, hself, Entry.closedBy, Move.clears]
    · obtain ⟨-, -, hstays⟩ := Entry.isPresent_iff.1 h
      have hkept : (Audience.host.deactivate i a).isActive e.listener = a.isActive e.listener :=
        Audience.apart.isActive (Audience.apart.deactivate_of_ne hi)
      rw [hkept, ((hu.present e he).1 h).2, Entry.transcript_eq_offered h]
      simp [Entry.closedBy, Entry.takenOutBy, Move.clears, Entry.heardOf, Move.note?, hstays,
        Ne.symm hi]
  · by_cases hi : e.listener = i
    · rw [hi, hself] at hactive
      cases hactive
    · have hkept : (Audience.host.deactivate i a).isActive e.listener = a.isActive e.listener :=
        Audience.apart.isActive (Audience.apart.deactivate_of_ne hi)
      exact hkept ▸ hactive
  · exact Audience.apart.deactivate_of_ne fun h => hne (h ▸ rfl)

/-- A round in which all who are present have a turn, which tells them what the move tells. -/
theorem Upheld.heard_round (hu : Upheld a₀ moves f a)
    (hlisteners : ((inserted moves).map (·.listener)).Nodup) {turn : Entry → Audience → Audience}
    (hturn : Private (fun (a : Audience) i => a[i]?) turn)
    (hown : ∀ e ∈ inserted moves, e.isPresent moves → ∃ active,
      (turn e a)[e.listener]? = some { active, heard := e.transcript moves ++ e.heardOf m } ∧
        (e.takenOutBy m = false → active = e.isPresent (moves ++ [m]))) :
    Heard moves m a (round Audience.host turn f.entries a).2 := by
  have hpresent {e : Entry} (he : e ∈ inserted moves) (h : e.isPresent moves) :
      (round Audience.host turn f.entries a).2[e.listener]? = (turn e a)[e.listener]? := by
    obtain ⟨hstored, hactive⟩ := (hu.present e he).1 h
    exact (part_round_of_mem Audience.apart hturn hu.set.listeners hstored).trans (if_pos hactive)
  have hother {i : Nat} (hi : i ∉ f.entries.map (·.listener)) :
      (round Audience.host turn f.entries a).2[i]? = a[i]? := part_round_of_notMem hturn hi
  refine ⟨fun e he h => ?_, fun e he h htaken => ?_, fun e he h => ?_, fun i hi _ => ?_⟩
  · obtain ⟨active, hl, -⟩ := hown e he h
    rw [hpresent he h, hl]
    rfl
  · obtain ⟨active, hl, hactive⟩ := hown e he h
    rw [← hactive htaken, Audience.isActive, hpresent he h, hl]
    rfl
  · have hsame : (round Audience.host turn f.entries a).2[e.listener]? = a[e.listener]? := by
      by_cases hmem : e.listener ∈ f.entries.map (·.listener)
      · obtain ⟨e', he', heq⟩ := List.mem_map.1 hmem
        obtain rfl := List.inj_on_of_nodup_map hlisteners (hu.set.known e' he') he heq
        have hactive : ¬Audience.host.isActive a e'.listener := fun hactive =>
          Bool.false_ne_true (h.symm.trans ((hu.present e' he).2 ⟨he', hactive⟩))
        rw [part_round_of_mem Audience.apart hturn hu.set.listeners he', if_neg hactive]
      · exact hother hmem
    exact ⟨by rw [hsame], fun hactive => by rwa [Audience.isActive, ← hsame]⟩
  · refine hother fun hmem => hi ?_
    obtain ⟨e, he, rfl⟩ := List.mem_map.1 hmem
    exact List.mem_map_of_mem (hu.set.known e he)

/-- A message or a report reaches all who are present. -/
theorem Upheld.heard_tellAll (hu : Upheld a₀ moves f a)
    (hlisteners : ((inserted moves).map (·.listener)).Nodup) {n : Note} (hnote : m.note? = some n)
    (hopen : ∀ e : Entry, e.closedBy m = false) :
    Heard moves m a (tellAll Audience.host n f.entries a).2 := by
  rw [tellAll_eq_round]
  refine hu.heard_round hlisteners (private_tell Audience.apart n) fun e he h => ?_
  rw [Audience.getElem?_tell_self (hu.getElem? he h), Entry.isPresent_append_singleton he h, hopen]
  obtain ⟨-, -, hstays⟩ := Entry.isPresent_iff.1 h
  rw [Entry.heardOf, hnote, Option.toList_some, List.filter_singleton]
  rw [← Entry.transcript_eq_offered h] at hstays
  cases hwants : e.subscriber.wants n with
  | true => exact ⟨_, rfl, fun _ => by simp [Subscriber.stays_append_singleton, hstays]⟩
  | false => exact ⟨true, by simp, fun _ => by simp [hstays]⟩

/-- After the end it reaches nobody. -/
theorem Upheld.heard_told (hu : Upheld a₀ moves f a)
    (hlisteners : ((inserted moves).map (·.listener)).Nodup) {n : Note} (hnote : m.note? = some n)
    (hopen : ∀ e : Entry, e.closedBy m = false) : Heard moves m a
      (if f.termination.isSome then (0, a) else tellAll Audience.host n f.entries a).2 := by
  split
  · next hended => exact hu.heard_of_ended hended
  · exact hu.heard_tellAll hlisteners hnote hopen

/-- The end reaches all who are present. -/
theorem Upheld.heard_finishAll (hu : Upheld a₀ moves f a)
    (hlisteners : ((inserted moves).map (·.listener)).Nodup) (t : Termination) :
    Heard moves (.call (.terminate t)) a (finishAll Audience.host t f.entries a).2 := by
  rw [finishAll_eq_round]
  refine hu.heard_round hlisteners (private_finish Audience.apart t) fun e he h => ?_
  have hdeactivated : (Audience.host.deactivate e.listener a)[e.listener]? =
      some { active := false, heard := e.transcript moves } := by
    simp [Audience.host, Audience.setActive, Audience.update, hu.getElem? he h]
  rw [Audience.getElem?_tell_self hdeactivated, Entry.heardOf, Move.note?, Option.toList_some,
    List.filter_singleton]
  cases hwants : e.subscriber.wants t.note with
  | true => exact ⟨_, rfl, by simp [Entry.takenOutBy]⟩
  | false => exact ⟨false, by simp, by simp [Entry.takenOutBy]⟩

/-- An entry that is inserted last, and stored unless the set has ended. -/
theorem Upheld.grow (hu : Upheld a₀ moves f a)
    (hmoves : Admissible a₀ (moves ++ [.call (.insert e)]))
    (hset : Stored (moves ++ [.call (.insert e)]) f')
    (hentries : ∀ x, x ∈ f'.entries ↔ x ∈ f.entries ∨ x = e ∧ (endOf? moves).isNone)
    (hend : f'.termination = f.termination) (hemptied : f'.Emptied)
    (hothers : ∀ i, i ≠ e.listener → a'[i]? = a[i]?)
    (hself : a'[e.listener]? = some {
      active := (endOf? moves).isNone
      heard := (endOf? moves).elim [] fun t => [t.note].filter e.subscriber.wants }) :
    Upheld a₀ (moves ++ [.call (.insert e)]) f' a' := by
  obtain ⟨hid, hlistener, -, -⟩ := hmoves.last
  have hinserted : inserted (moves ++ [.call (.insert e)]) = inserted moves ++ [e] :=
    inserted_append_singleton moves _
  have hopen (x : Entry) : x.closedBy (.call (.insert e)) = false := rfl
  have hne {x : Entry} (hx : x ∈ inserted moves) : x ≠ e := by
    rintro rfl
    exact hid (List.mem_map_of_mem hx)
  have hother {x : Entry} (hx : x ∈ inserted moves) : a'[x.listener]? = a[x.listener]? :=
    hothers _ fun heq => hlistener (heq ▸ List.mem_map_of_mem hx)
  -- for those before the move is silent, and for the new one its window begins with it
  refine ⟨hset, fun x => ?_, ?_, hemptied, fun x hx => ?_, fun x hx => ?_, fun i hi hclear => ?_⟩
  · rw [hentries, hu.stored, hinserted, List.mem_append, List.mem_singleton, or_and_right]
    refine or_congr (and_congr_right fun hx => ?_) (and_congr_right ?_)
    · simp [Entry.isStored_append_singleton hx, Entry.takenOutBy]
    · rintro rfl
      rw [Entry.isStored_insert hid]
  · rw [hend, hu.termination, endOf?_append_singleton]
    exact (Option.or_none).symm
  · rw [hinserted, List.mem_append, List.mem_singleton] at hx
    rcases hx with hx | rfl
    · rw [(Entry.of_silent hx rfl (hopen x)).2, hu.present x hx, hentries, Audience.isActive,
        Audience.isActive, hother hx]
      simp [hne hx]
    · have hnew : x ∉ f.entries := fun h => hne (hu.set.known x h) rfl
      rw [Entry.isPresent_insert hid, hentries, Audience.isActive, hself]
      simp [hnew]
  · rw [hinserted, List.mem_append, List.mem_singleton] at hx
    rcases hx with hx | rfl
    · rw [hother hx, hu.heard x hx, (Entry.of_silent hx rfl (hopen x)).1]
    · rw [hself, Entry.transcript_insert hid]
      rfl
  · rw [hinserted, List.map_append, List.mem_append, not_or] at hi
    rw [List.mem_append, not_or] at hclear
    have hi' : i ≠ e.listener := by simpa using hi.2
    rw [hothers i hi', hu.fresh i hi.1 hclear.1]

/-- Whoever is inserted has its flag set, having heard nothing. -/
theorem Upheld.getElem?_new (hu : Upheld a₀ moves f a)
    (hmoves : Admissible a₀ (moves ++ [.call (.insert e)])) : a[e.listener]? = some {} := by
  obtain ⟨-, hlistener, hfresh, hclear⟩ := hmoves.last
  rw [hu.fresh _ hlistener hclear, hfresh]

theorem Upheld.insert (hu : Upheld a₀ moves f a)
    (hmoves : Admissible a₀ (moves ++ [.call (.insert e)])) :
    Upheld a₀ (moves ++ [.call (.insert e)]) (f.insert Audience.host e a).2.1
      (f.insert Audience.host e a).2.2 := by
  have hnew := hu.getElem?_new hmoves
  obtain ⟨hid, hlistener, -, -⟩ := hmoves.last
  unfold Fanout.insert
  cases ht : f.termination with
  | none =>
    have hactive : Audience.host.isActive a e.listener := by
      simp [Audience.host, Audience.isActive, hnew]
    have hend : endOf? moves = none := hu.termination.symm.trans ht
    -- its number is new, so that storing puts it behind the others
    have hstore : f.store e = { f with entries := f.entries ++ [e] } := by
      refine if_neg fun hcontains => ?_
      obtain ⟨x, hx, heq⟩ := List.mem_map.1 ((contains_iff f e.id).1 hcontains)
      exact hid (heq ▸ List.mem_map_of_mem (hu.set.known x hx))
    dsimp only
    rw [if_pos hactive]
    refine hu.grow hmoves (hu.set.store fun x hx heq => ?_) (fun x => ?_)
      (termination_store f e) ?_ (fun _ _ => rfl) ?_
    · exact hlistener (heq ▸ List.mem_map_of_mem hx)
    · simp [hstore, hend]
    · simp [Emptied, ht]
    · rw [hnew, hend]
      rfl
  | some t =>
    have hend : endOf? moves = some t := hu.termination.symm.trans ht
    -- its flag is cleared before it is told of the end
    have hdeactivated : (Audience.host.deactivate e.listener a)[e.listener]? =
        some { active := false } := by
      simp [Audience.host, Audience.setActive, Audience.update, hnew]
    refine hu.grow hmoves (hu.set.sublist (.refl _) _) (fun x => ?_) rfl hu.emptied
      (fun i hi => (private_finish Audience.apart t).other e hi) ?_
    · simp [hend]
    · dsimp only
      rw [Audience.getElem?_tell_self hdeactivated, hend]
      cases hwants : e.subscriber.wants t.note <;> simp [hwants]

/-! ## Answers -/

/-- Those who have a turn in a round are those who are present. -/
theorem Upheld.fst_round (hu : Upheld a₀ moves f a)
    (hids : ((inserted moves).map (·.id)).Nodup) {turn : Entry → Audience → Audience}
    (hturn : Private (fun (a : Audience) i => a[i]?) turn) :
    (round Audience.host turn f.entries a).1 = (inserted moves).countP (·.isPresent moves) := by
  rw [round_fst Audience.apart hturn hu.set.listeners, List.countP_eq_length_filter,
    List.countP_eq_length_filter]
  refine List.Perm.length_eq ((List.perm_ext_iff_of_nodup ?_ ?_).2 fun e => ?_)
  · exact (hu.set.ids.of_map _).filter _
  · exact (hids.of_map _).filter _
  · rw [List.mem_filter, List.mem_filter]
    constructor
    · rintro ⟨hstored, hactive⟩
      have he := hu.set.known e hstored
      exact ⟨he, (hu.present e he).2 ⟨hstored, hactive⟩⟩
    · rintro ⟨he, h⟩
      exact (hu.present e he).1 h

/-- Nobody has one once the set has ended. -/
theorem Upheld.countP_of_ended (hu : Upheld a₀ moves f a) (hended : f.termination.isSome) :
    (inserted moves).countP (·.isPresent moves) = 0 :=
  List.countP_eq_zero.2 fun _ he => by simp [hu.isPresent_of_ended hended he]

theorem Upheld.fst_told (hu : Upheld a₀ moves f a) (hids : ((inserted moves).map (·.id)).Nodup)
    (n : Note) :
    (if f.termination.isSome then (0, a) else tellAll Audience.host n f.entries a).1 =
      (inserted moves).countP (·.isPresent moves) := by
  split
  · next hended => exact (hu.countP_of_ended hended).symm
  · rw [tellAll_eq_round]
    exact hu.fst_round hids (private_tell Audience.apart n)

/-- A call answers what it should. -/
theorem Upheld.answer_eq (hu : Upheld a₀ moves f a) {c : Call}
    (hmoves : Admissible a₀ (moves ++ [.call c])) :
    answer Audience.host f a c = expected moves (.call c) := by
  have hids := hmoves.init.ids
  cases c with
  | insert e =>
    have hactive : Audience.host.isActive a e.listener := by
      simp [Audience.host, Audience.isActive, hu.getElem?_new hmoves]
    rw [answer, expected, Fanout.insert, ← hu.termination]
    cases f.termination with
    | none => simp [hactive]
    | some t => rfl
  | remove id =>
    refine congrArg Answer.removed ?_
    rw [Bool.eq_iff_iff, List.any_eq_true]
    constructor
    · intro hcontains
      obtain ⟨e, he, rfl⟩ := List.mem_map.1 ((contains_iff f id).1 hcontains)
      obtain ⟨hknown, hstored⟩ := (hu.stored e).1 he
      exact ⟨e, hknown, by simp [hstored]⟩
    · rintro ⟨e, he, h⟩
      obtain ⟨hid, hstored⟩ : e.id = id ∧ e.isStored moves := by simpa using h
      exact (contains_iff f id).2 (List.mem_map.2 ⟨e, (hu.stored e).2 ⟨he, hstored⟩, hid⟩)
  | deliver e | report e => exact congrArg Answer.reached (hu.fst_told hids _)
  | terminate t =>
    refine congrArg Answer.reached ?_
    unfold Fanout.terminate
    split
    · next hended => exact (hu.countP_of_ended hended).symm
    · rw [finishAll_eq_round]
      exact hu.fst_round hids (private_finish Audience.apart t)

/-! ## Every run -/

theorem Upheld.perform (hu : Upheld a₀ moves f a) {c : Call}
    (hmoves : Admissible a₀ (moves ++ [.call c])) :
    Upheld a₀ (moves ++ [.call c]) (f.perform Audience.host a c).1
      (f.perform Audience.host a c).2 := by
  have hlisteners := hmoves.init.listeners
  have hall : f.entries = f.entries.filter fun _ => true :=
    (List.filter_eq_self.2 fun _ _ => rfl).symm
  have hend : f.termination = f.termination.or none := Option.or_none.symm
  cases c with
  | insert e => exact hu.insert hmoves
  | remove id =>
    exact hu.next rfl rfl hend (hu.emptied.remove id) (hu.heard_of_silent rfl fun _ => rfl)
  | deliver e | report e =>
    exact hu.next rfl hall hend hu.emptied (hu.heard_told hlisteners rfl fun _ => rfl)
  | terminate t =>
    simp only [Fanout.perform, Fanout.terminate]
    split
    · next hended =>
      obtain ⟨t', ht⟩ := Option.isSome_iff_exists.1 hended
      refine hu.next rfl ?_ (by simp [ht]) hu.emptied (hu.heard_of_ended hended)
      rw [hu.emptied hended]
      rfl
    · next hended =>
      have ht : f.termination = none := by simpa using hended
      refine hu.next rfl ?_ (by simp [ht, Move.end?]) (fun _ => rfl)
        (hu.heard_finishAll hlisteners t)
      exact (List.filter_eq_nil_iff.2 fun _ _ => by simp [Entry.takenOutBy]).symm

/-- A move answers and does what the specification says, in whatever order it meets those who
    are stored. -/
theorem Upheld.step (hu : Upheld a₀ moves f a) (hmoves : Admissible a₀ (moves ++ [m]))
    (hs : Step Audience.host f a m x f' a') :
    x = expected moves m ∧ Upheld a₀ (moves ++ [m]) f' a' := by
  cases hs with
  | clear i =>
    refine ⟨rfl, hu.next rfl ?_ Option.or_none.symm hu.emptied (hu.heard_clear i)⟩
    exact (List.filter_eq_self.2 fun _ _ => rfl).symm
  | call c hperm =>
    have hu := hu.perm hperm
    exact ⟨hu.answer_eq hmoves, hu.perform hmoves⟩

theorem Ran.upheld (hr : Ran Audience.host a₀ moves answers f a) (hmoves : Admissible a₀ moves) :
    Upheld a₀ moves f a ∧ answers.length = moves.length ∧
      ∀ i m, moves[i]? = some m → answers[i]? = some (expected (moves.take i) m) := by
  induction hr with
  | new =>
    refine ⟨⟨⟨.nil, .nil, by simp⟩, by simp [inserted], rfl, fun h => ?_, by simp [inserted],
      by simp [inserted], fun _ _ _ => rfl⟩, rfl, by simp⟩
    cases h
  | @step moves answers f f' a a' m x hr hs ih =>
    obtain ⟨hu, hlength, hanswers⟩ := ih hmoves.init
    obtain ⟨rfl, hu'⟩ := hu.step hmoves hs
    refine ⟨hu', by simp [hlength], fun i m' hm' => ?_⟩
    rcases Nat.lt_or_ge i moves.length with hlt | hge
    · rw [List.getElem?_append_left hlt] at hm'
      rw [List.getElem?_append_left (hlength ▸ hlt), List.take_append_of_le_length hlt.le,
        hanswers i m' hm']
    · -- the last move
      obtain rfl : i = moves.length := by
        have hlast := (List.getElem?_eq_some_iff.1 hm').1
        rw [List.length_append, List.length_singleton] at hlast
        omega
      obtain rfl : m = m' := by simpa using hm'
      simp [← hlength]

/-- A run of a new set in which numbers and listeners are used once and subscribers are inserted
    with their flags set, whatever the orders in which its calls meet those who are stored. Every
    subscriber has heard its transcript; every move has answered what is expected after those
    before it; the first end is latched; stored are those whom nothing has taken out, and the
    flags of these are set whose windows are open and who have not left. -/
theorem ran_as_specified (hmoves : Admissible a₀ moves)
    (hr : Ran Audience.host a₀ moves answers f a) :
    (∀ e ∈ inserted moves, (a[e.listener]?).map (·.heard) = some (e.transcript moves)) ∧
      answers.length = moves.length ∧
      (∀ i m, moves[i]? = some m → answers[i]? = some (expected (moves.take i) m)) ∧
      f.termination = endOf? moves ∧
      (∀ e, e ∈ f.entries ↔ e ∈ inserted moves ∧ e.isStored moves) ∧
      ∀ e ∈ inserted moves, e.isPresent moves ↔ e ∈ f.entries ∧ a.isActive e.listener := by
  obtain ⟨hu, hlength, hanswers⟩ := hr.upheld hmoves
  exact ⟨hu.heard, hlength, hanswers, hu.termination, hu.stored, hu.present⟩

end Run

/-- One leaves on a message of which another wants none, and a third comes after the end. -/
theorem ran_as_specified_late : ∃ (moves : List Move) (answers : List Answer) (f : Fanout)
    (a : Audience), Admissible [{}, {}, {}] moves ∧
      Ran Audience.host [{}, {}, {}] moves answers f a ∧
      answers = [.stored true, .stored true, .reached 2, .removed true, .reached 1,
        .stored false] ∧
      (∀ e ∈ inserted moves, (a[e.listener]?).map (·.heard) = some (e.transcript moves)) ∧
      answers.length = moves.length ∧
      (∀ i m, moves[i]? = some m → answers[i]? = some (expected (moves.take i) m)) ∧
      f.termination = endOf? moves ∧
      (∀ e, e ∈ f.entries ↔ e ∈ inserted moves ∧ e.isStored moves) ∧
      ∀ e ∈ inserted moves, e.isPresent moves ↔ e ∈ f.entries ∧ a.isActive e.listener := by
  let leaver : Subscriber := { respond := fun _ => [.leave] }
  let moves : List Move := [.call (.insert ⟨1, 0, leaver⟩),
    .call (.insert ⟨2, 1, { kind := some "news" }⟩), .call (.deliver { kind := "chat" }),
    .call (.remove 1), .call (.terminate .completed), .call (.insert ⟨3, 2, {}⟩)]
  have hmoves : Admissible [{}, {}, {}] moves := by
    refine ⟨by decide, by decide, fun e he => ?_⟩
    have hclear : .clear e.listener ∉ moves := by simp [moves]
    refine ⟨?_, fun h => hclear ((List.takeWhile_prefix _).subset h)⟩
    have he : e ∈ [⟨1, 0, leaver⟩, ⟨2, 1, { kind := some "news" }⟩, ⟨3, 2, {}⟩] := he
    simp only [List.mem_cons, List.not_mem_nil, or_false] at he
    rcases he with rfl | rfl | rfl <;> rfl
  have empty : Ran Audience.host [{}, {}, {}] [] [] {} [{}, {}, {}] := .new
  have hr := ((((((empty.step (.call (.insert ⟨1, 0, leaver⟩) (.refl _))).step
    (.call (.insert ⟨2, 1, { kind := some "news" }⟩) (.refl _))).step
    (.call (.deliver { kind := "chat" }) (.swap _ _ []))).step
    (.call (.remove 1) (.refl _))).step (.call (.terminate .completed) (.refl _))).step
    (.call (.insert ⟨3, 2, {}⟩) (.refl _)))
  exact ⟨moves, _, _, _, hmoves, hr, by decide, ran_as_specified hmoves hr⟩

end Fanout

end PartyLine
