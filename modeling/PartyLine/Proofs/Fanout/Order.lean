import Mathlib.Data.List.Basic
import PartyLine.Proofs.Fanout.Round

/-!
# Rounds in any order

The stored subscribers have no order of their own: a call goes through them in any order, and
the next one in another. This makes no difference if the listeners are *apart*, each with a part
of the host's world to itself, which holds its flag and all that its callbacks touch. For then a
round does to a listener what its own turn does, and that depends on nothing that has happened
to the others.

A host need not be an audience. What is asked of its world is that it can be seen part by part,
that a turn at one listener changes the part of that listener by a function of the part, and
that it leaves all other parts (`Host.Apart`). Then a round is told part by part, without an order
(`part_round_of_mem`), and its answer is the number of those whose flags were set
(`round_fst`). Two runs with the same moves, each with orders of its own at every call, are kept in
one relation: the same entries in some order, the same end, and the same parts for all
listeners. Every call keeps it, and answers alike.

* `Fanout.Step`, `Fanout.Ran`: runs of a set, each call with an order of its own;
* `Host.Apart`: listeners that are apart, as those of an audience are (`Audience.apart`);
* `part_round_of_mem`, `round_fst`: a round, listener by listener;
* `order_irrelevant`: runs with the same moves answer the same and come to the same.
-/

namespace PartyLine

/-- Each listener has a part of the world to itself: its flag is read off that part, which its own
    turns change by what is there, and nobody else's. -/
structure Host.Apart {σ τ : Type} (h : Host σ) (part : σ → Nat → τ) : Prop where
  isActive {w w' : σ} {i : Nat} : part w i = part w' i → h.isActive w i = h.isActive w' i
  deactivate {w w' : σ} {i : Nat} : part w i = part w' i →
    part (h.deactivate i w) i = part (h.deactivate i w') i
  deactivate_of_ne {w : σ} {i j : Nat} : i ≠ j → part (h.deactivate j w) i = part w i
  notify {w w' : σ} {i : Nat} (s : Subscriber) (n : Note) : part w i = part w' i →
    part (h.notify i s n w) i = part (h.notify i s n w') i
  notify_of_ne {w : σ} {i j : Nat} (s : Subscriber) (n : Note) : i ≠ j →
    part (h.notify j s n w) i = part w i

/-- The listeners of an audience are apart. -/
theorem Audience.apart : host.Apart fun (a : Audience) i => a[i]? where
  isActive hw := by simp only [host, isActive, hw]
  deactivate hw := by simp [host, setActive, update, hw]
  deactivate_of_ne hij := getElem?_update_of_ne _ (Ne.symm hij)
  notify s n hw := by simp [host, hear, update, hw]
  notify_of_ne s n hij := getElem?_update_of_ne _ (Ne.symm hij)

namespace Fanout

/-! ## Runs -/

/-- Something that is done to a set, or meanwhile to the flag of a listener. -/
inductive Move where
  | call (c : Call)
  /-- A flag is cleared from outside. -/
  | clear (listener : Nat)

/-- What comes back from a move. -/
inductive Answer where
  /-- Whether the subscriber was stored. -/
  | stored (b : Bool)
  /-- Whether there was one to remove. -/
  | removed (b : Bool)
  /-- How many subscribers were reached. -/
  | reached (n : Nat)
  | nothing
  deriving DecidableEq

variable {σ τ : Type} (h : Host σ)

/-- What a call answers. -/
def answer (f : Fanout) (world : σ) : Call → Answer
  | .insert e => .stored (f.insert h e world).1
  | .remove id => .removed (f.remove id).1
  | .deliver e => .reached (f.deliver h e world).1
  | .report e => .reached (f.report h e world).1
  | .terminate t => .reached (f.terminate h t world).1

/-- The set and its host after a move. A call meets the stored subscribers in any order. -/
inductive Step (f : Fanout) (w : σ) : Move → Answer → Fanout → σ → Prop
  | call {entries : List Entry} (c : Call) : entries.Perm f.entries →
      Step f w (.call c) (answer h { f with entries } w c) (perform h { f with entries } w c).1
        (perform h { f with entries } w c).2
  | clear (i : Nat) : Step f w (.clear i) .nothing f (h.deactivate i w)

/-- The runs of a new set, with what their moves have answered. -/
inductive Ran (w₀ : σ) : List Move → List Answer → Fanout → σ → Prop
  | new : Ran w₀ [] [] {} w₀
  | step {moves : List Move} {answers : List Answer} {f f' : Fanout} {w w' : σ} {m : Move}
      {x : Answer} : Ran w₀ moves answers f w → Step h f w m x f' w' →
      Ran w₀ (moves ++ [m]) (answers ++ [x]) f' w'

/-- The entry that a move inserts. -/
def Move.entry? : Move → Option Entry
  | call (.insert e) => some e
  | _ => none

/-- The entries that some moves insert. -/
def inserted (moves : List Move) : List Entry := moves.filterMap Move.entry?

theorem inserted_append_singleton (moves : List Move) (m : Move) :
    inserted (moves ++ [m]) = inserted moves ++ m.entry?.toList := by
  rw [inserted, List.filterMap_append]
  cases h : m.entry? <;> simp [inserted, h]

variable {h} {f f' : Fanout} {w w' w₀ : σ} {moves : List Move} {answers : List Answer} {m : Move}
  {x : Answer}

/-- The last move of a run. -/
theorem Ran.exists_step (hr : Ran h w₀ (moves ++ [m]) answers f w) :
    ∃ answers' x f' w', answers = answers' ++ [x] ∧ Ran h w₀ moves answers' f' w' ∧
      Step h f' w' m x f w := by
  generalize hms : moves ++ [m] = ms at hr
  cases hr with
  | new => simp at hms
  | step hr hs =>
    obtain ⟨rfl, hm⟩ := List.append_inj' hms rfl
    obtain rfl := List.singleton_inj.1 hm
    exact ⟨_, _, _, _, rfl, hr, hs⟩

/-! ## What is stored -/

/-- Who has another number is left in by the removal of a number. -/
theorem filter_of_notMem {id : Nat} {es : List Entry} (h : id ∉ es.map (·.id)) :
    es.filter (·.id != id) = es := by
  refine List.filter_eq_self.2 fun e he => ?_
  have hne : e.id ≠ id := fun heq => h (heq ▸ List.mem_map_of_mem he)
  simpa using hne

theorem contains_iff (f : Fanout) (id : Nat) : f.contains id ↔ id ∈ f.entries.map (·.id) := by
  simp [contains]

/-- What is put in the place of an entry is put in front of the others, but for the order. -/
theorem replace_perm (e : Entry) {es : List Entry} (hids : (es.map (·.id)).Nodup)
    (he : e.id ∈ es.map (·.id)) :
    (es.map fun old => if old.id == e.id then e else old).Perm (e :: es.filter (·.id != e.id)) := by
  induction es with
  | nil => cases he
  | cons x es ih =>
    obtain ⟨hx, hids⟩ := List.nodup_cons.1 hids
    by_cases heq : x.id = e.id
    · -- it is the only one with this number
      have hx : e.id ∉ es.map (·.id) := heq ▸ hx
      have hrest : (es.map fun old => if old.id == e.id then e else old) = es := by
        refine (List.map_congr_left fun old hold => ?_).trans (List.map_id es)
        have hne : old.id ≠ e.id := fun h => hx (h ▸ List.mem_map_of_mem hold)
        simp [hne]
      rw [List.map_cons, hrest, List.filter_cons, if_pos (by simpa using heq),
        if_neg (by simpa using heq), filter_of_notMem hx]
    · have he : e.id ∈ es.map (·.id) := (List.mem_cons.1 he).resolve_left (Ne.symm heq)
      rw [List.map_cons, List.filter_cons, if_neg (by simpa using heq),
        if_pos (by simpa using heq)]
      exact ((ih hids he).cons x).trans (.swap e x _)

/-- Storing is putting in the place of whoever has the number. -/
theorem store_perm (hids : (f.entries.map (·.id)).Nodup) (e : Entry) :
    (f.store e).entries.Perm (e :: f.entries.filter (·.id != e.id)) := by
  unfold store
  split
  · next hcontains => exact replace_perm e hids ((contains_iff f e.id).1 hcontains)
  · next hcontains =>
    rw [contains_iff] at hcontains
    rw [filter_of_notMem hcontains]
    exact List.perm_append_singleton e f.entries

/-- The stored subscribers have different numbers and different listeners, and were inserted. -/
structure Stored (moves : List Move) (f : Fanout) : Prop where
  ids : (f.entries.map (·.id)).Nodup
  listeners : (f.entries.map (·.listener)).Nodup
  known : ∀ e ∈ f.entries, e ∈ inserted moves

theorem Stored.perm (hs : Stored moves f) {entries : List Entry} (hperm : entries.Perm f.entries) :
    Stored moves { f with entries } where
  ids := (hperm.map _).nodup_iff.2 hs.ids
  listeners := (hperm.map _).nodup_iff.2 hs.listeners
  known e he := hs.known e (hperm.mem_iff.1 he)

/-- Whoever stays is stored as before. -/
theorem Stored.sublist (hs : Stored moves f) {entries : List Entry}
    {termination : Option Termination} (hsub : entries.Sublist f.entries) (m : Move) :
    Stored (moves ++ [m]) { entries, termination } where
  ids := hs.ids.sublist (hsub.map _)
  listeners := hs.listeners.sublist (hsub.map _)
  known e he := by
    rw [inserted_append_singleton]
    exact List.mem_append_left _ (hs.known e (hsub.subset he))

/-- Storing an entry whose listener is new. -/
theorem Stored.store (hs : Stored moves f) {e : Entry}
    (hnew : ∀ e' ∈ inserted moves, e'.listener ≠ e.listener) :
    Stored (moves ++ [.call (.insert e)]) (f.store e) := by
  have hperm := store_perm hs.ids e
  have hsub : (f.entries.filter (·.id != e.id)).Sublist f.entries := List.filter_sublist
  refine ⟨(hperm.map _).nodup_iff.2 ?_, (hperm.map _).nodup_iff.2 ?_, fun e' he' => ?_⟩
  · refine List.nodup_cons.2 ⟨fun hid => ?_, hs.ids.sublist (hsub.map _)⟩
    obtain ⟨e', he', hid⟩ := List.mem_map.1 hid
    have hne : e'.id ≠ e.id := by simpa using (List.mem_filter.1 he').2
    exact hne hid
  · refine List.nodup_cons.2 ⟨fun hlistener => ?_, hs.listeners.sublist (hsub.map _)⟩
    obtain ⟨e', he', hlistener⟩ := List.mem_map.1 hlistener
    exact hnew e' (hs.known e' (hsub.subset he')) hlistener
  · rw [inserted_append_singleton]
    rcases List.mem_cons.1 (hperm.mem_iff.1 he') with rfl | he'
    · exact List.mem_append_right _ (List.mem_singleton_self _)
    · exact List.mem_append_left _ (hs.known e' (hsub.subset he'))

theorem Stored.step (hs : Stored moves f)
    (hnew : ((inserted (moves ++ [m])).map (·.listener)).Nodup) (hstep : Step h f w m x f' w') :
    Stored (moves ++ [m]) f' := by
  cases hstep with
  | clear => exact hs.sublist (.refl _) _
  | @call entries c hperm =>
    have hs := hs.perm hperm
    cases c with
    | remove id => exact hs.sublist List.filter_sublist _
    | deliver | report => exact hs.sublist (.refl _) _
    | terminate t =>
      simp only [perform, Fanout.terminate]
      split
      · exact hs.sublist (.refl _) _
      · exact hs.sublist (List.nil_sublist _) _
    | insert e =>
      simp only [perform, Fanout.insert]
      split
      · exact hs.sublist (.refl _) _
      · split
        · refine hs.store fun e' he' heq => ?_
          rw [inserted_append_singleton, List.map_append, List.nodup_append] at hnew
          exact hnew.2.2 _ (List.mem_map_of_mem he') _ (by simp [Move.entry?]) heq
        · exact hs.sublist (.refl _) _

/-- So it is in all runs in which every subscriber has a listener of its own. -/
theorem Ran.stored (hr : Ran h w₀ moves answers f w)
    (hlisteners : ((inserted moves).map (·.listener)).Nodup) : Stored moves f := by
  induction hr with
  | new => exact ⟨List.nodup_nil, List.nodup_nil, by simp⟩
  | @step moves answers f f' w w' m x hr hstep ih =>
    refine (ih ?_).step hlisteners hstep
    rw [inserted_append_singleton, List.map_append, List.nodup_append] at hlisteners
    exact hlisteners.1

/-! ## Rounds -/

/-- The turns of a round in which everyone keeps to its own part. -/
structure Private (part : σ → Nat → τ) (turn : Entry → σ → σ) : Prop where
  own (e : Entry) {w w' : σ} : part w e.listener = part w' e.listener →
    part (turn e w) e.listener = part (turn e w') e.listener
  other (e : Entry) {w : σ} {i : Nat} : i ≠ e.listener → part (turn e w) i = part w i

section Rounds

variable {part : σ → Nat → τ} {turn : Entry → σ → σ} {es es' : List Entry}

theorem tell_own (hapart : h.Apart part) (s : Subscriber) (n : Note) {i : Nat}
    (hw : part w i = part w' i) : part (h.tell i s n w) i = part (h.tell i s n w') i := by
  unfold Host.tell
  split
  · exact hapart.notify s n hw
  · exact hw

theorem tell_other (hapart : h.Apart part) (s : Subscriber) (n : Note) {i j : Nat} (hij : i ≠ j) :
    part (h.tell j s n w) i = part w i := by
  unfold Host.tell
  split
  · exact hapart.notify_of_ne s n hij
  · rfl

theorem private_tell (hapart : h.Apart part) (n : Note) :
    Private part fun e => h.tell e.listener e.subscriber n where
  own e _ _ hw := tell_own hapart e.subscriber n hw
  other e _ _ hi := tell_other hapart e.subscriber n hi

theorem private_finish (hapart : h.Apart part) (t : Termination) : Private part fun e w =>
    h.tell e.listener e.subscriber t.note (h.deactivate e.listener w) where
  own e _ _ hw := tell_own hapart e.subscriber t.note (hapart.deactivate hw)
  other e _ _ hi :=
    (tell_other hapart e.subscriber t.note hi).trans (hapart.deactivate_of_ne hi)

/-- Whoever has no turn keeps its part. -/
theorem part_round_of_notMem (hturn : Private part turn) {i : Nat}
    (hi : i ∉ es.map (·.listener)) : part (round h turn es w).2 i = part w i := by
  induction es generalizing w with
  | nil => rfl
  | cons e es ih =>
    obtain ⟨hne, hi⟩ : i ≠ e.listener ∧ i ∉ es.map (·.listener) := by
      simpa [not_or] using hi
    rw [round]
    split
    · exact (ih hi).trans (hturn.other e hne)
    · exact ih hi

/-- What a round does to a listener is what its own turn does. -/
theorem part_round_of_mem (hapart : h.Apart part) (hturn : Private part turn)
    (hlisteners : (es.map (·.listener)).Nodup) {e : Entry} (he : e ∈ es) :
    part (round h turn es w).2 e.listener =
      if h.isActive w e.listener then part (turn e w) e.listener else part w e.listener := by
  induction es generalizing w with
  | nil => cases he
  | cons x es ih =>
    obtain ⟨hx, hlisteners⟩ : x.listener ∉ es.map (·.listener) ∧ (es.map (·.listener)).Nodup :=
      List.nodup_cons.1 hlisteners
    rcases List.mem_cons.1 he with rfl | he
    · -- its turn is the first, and the others leave it alone
      rw [round]
      split
      · exact part_round_of_notMem hturn hx
      · exact part_round_of_notMem hturn hx
    · have hne : e.listener ≠ x.listener := fun heq => hx (heq ▸ List.mem_map_of_mem he)
      rw [round]
      split
      · have hpart : part (turn x w) e.listener = part w e.listener := hturn.other x hne
        rw [ih hlisteners he, hapart.isActive hpart, hpart, hturn.own e hpart]
      · exact ih hlisteners he

/-- Those are counted whose flags are set when the round starts. -/
theorem round_fst (hapart : h.Apart part) (hturn : Private part turn)
    (hlisteners : (es.map (·.listener)).Nodup) :
    (round h turn es w).1 = es.countP fun e => h.isActive w e.listener := by
  induction es generalizing w with
  | nil => rfl
  | cons x es ih =>
    obtain ⟨hx, hlisteners⟩ : x.listener ∉ es.map (·.listener) ∧ (es.map (·.listener)).Nodup :=
      List.nodup_cons.1 hlisteners
    have hrest : (es.countP fun e => h.isActive (turn x w) e.listener) =
        es.countP fun e => h.isActive w e.listener := by
      refine List.countP_congr fun e he => ?_
      have hne : e.listener ≠ x.listener := fun heq => hx (heq ▸ List.mem_map_of_mem he)
      rw [hapart.isActive (hturn.other x hne)]
    rw [round, List.countP_cons]
    split
    · rw [← hrest, ← ih hlisteners]
    · exact ih hlisteners

/-- Two rounds of the same entries from worlds with the same parts, each in its own order. -/
theorem round_perm (hapart : h.Apart part) (hturn : Private part turn)
    (hlisteners : (es.map (·.listener)).Nodup) (hperm : es.Perm es')
    (hw : ∀ i, part w i = part w' i) :
    (round h turn es w).1 = (round h turn es' w').1 ∧
      ∀ i, part (round h turn es w).2 i = part (round h turn es' w').2 i := by
  have hlisteners' : (es'.map (·.listener)).Nodup := (hperm.map _).nodup_iff.1 hlisteners
  refine ⟨?_, fun i => ?_⟩
  · rw [round_fst hapart hturn hlisteners, round_fst hapart hturn hlisteners', hperm.countP_eq]
    exact List.countP_congr fun e _ => by rw [hapart.isActive (hw e.listener)]
  · by_cases hi : i ∈ es.map (·.listener)
    · obtain ⟨e, he, rfl⟩ := List.mem_map.1 hi
      rw [part_round_of_mem hapart hturn hlisteners he,
        part_round_of_mem hapart hturn hlisteners' (hperm.mem_iff.1 he),
        hapart.isActive (hw e.listener), hw, hturn.own e (hw e.listener)]
    · have hi' : i ∉ es'.map (·.listener) := fun h => hi ((hperm.map _).mem_iff.2 h)
      rw [part_round_of_notMem hturn hi, part_round_of_notMem hturn hi', hw]

end Rounds

/-! ## Two runs -/

/-- Two sets with their hosts are the same but for the order of the stored subscribers. -/
structure Agree (part : σ → Nat → τ) (f f' : Fanout) (w w' : σ) : Prop where
  entries : f.entries.Perm f'.entries
  termination : f.termination = f'.termination
  part : ∀ i, part w i = part w' i

variable {part : σ → Nat → τ} {f₁ f₁' : Fanout} {w₁ w₁' : σ} {x' : Answer}

theorem Agree.perm (ha : Agree part f f' w w') {entries entries' : List Entry}
    (hperm : entries.Perm f.entries) (hperm' : entries'.Perm f'.entries) :
    Agree part { f with entries } { f' with entries := entries' } w w' :=
  ⟨hperm.trans (ha.entries.trans hperm'.symm), ha.termination, ha.part⟩

/-- Removing and storing come to the same. -/
theorem Agree.remove (ha : Agree part f f' w w') (id : Nat) :
    Agree part (f.remove id).2 (f'.remove id).2 w w' :=
  ⟨ha.entries.filter _, ha.termination, ha.part⟩

theorem Agree.store (ha : Agree part f f' w w') (hids : (f.entries.map (·.id)).Nodup) (e : Entry) :
    Agree part (f.store e) (f'.store e) w w' where
  entries := by
    have hids' : (f'.entries.map (·.id)).Nodup := (ha.entries.map _).nodup_iff.1 hids
    exact (store_perm hids e).trans
      (((ha.entries.filter _).cons e).trans (store_perm hids' e).symm)
  termination := by rw [termination_store, termination_store, ha.termination]
  part := ha.part

theorem Agree.contains (ha : Agree part f f' w w') (id : Nat) : f.contains id = f'.contains id := by
  rw [Bool.eq_iff_iff, contains_iff, contains_iff, (ha.entries.map _).mem_iff]

/-- Telling a note to all answers and does the same. -/
theorem Agree.tellAll (hapart : h.Apart part) (ha : Agree part f f' w w')
    (hlisteners : (f.entries.map (·.listener)).Nodup) (n : Note) :
    let p := if f.termination.isSome then (0, w) else Fanout.tellAll h n f.entries w
    let p' := if f'.termination.isSome then (0, w') else Fanout.tellAll h n f'.entries w'
    p.1 = p'.1 ∧ Agree part f f' p.2 p'.2 := by
  intro p p'
  simp only [p, p', ← ha.termination]
  split
  · exact ⟨rfl, ha⟩
  · obtain ⟨hcount, hpart⟩ :=
      round_perm hapart (private_tell hapart n) hlisteners ha.entries ha.part
    rw [tellAll_eq_round, tellAll_eq_round]
    exact ⟨hcount, ha.entries, ha.termination, hpart⟩

theorem Agree.terminate (hapart : h.Apart part) (ha : Agree part f f' w w')
    (hlisteners : (f.entries.map (·.listener)).Nodup) (t : Termination) :
    (f.terminate h t w).1 = (f'.terminate h t w').1 ∧
      Agree part (f.terminate h t w).2.1 (f'.terminate h t w').2.1 (f.terminate h t w).2.2
        (f'.terminate h t w').2.2 := by
  simp only [Fanout.terminate, ← ha.termination]
  split
  · exact ⟨rfl, ha⟩
  · obtain ⟨hcount, hpart⟩ :=
      round_perm hapart (private_finish hapart t) hlisteners ha.entries ha.part
    rw [finishAll_eq_round, finishAll_eq_round]
    exact ⟨hcount, .refl _, rfl, hpart⟩

theorem Agree.insert (hapart : h.Apart part) (ha : Agree part f f' w w')
    (hids : (f.entries.map (·.id)).Nodup) (e : Entry) :
    (f.insert h e w).1 = (f'.insert h e w').1 ∧
      Agree part (f.insert h e w).2.1 (f'.insert h e w').2.1 (f.insert h e w).2.2
        (f'.insert h e w').2.2 := by
  simp only [Fanout.insert, ← ha.termination, ← hapart.isActive (ha.part e.listener)]
  cases f.termination with
  | some t =>
    refine ⟨rfl, ha.entries, ha.termination, fun i => ?_⟩
    have hturn := private_finish hapart t
    by_cases hi : i = e.listener
    · rw [hi]
      exact hturn.own e (ha.part e.listener)
    · exact (hturn.other e hi).trans ((ha.part i).trans (hturn.other e hi).symm)
  | none =>
    dsimp only
    split
    · exact ⟨rfl, ha.store hids e⟩
    · exact ⟨rfl, ha⟩

/-- A call answers and does the same. -/
theorem Agree.call (hapart : h.Apart part) (ha : Agree part f f' w w') (hs : Stored moves f)
    (c : Call) : answer h f w c = answer h f' w' c ∧
      Agree part (perform h f w c).1 (perform h f' w' c).1 (perform h f w c).2
        (perform h f' w' c).2 := by
  cases c with
  | insert e =>
    obtain ⟨hanswer, hagree⟩ := ha.insert hapart hs.ids e
    exact ⟨congrArg Answer.stored hanswer, hagree⟩
  | remove id => exact ⟨congrArg Answer.removed (ha.contains id), ha.remove id⟩
  | deliver e =>
    obtain ⟨hanswer, hagree⟩ := ha.tellAll hapart hs.listeners (.message e)
    exact ⟨congrArg Answer.reached hanswer, hagree⟩
  | report e =>
    obtain ⟨hanswer, hagree⟩ := ha.tellAll hapart hs.listeners (.error e)
    exact ⟨congrArg Answer.reached hanswer, hagree⟩
  | terminate t =>
    obtain ⟨hanswer, hagree⟩ := ha.terminate hapart hs.listeners t
    exact ⟨congrArg Answer.reached hanswer, hagree⟩

/-- So does a move, whatever the two orders. -/
theorem Agree.step (hapart : h.Apart part) (ha : Agree part f f' w w') (hs : Stored moves f)
    (hstep : Step h f w m x f₁ w₁) (hstep' : Step h f' w' m x' f₁' w₁') :
    x = x' ∧ Agree part f₁ f₁' w₁ w₁' := by
  cases hstep with
  | clear i =>
    cases hstep'
    refine ⟨rfl, ha.entries, ha.termination, fun j => ?_⟩
    by_cases hj : j = i
    · rw [hj]
      exact hapart.deactivate (ha.part i)
    · rw [hapart.deactivate_of_ne hj, hapart.deactivate_of_ne hj, ha.part]
  | @call entries c hperm =>
    cases hstep' with
    | @call entries' _ hperm' => exact (ha.perm hperm hperm').call hapart (hs.perm hperm) c

/-- Two runs of a new set with the same moves, whatever the order in which each of their calls
    meets the stored subscribers, answer the same at every move, and come to the same: of every
    listener the flag and all that its callbacks touch, the subscribers that are stored, and how
    the set has ended. Listeners are apart, and every subscriber has one of its own. -/
theorem order_irrelevant (hapart : h.Apart part)
    (hlisteners : ((inserted moves).map (·.listener)).Nodup) {answers' : List Answer}
    (hr : Ran h w₀ moves answers f w) (hr' : Ran h w₀ moves answers' f' w') :
    answers = answers' ∧ (∀ i, part w i = part w' i ∧ h.isActive w i = h.isActive w' i) ∧
      f.entries.Perm f'.entries ∧ f.termination = f'.termination := by
  suffices hagree : answers = answers' ∧ Agree part f f' w w' by
    obtain ⟨hanswers, ha⟩ := hagree
    exact ⟨hanswers, fun i => ⟨ha.part i, hapart.isActive (ha.part i)⟩, ha.entries,
      ha.termination⟩
  induction hr generalizing answers' f' w' with
  | new =>
    generalize hms : ([] : List Move) = ms at hr'
    cases hr' with
    | new => exact ⟨rfl, .refl _, rfl, fun _ => rfl⟩
    | step => simp at hms
  | @step moves answers f f₁ w w₁ m x hr hstep ih =>
    obtain ⟨answers', x', g, v, rfl, hr', hstep'⟩ := hr'.exists_step
    rw [inserted_append_singleton, List.map_append, List.nodup_append] at hlisteners
    obtain ⟨rfl, ha⟩ := ih hlisteners.1 hr'
    obtain ⟨rfl, ha'⟩ := ha.step hapart (hr.stored hlisteners.1) hstep hstep'
    exact ⟨rfl, ha'⟩

/-- Two who leave on the first message, which meets them in the one and in the other order. -/
theorem order_irrelevant_swapped : ∃ (moves : List Move) (answers answers' : List Answer)
    (f f' : Fanout) (a a' : Audience), Ran Audience.host [{}, {}] moves answers f a ∧
      Ran Audience.host [{}, {}] moves answers' f' a' ∧
      f.entries.map (·.id) = [1, 2] ∧ f'.entries.map (·.id) = [2, 1] ∧ answers = answers' ∧
      (∀ i, a[i]? = a'[i]? ∧ a.isActive i = a'.isActive i) ∧ f.entries.Perm f'.entries ∧
      f.termination = f'.termination := by
  let leaver : Subscriber := { respond := fun _ => [.leave] }
  have empty : Ran Audience.host [{}, {}] [] [] {} [{}, {}] := .new
  have start := (empty.step (.call (.insert ⟨1, 0, leaver⟩) (.refl _))).step
    (.call (.insert ⟨2, 1, leaver⟩) (.refl _))
  have forward := start.step (.call (.deliver { kind := "note" }) (.refl _))
  have backward := start.step (.call (.deliver { kind := "note" }) (.swap _ _ []))
  exact ⟨_, _, _, _, _, _, _, forward, backward, rfl, rfl,
    order_irrelevant Audience.apart (by decide) forward backward⟩

end Fanout

end PartyLine
