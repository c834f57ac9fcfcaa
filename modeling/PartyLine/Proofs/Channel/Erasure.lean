import PartyLine.Proofs.Channel.Deeds

/-!
# Runs without subscriptions

Subscribers that only listen have no influence on the connection. If some subscriptions are
left out of a run of a channel, with all that is asked for them, what remains is a run of a
channel too, with the same connection at every time, the same count of everything but the
subscribers, and the same for all other subscriptions. These get their numbers anew, since
they are counted.

The run without them is built deed by deed. A deed for a subscription that is left out is left
out, and every other one is done under the new number (`Scene.Deed.erase`); the two channels stay
beside each other in one relation, `Channel.Erased`: the same connection, and everything that
has a number in it restricted to those that are kept. What makes this a simulation is that
restricting commutes with all that the hub does. A round over the set, restricted, is the round
over the restricted set, because a turn of somebody who only listens changes its own listener
and nothing else; storing, removing and taking a message are restricted, or fall away.

* `rank`: the number of a subscription among those that are kept;
* `Scene.Deed.erase`: what becomes of a deed;
* `Channel.Erased`: a channel beside one that lacks some subscriptions, with one lemma for
  each thing that can happen to it;
* `Scene.Mirrored`, `Scene.mirrored_of_does`: what a deed comes to in the other run;
* `exists_run_erased`: the run without some subscriptions.
-/

namespace PartyLine

/-- A subscriber that only listens. -/
def Subscriber.Passive (s : Subscriber) : Prop := ∀ heard, s.respond heard = []

/-! ## Numbers -/

/-- The number of a subscription among those that are kept. -/
def rank (keep : Nat → Bool) : Nat → Nat
  | 0 => 0
  | id + 1 => rank keep id + if keep (id + 1) then 1 else 0

section Rank

variable {keep : Nat → Bool} {i j : Nat}

theorem rank_succ_of_keep (h : keep (i + 1)) : rank keep (i + 1) = rank keep i + 1 := by
  rw [rank, if_pos h]

theorem rank_succ_of_not_keep (h : keep (i + 1) = false) : rank keep (i + 1) = rank keep i := by
  rw [rank, h]
  rfl

theorem rank_le_rank (h : i ≤ j) : rank keep i ≤ rank keep j := by
  induction h with
  | refl => exact Nat.le_refl _
  | step _ ih => exact Nat.le_trans ih (Nat.le_add_right _ _)

/-- A subscription that is kept comes after all before it. -/
theorem rank_lt_rank (h : i < j) (hj : keep j) : rank keep i < rank keep j := by
  obtain ⟨j, rfl⟩ := Nat.exists_eq_add_one_of_ne_zero (Nat.ne_of_gt (Nat.zero_lt_of_lt h))
  rw [rank_succ_of_keep hj]
  exact Nat.lt_succ_of_le (rank_le_rank (Nat.le_of_lt_succ h))

/-- All after it come after those before it. -/
theorem rank_lt_rank_of_keep_succ (h : i < j) (hi : keep (i + 1)) : rank keep i < rank keep j := by
  have hle : rank keep (i + 1) ≤ rank keep j := rank_le_rank h
  rw [rank_succ_of_keep hi] at hle
  exact hle

/-- Subscriptions that are kept have different numbers. -/
theorem rank_inj (hi : keep i) (hj : keep j) : rank keep i = rank keep j ↔ i = j := by
  refine ⟨fun h => ?_, fun h => by rw [h]⟩
  rcases Nat.lt_trichotomy i j with hlt | heq | hlt
  · exact absurd h (Nat.ne_of_lt (rank_lt_rank hlt hj))
  · exact heq
  · exact absurd h (Nat.ne_of_gt (rank_lt_rank hlt hi))

end Rank

/-! ## What is left out -/

/-- A stored subscriber with its number among those that are kept. -/
def Fanout.Entry.restrict (keep : Nat → Bool) (e : Fanout.Entry) : Option Fanout.Entry :=
  if keep e.id then
    some { id := rank keep e.id, listener := rank keep e.listener, subscriber := e.subscriber }
  else none

namespace Fanout

variable {keep : Nat → Bool} {e : Entry} {f f' : Fanout} {id : Nat}

theorem restrict_of_keep (h : keep e.id) : e.restrict keep =
    some { id := rank keep e.id, listener := rank keep e.listener, subscriber := e.subscriber } :=
  if_pos h

theorem restrict_of_not_keep (h : keep e.id = false) : e.restrict keep = none := by
  simp [Entry.restrict, h]

/-- Whether a stored subscriber has some number. -/
theorem any_restrict (hid : keep id) (es : List Entry) :
    (es.filterMap (·.restrict keep)).any (·.id == rank keep id) = es.any (·.id == id) := by
  induction es with
  | nil => rfl
  | cons e es ih =>
    cases he : keep e.id with
    | true =>
      have hsame : (rank keep e.id == rank keep id) = (e.id == id) := by
        rw [Bool.eq_iff_iff, beq_iff_eq, beq_iff_eq, rank_inj he hid]
      rw [List.filterMap_cons_some (restrict_of_keep he), List.any_cons, List.any_cons, ih, hsame]
    | false =>
      have hne : (e.id == id) = false := by
        rw [beq_eq_false_iff_ne]
        rintro rfl
        rw [hid] at he
        cases he
      rw [List.filterMap_cons_none (restrict_of_not_keep he), List.any_cons, hne, ih,
        Bool.false_or]

/-- Storing a subscriber that is kept. -/
theorem restrict_store (h : f'.entries = f.entries.filterMap (·.restrict keep))
    (he : keep e.id) :
    (f'.store { id := rank keep e.id
                listener := rank keep e.listener
                subscriber := e.subscriber }).entries =
      (f.store e).entries.filterMap (·.restrict keep) := by
  have hcontains : f'.contains (rank keep e.id) = f.contains e.id := by
    rw [contains, contains, h, any_restrict he]
  simp only [store, hcontains]
  split
  · -- the entry with its number is replaced in both
    simp only [h, List.filterMap_map, List.map_filterMap]
    refine List.filterMap_congr fun old _ => ?_
    cases hold : keep old.id with
    | true =>
      have hsame : (rank keep old.id == rank keep e.id) = (old.id == e.id) := by
        rw [Bool.eq_iff_iff, beq_iff_eq, beq_iff_eq, rank_inj hold he]
      rw [restrict_of_keep hold, Option.map_some, Function.comp_apply]
      simp only [hsame]
      split
      · rw [restrict_of_keep he]
      · rw [restrict_of_keep hold]
    | false =>
      have hne : old.id ≠ e.id := by
        intro heq
        rw [heq, he] at hold
        cases hold
      simp [restrict_of_not_keep hold, hne]
  · simp [h, restrict_of_keep he]

/-- Storing one that is left out. -/
theorem restrict_store_of_not_keep (he : keep e.id = false) :
    (f.store e).entries.filterMap (·.restrict keep) = f.entries.filterMap (·.restrict keep) := by
  rw [store]
  split
  · simp only [List.filterMap_map]
    refine List.filterMap_congr fun old _ => ?_
    rw [Function.comp_apply]
    split
    · next heq =>
      rw [restrict_of_not_keep he, restrict_of_not_keep (beq_iff_eq.1 heq ▸ he)]
    · rfl
  · simp [restrict_of_not_keep he]

/-- Taking one out that is kept. -/
theorem restrict_remove (h : f'.entries = f.entries.filterMap (·.restrict keep)) (hid : keep id) :
    (f'.remove (rank keep id)).2.entries =
      (f.remove id).2.entries.filterMap (·.restrict keep) := by
  simp only [remove, h, List.filterMap_filter, List.filter_filterMap]
  refine List.filterMap_congr fun old _ => ?_
  cases hold : keep old.id with
  | true =>
    have hsame : (rank keep old.id != rank keep id) = (old.id != id) := by
      rw [Bool.eq_iff_iff, bne_iff_ne, bne_iff_ne, ne_eq, ne_eq, rank_inj hold hid]
    rw [restrict_of_keep hold, Option.filter_some, hsame]
  | false => simp [restrict_of_not_keep hold]

/-- Taking one out that is left out. -/
theorem restrict_remove_of_not_keep (hid : keep id = false) :
    (f.remove id).2.entries.filterMap (·.restrict keep) =
      f.entries.filterMap (·.restrict keep) := by
  simp only [remove, List.filterMap_filter]
  refine List.filterMap_congr fun old _ => ?_
  split
  · rfl
  · next heq =>
    have heq : old.id = id := by simpa using heq
    rw [restrict_of_not_keep (heq ▸ hid)]

end Fanout

namespace Channel

/-- A message of the hub, if it is not about a subscription that is left out. -/
def Message.restrict (keep : Nat → Bool) : Message → Option Message
  | .subscribe id s => if keep id then some (.subscribe (rank keep id) s) else none
  | .unsubscribe id => if keep id then some (.unsubscribe (rank keep id)) else none
  | .event e => some (.event e)

theorem event?_restrict {keep : Nat → Bool} {m m' : Message} (h : m.restrict keep = some m') :
    m'.event? = m.event? := by
  cases m with
  | event e =>
    cases h
    rfl
  | subscribe id s | unsubscribe id =>
    rw [Message.restrict] at h
    split at h
    · cases h
      rfl
    · cases h

theorem restrict_event {keep : Nat → Bool} (e : ConnectionEvent) :
    (Message.event e).restrict keep = some (.event e) := rfl

/-- Some listeners, and those among them that are kept. -/
structure Retained (keep : Nat → Bool) (ls ms : List Listener) : Prop where
  length : ms.length = rank keep ls.length
  getElem? : ∀ i, keep (i + 1) → ms[rank keep i]? = ls[i]?

/-- A channel all of whose subscribers only listen, and one that lacks some of them. -/
structure Erased (keep : Nat → Bool) (c d : Channel) : Prop where
  connection : d.connection = c.connection
  inbox : d.inbox = c.inbox.filterMap (·.restrict keep)
  termination : d.fanout.termination = c.fanout.termination
  entries : d.fanout.entries = c.fanout.entries.filterMap (·.restrict keep)
  listeners : Retained keep c.listeners d.listeners
  statistics : { d.statistics with subscribers := c.statistics.subscribers } = c.statistics
  passive : ∀ id s, .subscribe id s ∈ c.inbox → s.Passive
  stored : ∀ e ∈ c.fanout.entries, e.listener = e.id ∧ e.subscriber.Passive

variable {keep : Nat → Bool} {c d : Channel} {id : Nat}

/-! ## Listeners -/

theorem getElem?_append_of_length_lt {ls : List Listener} {l : Listener} {i : Nat}
    (h : ls.length < i) : (ls ++ [l])[i]? = none := by
  refine List.getElem?_eq_none ?_
  rw [List.length_append]
  exact h

section Retained

variable {ls ms : List Listener} (h : Retained keep ls ms)

include h

/-- A new listener that is kept. -/
theorem Retained.append (l : Listener) (hkeep : keep (ls.length + 1)) :
    Retained keep (ls ++ [l]) (ms ++ [l]) where
  length := by simp [h.length, rank_succ_of_keep hkeep]
  getElem? i hi := by
    -- the place is one of before, the new one, or beyond both lists
    rcases Nat.lt_trichotomy i ls.length with hlt | rfl | hlt
    · have hms : rank keep i < ms.length := by
        rw [h.length]
        exact rank_lt_rank_of_keep_succ hlt hi
      rw [List.getElem?_append_left hlt, List.getElem?_append_left hms, h.getElem? i hi]
    · simp [← h.length]
    · have hms : ms.length < rank keep i := by
        rw [h.length]
        exact rank_lt_rank_of_keep_succ hlt hkeep
      rw [getElem?_append_of_length_lt hlt, getElem?_append_of_length_lt hms]

/-- A new listener that is not. -/
theorem Retained.append_left (l : Listener) (hkeep : keep (ls.length + 1) = false) :
    Retained keep (ls ++ [l]) ms where
  length := by simp [h.length, rank_succ_of_not_keep hkeep]
  getElem? i hi := by
    have hne : i ≠ ls.length := by
      rintro rfl
      rw [hkeep] at hi
      cases hi
    rw [h.getElem? i hi]
    rcases Nat.lt_or_gt_of_ne hne with hlt | hlt
    · rw [List.getElem?_append_left hlt]
    · rw [List.getElem?_eq_none (Nat.le_of_lt hlt), getElem?_append_of_length_lt hlt]

/-- One that is kept changes. -/
theorem Retained.modify (g : Listener → Listener) {i : Nat} (hkeep : keep (i + 1)) :
    Retained keep (ls.modify i g) (ms.modify (rank keep i) g) where
  length := by simp [h.length]
  getElem? j hj := by
    -- no other listener is at that place, since ranks are different
    have hrank : rank keep i = rank keep j ↔ i = j := by
      rw [← Nat.add_right_cancel_iff (n := 1), ← rank_succ_of_keep hkeep, ← rank_succ_of_keep hj,
        rank_inj hkeep hj, Nat.add_right_cancel_iff]
    rw [List.getElem?_modify, List.getElem?_modify, h.getElem? j hj]
    simp only [hrank]

/-- One that is not kept changes. -/
theorem Retained.modify_left (g : Listener → Listener) {i : Nat} (hkeep : keep (i + 1) = false) :
    Retained keep (ls.modify i g) ms where
  length := by simp [h.length]
  getElem? j hj := by
    have hne : i ≠ j := by
      rintro rfl
      rw [hkeep] at hj
      cases hj
    simp [h.getElem? j hj, hne]

end Retained

theorem Erased.listener? (h : Erased keep c d) (hid : keep id) :
    d.listener? (rank keep id) = c.listener? id := by
  cases id with
  | zero => rfl
  | succ i =>
    rw [rank_succ_of_keep hid]
    exact h.listeners.getElem? i hid

/-- A subscription that is kept has the same flag. -/
theorem Erased.isActive (h : Erased keep c d) (hid : keep id) :
    d.isActive (rank keep id) = c.isActive id := by
  rw [Channel.isActive, Channel.isActive, h.listener? hid]

/-- A listener changes, if it is kept. -/
theorem Erased.updateListener (h : Erased keep c d) (id : Nat) (g : Listener → Listener) :
    Erased keep (c.updateListener id g)
      (if keep id then d.updateListener (rank keep id) g else d) := by
  cases id with
  | zero =>
    -- no subscription has this number
    split <;> exact h
  | succ i =>
    cases hid : keep (i + 1) with
    | false => exact { h with listeners := h.listeners.modify_left g hid }
    | true =>
      rw [if_pos rfl, rank_succ_of_keep hid]
      exact { h with listeners := h.listeners.modify g hid }

/-- What is in the journals does not matter. -/
theorem Erased.journal (h : Erased keep c d) (xs ys : List Happening) :
    Erased keep { c with journal := xs } { d with journal := ys } :=
  { h with }

/-- What is counted, but for the subscribers, is counted in both. -/
theorem Erased.count (h : Erased keep c d) (g : Statistics → Statistics)
    (hg : ∀ st n, g { st with subscribers := n } = { g st with subscribers := n }) :
    Erased keep (c.count g) (d.count g) := by
  have hcounted := hg d.statistics c.statistics.subscribers
  rw [h.statistics] at hcounted
  refine { h with statistics := ?_ }
  show { g d.statistics with subscribers := (g c.statistics).subscribers } = g c.statistics
  rw [hcounted]

/-- The number of subscribers is counted anew. -/
theorem Erased.countSubscribers (h : Erased keep c d) (n n' : Nat) :
    Erased keep (c.count fun st => { st with subscribers := n })
      (d.count fun st => { st with subscribers := n' }) :=
  { h with
    statistics := congrArg (fun st : Statistics => { st with subscribers := n }) h.statistics }

/-- The sets change. -/
theorem Erased.withFanout (h : Erased keep c d) {f f' : Fanout}
    (htermination : f'.termination = f.termination)
    (hentries : f'.entries = f.entries.filterMap (·.restrict keep))
    (hstored : ∀ e ∈ f.entries, e.listener = e.id ∧ e.subscriber.Passive) :
    Erased keep { c with fanout := f } { d with fanout := f' } :=
  { h with termination := htermination, entries := hentries, stored := hstored }

/-! ## Callbacks -/

/-- A callback that asks for nothing is no more than the note that is heard. -/
theorem tell_of_passive {s : Subscriber} (hs : s.Passive) (c : Channel) (id : Nat) (n : Note) :
    host.tell id s n c = if s.wants n then c.hear id n else c := by
  rw [Host.tell]
  split
  · show c.tell id s n = c.hear id n
    rw [Channel.tell, hs]
    rfl
  · rfl

theorem Erased.tell (h : Erased keep c d) (id : Nat) {s : Subscriber} (hs : s.Passive) (n : Note) :
    Erased keep (host.tell id s n c)
      (if keep id then host.tell (rank keep id) s n d else d) := by
  rw [tell_of_passive hs, tell_of_passive hs]
  have hheard := h.updateListener id fun l => { l with heard := l.heard ++ [n] }
  cases s.wants n with
  | false =>
    simp only [Bool.false_eq_true, if_false, ite_self]
    exact h
  | true =>
    simp only [if_true]
    cases hid : keep id with
    | true => exact (hid ▸ hheard).journal _ _
    | false => exact (hid ▸ hheard).journal _ _

theorem Erased.dismiss (h : Erased keep c d) (id : Nat) :
    Erased keep (c.dismiss id) (if keep id then d.dismiss (rank keep id) else d) := by
  have hcleared := h.updateListener id fun l => { l with active := false }
  cases hid : keep id with
  | true => exact (hid ▸ hcleared).journal _ _
  | false => exact (hid ▸ hcleared).journal _ _

/-! ## Rounds -/

/-- What is done for some stored subscribers in turn, for each only if its flag is then set. -/
def turns (g : Fanout.Entry → Channel → Channel) : List Fanout.Entry → Channel → Channel
  | [], c => c
  | e :: es, c => turns g es (if c.isActive e.listener then g e c else c)

theorem tellAll_eq_turns (n : Note) (es : List Fanout.Entry) (c : Channel) :
    (Fanout.tellAll host n es c).2 = turns (fun e => host.tell e.listener e.subscriber n) es c := by
  induction es generalizing c with
  | nil => rfl
  | cons e es ih =>
    rw [Fanout.tellAll, turns, ← ih]
    show (if c.isActive e.listener then _ else _ : Nat × Channel).2 = _
    split <;> rfl

theorem finishAll_eq_turns (t : Termination) (es : List Fanout.Entry) (c : Channel) :
    (Fanout.finishAll host t es c).2 =
      turns (fun e c => host.tell e.listener e.subscriber t.note (c.dismiss e.listener)) es c := by
  induction es generalizing c with
  | nil => rfl
  | cons e es ih =>
    rw [Fanout.finishAll, turns, ← ih]
    show (if c.isActive e.listener then _ else _ : Nat × Channel).2 = _
    split <;> rfl

/-- A round goes to all, and in the other channel to those that are kept. -/
theorem Erased.turns (h : Erased keep c d) {g : Fanout.Entry → Channel → Channel}
    {es : List Fanout.Entry} (hes : ∀ e ∈ es, e.listener = e.id ∧ e.subscriber.Passive)
    (hg : ∀ e ∈ es, ∀ c d, Erased keep c d →
      Erased keep (g e c) ((e.restrict keep).elim d fun e' => g e' d)) :
    Erased keep (turns g es c) (turns g (es.filterMap (·.restrict keep)) d) := by
  induction es generalizing c d with
  | nil => exact h
  | cons e es ih =>
    -- the one whose turn it is may be left out; if not, its flag is the same in both
    obtain ⟨⟨hlistener, -⟩, hes⟩ := List.forall_mem_cons.1 hes
    obtain ⟨hturn, hg⟩ := List.forall_mem_cons.1 hg
    have hnext := hturn c d h
    rw [Channel.turns]
    cases hkeep : keep e.id with
    | false =>
      rw [Fanout.restrict_of_not_keep hkeep] at hnext
      rw [List.filterMap_cons_none (Fanout.restrict_of_not_keep hkeep)]
      split
      · exact ih hnext hes hg
      · exact ih h hes hg
    | true =>
      rw [Fanout.restrict_of_keep hkeep] at hnext
      rw [List.filterMap_cons_some (Fanout.restrict_of_keep hkeep), Channel.turns]
      have hactive : d.isActive (rank keep e.listener) = c.isActive e.listener :=
        h.isActive (hlistener ▸ hkeep)
      simp only [hactive]
      split
      · exact ih hnext hes hg
      · exact ih h hes hg

/-- A turn of somebody stored, if it is kept. -/
theorem elim_restrict {e : Fanout.Entry} (h : e.listener = e.id)
    (g : Nat → Subscriber → Channel → Channel) (d : Channel) :
    ((e.restrict keep).elim d fun e' => g e'.listener e'.subscriber d) =
      if keep e.listener then g (rank keep e.listener) e.subscriber d else d := by
  cases hkeep : keep e.id with
  | true => rw [Fanout.restrict_of_keep hkeep, h, hkeep, if_pos rfl, Option.elim_some]
  | false =>
    rw [Fanout.restrict_of_not_keep hkeep, h, hkeep]
    rfl

/-- A note is told to all. -/
theorem Erased.tellAll (h : Erased keep c d) (n : Note) :
    Erased keep (Fanout.tellAll host n c.fanout.entries c).2
      (Fanout.tellAll host n d.fanout.entries d).2 := by
  rw [tellAll_eq_turns, tellAll_eq_turns, h.entries]
  refine h.turns h.stored fun e he c' d' h' => ?_
  obtain ⟨hlistener, hpassive⟩ := h.stored e he
  rw [elim_restrict hlistener fun i s => host.tell i s n]
  exact h'.tell e.listener hpassive n

/-- The end is told to all. -/
theorem Erased.finishAll (h : Erased keep c d) (t : Termination) :
    Erased keep (Fanout.finishAll host t c.fanout.entries c).2
      (Fanout.finishAll host t d.fanout.entries d).2 := by
  rw [finishAll_eq_turns, finishAll_eq_turns, h.entries]
  refine h.turns h.stored fun e he c' d' h' => ?_
  obtain ⟨hlistener, hpassive⟩ := h.stored e he
  rw [elim_restrict hlistener fun i s c => host.tell i s t.note (c.dismiss i)]
  have htold := (h'.dismiss e.listener).tell e.listener hpassive t.note
  cases hkeep : keep e.listener with
  | true => simpa only [hkeep, if_true] using htold
  | false => simpa only [hkeep, Bool.false_eq_true, if_false] using htold

/-! ## Messages -/

theorem Erased.deliver (h : Erased keep c d) (e : Envelope) :
    Erased keep (c.fanout.deliver host e c).2 (d.fanout.deliver host e d).2 := by
  rw [Fanout.deliver, Fanout.deliver, h.termination]
  split
  · exact h
  · exact h.tellAll _

theorem Erased.report (h : Erased keep c d) (e : ChannelError) :
    Erased keep (c.fanout.report host e c).2 (d.fanout.report host e d).2 := by
  rw [Fanout.report, Fanout.report, h.termination]
  split
  · exact h
  · exact h.tellAll _

/-- What the end of a channel does to it, if it is the first. -/
theorem terminate_eq (c : Channel) (t : Termination) : c.terminate t =
    (if c.fanout.termination.isSome then c
      else { (Fanout.finishAll host t c.fanout.entries c).2 with
        fanout := { entries := [], termination := some t } }).count
          fun st => { st with subscribers := 0 } := by
  cases hlatch : c.fanout.termination.isSome <;> simp [terminate, Fanout.terminate, hlatch]

theorem Erased.terminate (h : Erased keep c d) (t : Termination) :
    Erased keep (c.terminate t) (d.terminate t) := by
  rw [terminate_eq, terminate_eq, h.termination]
  refine Erased.countSubscribers ?_ 0 0
  split
  · exact h
  · exact (h.finishAll t).withFanout rfl rfl fun e he => absurd he List.not_mem_nil

/-- What the connection reports concerns all. -/
theorem Erased.handleEvent (h : Erased keep c d) (e : ConnectionEvent) :
    Erased keep (c.handleEvent e) (d.handleEvent e) := by
  cases e with
  | opened => exact h
  | failed e => exact h.terminate _
  | closed => exact h.terminate _
  | frame f =>
    simp only [Channel.handleEvent]
    split
    · exact (h.deliver _).count _ fun _ _ => rfl
    · exact (h.count _ fun _ _ => rfl).report _

/-- The hub's handling of a subscription. -/
theorem handle_subscribe (c : Channel) (id : Nat) (s : Subscriber) :
    c.handle (.subscribe id s) =
      match c.fanout.termination with
      | some t => { host.tell id s t.note (c.dismiss id) with fanout := c.fanout }
      | none =>
          if c.isActive id then
            { c with fanout := c.fanout.store ⟨id, id, s⟩ }.countSubscribers
          else c := by
  cases hlatch : c.fanout.termination with
  | some t =>
    simp only [Channel.handle, Fanout.insert, hlatch]
    rfl
  | none =>
    have hactive : host.isActive c id = c.isActive id := rfl
    simp only [Channel.handle, Fanout.insert, hlatch, hactive]
    cases c.isActive id <;> rfl

theorem Erased.handle_subscribe (h : Erased keep c d) (id : Nat) {s : Subscriber}
    (hs : s.Passive) : Erased keep (c.handle (.subscribe id s))
      (if keep id then d.handle (.subscribe (rank keep id) s) else d) := by
  rw [Channel.handle_subscribe, Channel.handle_subscribe, h.termination]
  cases c.fanout.termination with
  | some t =>
    -- it comes after the end, and is told of it
    have htold := (h.dismiss id).tell id hs t.note
    cases hkeep : keep id with
    | true =>
      simp only [hkeep, if_true] at htold ⊢
      exact htold.withFanout h.termination h.entries h.stored
    | false =>
      simp only [hkeep, Bool.false_eq_true, if_false] at htold ⊢
      exact htold.withFanout h.termination h.entries h.stored
  | none =>
    have hstored : ∀ e ∈ (c.fanout.store ⟨id, id, s⟩).entries,
        e.listener = e.id ∧ e.subscriber.Passive := by
      intro e he
      rcases Fanout.mem_store he with rfl | he
      · exact ⟨rfl, hs⟩
      · exact h.stored e he
    cases hkeep : keep id with
    | true =>
      -- stored in both, or in none
      simp only [h.isActive hkeep, if_true]
      split
      · refine Erased.countSubscribers (h.withFanout ?_ ?_ hstored) _ _
        · simp [h.termination]
        · exact Fanout.restrict_store (e := ⟨id, id, s⟩) h.entries hkeep
      · exact h
    | false =>
      simp only [Bool.false_eq_true, if_false]
      split
      · refine Erased.countSubscribers (h.withFanout ?_ ?_ hstored) _ d.statistics.subscribers
        · simp [h.termination]
        · rw [h.entries, Fanout.restrict_store_of_not_keep (e := ⟨id, id, s⟩) hkeep]
      · exact h

theorem Erased.handle_unsubscribe (h : Erased keep c d) (id : Nat) :
    Erased keep (c.handle (.unsubscribe id))
      (if keep id then d.handle (.unsubscribe (rank keep id)) else d) := by
  have hstored : ∀ e ∈ (c.fanout.remove id).2.entries, e.listener = e.id ∧ e.subscriber.Passive :=
    fun e he => h.stored e (List.mem_of_mem_filter he)
  cases hkeep : keep id with
  | true =>
    have hremoved : Erased keep { c with fanout := (c.fanout.remove id).2 }
        { d with fanout := (d.fanout.remove (rank keep id)).2 } :=
      h.withFanout h.termination (Fanout.restrict_remove h.entries hkeep) hstored
    have hfound : (d.fanout.remove (rank keep id)).1 = (c.fanout.remove id).1 := by
      simp only [Fanout.remove, Fanout.contains, h.entries, Fanout.any_restrict hkeep]
    simp only [Channel.handle, hfound, if_true]
    split
    · exact hremoved.countSubscribers _ _
    · exact hremoved
  | false =>
    have hremoved : Erased keep { c with fanout := (c.fanout.remove id).2 } d :=
      h.withFanout h.termination
        (by rw [h.entries, Fanout.restrict_remove_of_not_keep hkeep]) hstored
    simp only [Channel.handle, Bool.false_eq_true, if_false]
    split
    · exact hremoved.countSubscribers _ d.statistics.subscribers
    · exact hremoved

/-- The hub handles a message, in the other channel if it is not about a subscription that is
    left out. -/
theorem Erased.handle (h : Erased keep c d) {m : Message}
    (hm : ∀ id s, m = .subscribe id s → s.Passive) :
    Erased keep (c.handle m) ((m.restrict keep).elim d d.handle) := by
  cases m with
  | event e => exact h.handleEvent e
  | subscribe id s =>
    rw [Message.restrict, apply_ite fun m : Option Message => m.elim d d.handle]
    exact h.handle_subscribe id (hm id s rfl)
  | unsubscribe id =>
    rw [Message.restrict, apply_ite fun m : Option Message => m.elim d d.handle]
    exact h.handle_unsubscribe id

/-- The hub takes a message. -/
theorem Erased.take (h : Erased keep c d) {m : Message} {rest : List Message}
    (hinbox : c.inbox = m :: rest) : Erased keep
      (({ c with inbox := rest }.record (.took m)).handle m)
      ((m.restrict keep).elim d fun m' => ({ d with
        inbox := rest.filterMap (Message.restrict keep) }.record (.took m')).handle m') := by
  have hpassive : ∀ id s, m = .subscribe id s → s.Passive := by
    rintro id s rfl
    exact h.passive id s (by simp [hinbox])
  have hrest : Erased keep { c with inbox := rest }
      { d with inbox := rest.filterMap (Message.restrict keep) } :=
    { h with
      inbox := rfl
      passive := fun id s hs => h.passive id s (by simp [hinbox, hs]) }
  cases hm : m.restrict keep with
  | some m' =>
    have htaken :=
      (hrest.journal (c.journal ++ [.took m]) (d.journal ++ [.took m'])).handle hpassive
    rw [hm] at htaken
    exact htaken
  | none =>
    -- the other channel has no such message
    have hd : d.inbox = rest.filterMap (Message.restrict keep) := by
      rw [h.inbox, hinbox, List.filterMap_cons_none hm]
    have htaken := (hrest.journal (c.journal ++ [.took m]) d.journal).handle hpassive
    rw [hm, ← hd] at htaken
    exact htaken

/-- A message of a consumer comes before news that were posted before it. -/
theorem Erased.overtake (h : Erased keep c d) {before after : List Message} {e : ConnectionEvent}
    {m : Message} (hinbox : c.inbox = before ++ .event e :: m :: after) :
    Erased keep { c with inbox := before ++ m :: .event e :: after }
      { d with inbox := (before ++ m :: .event e :: after).filterMap (Message.restrict keep) } := by
  refine { h with inbox := rfl, passive := fun id s hs => h.passive id s ?_ }
  rw [hinbox]
  simp only [List.mem_append, List.mem_cons] at hs ⊢
  tauto

/-! ## Consumers -/

/-- A handle posts a message to the hub. -/
theorem Erased.post (h : Erased keep c d) {m : Message}
    (hm : ∀ id s, m = .subscribe id s → s.Passive) :
    Erased keep (c.post m) ((m.restrict keep).elim d d.post) := by
  have hpassive : ∀ id s, .subscribe id s ∈ c.inbox ++ [m] → s.Passive := by
    intro id s hs
    rcases List.mem_append.1 hs with hs | hs
    · exact h.passive id s hs
    · exact hm id s (List.mem_singleton.1 hs).symm
  cases hm' : m.restrict keep with
  | some m' =>
    exact { h with
      inbox := by simp [Channel.post, h.inbox, hm']
      passive := hpassive }
  | none =>
    exact { h with
      inbox := by simp [Channel.post, h.inbox, hm']
      passive := hpassive }

/-- A new listener is kept as its subscription is. -/
theorem Erased.subscribe (h : Erased keep c d) {s : Subscriber} (hs : s.Passive) :
    Erased keep (c.subscribe s).2
      (if keep (c.listeners.length + 1) then (d.subscribe s).2 else d) := by
  have hpassive : ∀ id' s', Message.subscribe (c.listeners.length + 1) s = .subscribe id' s' →
      s'.Passive := by
    rintro _ _ ⟨⟩
    exact hs
  cases hkeep : keep (c.listeners.length + 1) with
  | true =>
    have hlistening : Erased keep { c with listeners := c.listeners ++ [⟨true, []⟩] }
        { d with listeners := d.listeners ++ [⟨true, []⟩] } :=
      { h with listeners := h.listeners.append _ hkeep }
    have hnumber : d.listeners.length + 1 = rank keep (c.listeners.length + 1) := by
      rw [h.listeners.length, rank_succ_of_keep hkeep]
    have hposted := hlistening.post hpassive
    rw [Message.restrict, if_pos hkeep, ← hnumber] at hposted
    exact hposted.journal _ _
  | false =>
    have hlistening : Erased keep { c with listeners := c.listeners ++ [⟨true, []⟩] } d :=
      { h with listeners := h.listeners.append_left _ hkeep }
    have hposted := hlistening.post hpassive
    rw [Message.restrict, hkeep] at hposted
    exact hposted.journal _ _

/-- A release is left out with the subscription. -/
theorem Erased.release (h : Erased keep c d) (id : Nat) :
    Erased keep (c.release id) (if keep id then d.release (rank keep id) else d) := by
  have hpassive : ∀ id' s, Message.unsubscribe id = .subscribe id' s → s.Passive := by
    rintro _ _ ⟨⟩
  have hcleared (ys : List Happening) := ((h.journal (c.journal ++ [.released id none]) ys
    ).updateListener id fun l => { l with active := false }).post hpassive
  cases hkeep : keep id with
  | true =>
    have hcleared := hcleared (d.journal ++ [.released (rank keep id) none])
    simp only [hkeep, Message.restrict, if_true, Option.elim_some] at hcleared
    simp only [Channel.release, h.listener? hkeep, if_true]
    split
    · exact h
    · split
      · exact hcleared
      · exact h.journal _ _
  | false =>
    have hcleared := hcleared d.journal
    simp only [hkeep, Message.restrict, Bool.false_eq_true, if_false, Option.elim_none] at hcleared
    simp only [Channel.release, Bool.false_eq_true, if_false]
    split
    · exact h
    · split
      · exact hcleared
      · exact h.journal _ d.journal

theorem Erased.handOver (h : Erased keep c d) (e : Envelope) :
    Erased keep (c.handOver e) (d.handOver e) := by
  have hcounted := h.count (fun st => { st with sent := st.sent + 1 }) fun _ _ => rfl
  exact { hcounted with connection := congrArg (fun x => x.post (.send e.encode)) h.connection }

/-- Sending goes by the state of the connection alone. -/
theorem Erased.send (h : Erased keep c d) (e : Envelope) :
    Erased keep (c.send e) (d.send e) := by
  have hstate : d.state = c.state := by rw [state, state, h.connection]
  rw [Channel.send, Channel.send, hstate]
  split
  · exact h.handOver e
  · exact h.count (fun st => { st with droppedSends := st.droppedSends + 1 }) fun _ _ => rfl

/-- The connection goes on. -/
theorem Erased.act (h : Erased keep c d) (connection : Connection) (es : List ConnectionEvent) :
    Erased keep { c with connection, inbox := c.inbox ++ es.map .event }
      { d with connection, inbox := d.inbox ++ es.map .event } where
  connection := rfl
  inbox := by
    have hevents : (es.map Message.event).filterMap (·.restrict keep) = es.map .event := by
      simp [List.filterMap_map, Message.restrict]
    rw [List.filterMap_append, hevents, h.inbox]
  termination := h.termination
  entries := h.entries
  listeners := h.listeners
  statistics := h.statistics
  passive id s hs := h.passive id s (by simpa using hs)
  stored := h.stored

end Channel

open Channel

namespace Scene

/-- What becomes of a deed in a run without some subscriptions: nothing, if it is done for one
    of these. -/
def Deed.erase (keep : Nat → Bool) : Deed → Option Deed
  | .subscribe id s => if keep id then some (.subscribe (rank keep id) s) else none
  | .release id => if keep id then some (.release (rank keep id)) else none
  | .take m => (m.restrict keep).map .take
  | .overtake e m => (m.restrict keep).map (.overtake e)
  | .rearrange entries => some (.rearrange (entries.filterMap (·.restrict keep)))
  | d => some d

/-- A scene, and one without some subscriptions. -/
structure Erased (keep : Nat → Bool) (s t : Scene) : Prop where
  channel : Channel.Erased keep s.channel t.channel
  trace : t.trace = s.trace
  calls : t.calls = s.calls

variable {keep : Nat → Bool} {params : ConnectParams} {fault : Option TransportError}
  {s s' t : Scene} {d : Deed} {w : List Deed} {states : List ConnectionState}

theorem erased_start (keep : Nat → Bool) (params : ConnectParams)
    (fault : Option TransportError) : Erased keep (start params fault) (start params fault) where
  channel :=
    { connection := rfl
      inbox := rfl
      termination := rfl
      entries := rfl
      listeners := ⟨rfl, fun _ _ => rfl⟩
      statistics := rfl
      passive := fun _ _ h => absurd h List.not_mem_nil
      stored := fun _ h => absurd h List.not_mem_nil }
  trace := rfl
  calls := rfl

/-- What is seen of the connection is the same. -/
theorem Erased.observe (h : Erased keep s t) (a : Connection.Action) :
    t.observe (.connection a) = s.observe (.connection a) := by
  simp only [Scene.observe, h.channel.connection, h.trace]

/-- What a deed comes to in the other scene: it is done there too, or it is left out there and
    leaves it as it is. -/
inductive Mirrored (keep : Nat → Bool) (t : Scene) (d : Deed) (s' : Scene) : Prop
  | does {d' : Deed} {t' : Scene} : d.erase keep = some d' → Does t d' t' → Erased keep s' t' →
      Mirrored keep t d s'
  | leaves : d.erase keep = none → Erased keep s' t → Mirrored keep t d s'

theorem mirrored_take (h : Erased keep s t) {m : Message} {rest : List Message}
    (hinbox : s.channel.inbox = m :: rest) : Mirrored keep t (.take m)
      { s with channel := ({ s.channel with inbox := rest }.record (.took m)).handle m } := by
  have htaken := h.channel.take hinbox
  have hinbox' := h.channel.inbox
  rw [hinbox] at hinbox'
  cases hm : m.restrict keep with
  | some m' =>
    rw [List.filterMap_cons_some hm] at hinbox'
    rw [hm] at htaken
    exact .does (by rw [Deed.erase, hm, Option.map_some]) (.take hinbox') ⟨htaken, h.trace, h.calls⟩
  | none =>
    rw [hm] at htaken
    exact .leaves (by rw [Deed.erase, hm, Option.map_none]) ⟨htaken, h.trace, h.calls⟩

theorem mirrored_subscribe (h : Erased keep s t) {sub : Subscriber} (hsub : sub.Passive) :
    Mirrored keep t (.subscribe (s.channel.listeners.length + 1) sub)
      { s with channel := (s.channel.subscribe sub).2 } := by
  have hsubscribed := h.channel.subscribe hsub
  cases hkeep : keep (s.channel.listeners.length + 1) with
  | true =>
    -- it gets the next number here too, which is its rank
    have hnumber : rank keep (s.channel.listeners.length + 1) = t.channel.listeners.length + 1 := by
      rw [rank_succ_of_keep hkeep, h.channel.listeners.length]
    rw [if_pos hkeep] at hsubscribed
    exact .does (by rw [Deed.erase, if_pos hkeep, hnumber]) (.subscribe sub)
      ⟨hsubscribed, h.trace, h.calls⟩
  | false =>
    rw [hkeep] at hsubscribed
    exact .leaves (by simp [Deed.erase, hkeep]) ⟨hsubscribed, h.trace, h.calls⟩

theorem mirrored_release (h : Erased keep s t) (id : Nat) :
    Mirrored keep t (.release id) { s with channel := s.channel.release id } := by
  have hreleased := h.channel.release id
  cases hkeep : keep id with
  | true =>
    rw [if_pos hkeep] at hreleased
    exact .does (by rw [Deed.erase, if_pos hkeep]) (.release _) ⟨hreleased, h.trace, h.calls⟩
  | false =>
    rw [hkeep] at hreleased
    exact .leaves (by simp [Deed.erase, hkeep]) ⟨hreleased, h.trace, h.calls⟩

theorem mirrored_overtake (h : Erased keep s t) {before after : List Message}
    {e : ConnectionEvent} {m : Message}
    (hinbox : s.channel.inbox = before ++ .event e :: m :: after)
    (he : e.frame? = none) (hm : m.event? = none) : Mirrored keep t (.overtake e m)
      { s with channel := { s.channel with inbox := before ++ m :: .event e :: after } } := by
  have hovertaken := h.channel.overtake hinbox
  have hinbox' := h.channel.inbox
  rw [hinbox, List.filterMap_append, List.filterMap_cons_some (restrict_event e)] at hinbox'
  rw [List.filterMap_append] at hovertaken
  cases hrestrict : m.restrict keep with
  | some m' =>
    have hm' : m'.event? = none := by rw [event?_restrict hrestrict, hm]
    rw [List.filterMap_cons_some hrestrict] at hinbox'
    rw [List.filterMap_cons_some hrestrict, List.filterMap_cons_some (restrict_event e)]
      at hovertaken
    exact .does (by rw [Deed.erase, hrestrict, Option.map_some]) (.overtake hinbox' he hm')
      ⟨hovertaken, h.trace, h.calls⟩
  | none =>
    -- there is nothing here that could overtake
    rw [List.filterMap_cons_none hrestrict] at hinbox'
    rw [List.filterMap_cons_none hrestrict, List.filterMap_cons_some (restrict_event e),
      ← hinbox'] at hovertaken
    exact .leaves (by rw [Deed.erase, hrestrict, Option.map_none]) ⟨hovertaken, h.trace, h.calls⟩

/-- Every deed is mirrored. -/
theorem mirrored_of_does (h : Erased keep s t) (hd : Does s d s')
    (hpassive : ∀ id sub, d = .subscribe id sub → sub.Passive) : Mirrored keep t d s' := by
  rcases hd with @⟨a, connection, es, hstep⟩ | hinbox | sub | id | e | @⟨e, hopen⟩ |
    @⟨e, calls, hperm⟩ | @⟨entries, hperm⟩ | ⟨hinbox, he, hm⟩
  · rw [← h.channel.connection] at hstep
    exact .does rfl (.connection hstep) ⟨h.channel.act connection es, h.observe a, h.calls⟩
  · exact mirrored_take h hinbox
  · exact mirrored_subscribe h (hpassive _ sub rfl)
  · exact mirrored_release h id
  · exact .does rfl (.send e) ⟨h.channel.send e, h.trace, h.calls⟩
  · -- the connections are the same, and so is what is seen of them
    have hopen' : t.channel.state.isOpen := by
      rwa [state, h.channel.connection]
    exact .does rfl (.check hopen') ⟨h.channel, h.trace, congrArg (· ++ [e]) h.calls⟩
  · rw [← h.calls] at hperm
    exact .does rfl (.handOver hperm) ⟨h.channel.handOver e, h.trace, rfl⟩
  · have hperm' : (entries.filterMap (·.restrict keep)).Perm t.channel.fanout.entries := by
      rw [h.channel.entries]
      exact hperm.filterMap _
    have hstored : ∀ e ∈ entries, e.listener = e.id ∧ e.subscriber.Passive := fun e he =>
      h.channel.stored e (hperm.mem_iff.1 he)
    exact .does rfl (.rearrange hperm')
      ⟨h.channel.withFanout h.channel.termination rfl hstored, h.trace, h.calls⟩
  · exact mirrored_overtake h hinbox he hm

/-- A run without some subscriptions is a run. -/
theorem Run.erased (h : Run params fault w states s) (keep : Nat → Bool)
    (hpassive : ∀ id sub, .subscribe id sub ∈ w → sub.Passive) :
    ∃ t, Run params fault (w.filterMap (·.erase keep)) states t ∧ Erased keep s t := by
  induction h with
  | start => exact ⟨_, .start, erased_start keep params fault⟩
  | @step w states s s' d hrun hd ih =>
    obtain ⟨t, hrun', ht⟩ := ih fun id sub hsub => hpassive id sub (List.mem_append_left _ hsub)
    have hlast : ∀ id sub, d = .subscribe id sub → sub.Passive := by
      rintro id sub rfl
      exact hpassive id sub (by simp)
    rw [List.filterMap_append]
    rcases mirrored_of_does ht hd hlast with @⟨d', t', hd', hdoes, ht'⟩ | ⟨hnone, ht'⟩
    · refine ⟨t', ?_, ht'⟩
      have hstate : s'.channel.state = t'.channel.state := by
        rw [state, state, ht'.channel.connection]
      rw [List.filterMap_cons_some hd', hstate]
      exact hrun'.step hdoes
    · refine ⟨t, ?_, ht'⟩
      -- no state is to be seen but the last
      have hstate : s'.channel.state = t.channel.state := by
        rw [state, state, ht'.channel.connection]
      rw [List.filterMap_cons_none hnone, hstate, seeing, if_pos hrun'.getLast?]
      simpa using hrun'

/-- Subscriptions have no influence on the connection. Take any run of a channel whose
    subscribers only listen, and leave some subscriptions out of it, all or just one: the
    subscribing, every release, and what the hub does about these. What remains is a run of
    the channel in which the connection is in the same states, one after the other, reports
    the same events and writes the same frames; the channel has ended in the same way, if it
    has, and has counted the same, but for the subscribers. Whoever else has subscribed has
    been told the same, and is still subscribed or not as before. -/
theorem exists_run_erased (h : Run params fault w states s)
    (hpassive : ∀ id sub, .subscribe id sub ∈ w → sub.Passive) (keep : Nat → Bool) :
    ∃ t, Run params fault (w.filterMap (·.erase keep)) states t ∧
      t.channel.connection = s.channel.connection ∧
      t.trace.events = s.trace.events ∧ t.trace.writes = s.trace.writes ∧
      t.channel.fanout.termination = s.channel.fanout.termination ∧
      t.channel.statistics.delivered = s.channel.statistics.delivered ∧
      t.channel.statistics.malformed = s.channel.statistics.malformed ∧
      t.channel.statistics.sent = s.channel.statistics.sent ∧
      t.channel.statistics.droppedSends = s.channel.statistics.droppedSends ∧
      ∀ id, keep id → t.channel.listener? (rank keep id) = s.channel.listener? id := by
  obtain ⟨t, hrun, hchannel, htrace, -⟩ := h.erased keep hpassive
  have hdelivered := congrArg Statistics.delivered hchannel.statistics
  have hmalformed := congrArg Statistics.malformed hchannel.statistics
  have hsent := congrArg Statistics.sent hchannel.statistics
  have hdropped := congrArg Statistics.droppedSends hchannel.statistics
  exact ⟨t, hrun, hchannel.connection, congrArg Trace.events htrace, congrArg Trace.writes htrace,
    hchannel.termination, hdelivered, hmalformed, hsent, hdropped,
    fun id hid => hchannel.listener? hid⟩

/-- Two consumers listen to a frame that holds no envelope. -/
def listening : List Deed :=
  [.subscribe 1 {}, .subscribe 2 {}, .connection (.start 0), .connection (.connected none),
    .connection .handle, .connection (.received 0 (.frame "hi")), .connection .handle,
    .take (.subscribe 1 {}), .take (.subscribe 2 {}), .take (.event .opened),
    .take (.event (.frame "hi"))]

theorem run_listening : ∃ s,
    Run { url := "ws://host" } none listening [.idle, .connecting, .opened] s ∧
      s.channel.statistics.malformed = 1 ∧
      (s.channel.listener? 2).map (·.heard.length) = some 1 := by
  have hsubscribed : Run { url := "ws://host" } none _ _ _ :=
    (Run.start.step (.subscribe {})).step (.subscribe {})
  have hopened := ((hsubscribed.step (.connection (a := .start 0) rfl)).step
    (.connection (a := .connected none) rfl)).step (.connection (a := .handle) rfl)
  have hread := (hopened.step (.connection (a := .received 0 (.frame "hi")) rfl)).step
    (.connection (a := .handle) rfl)
  have htaken := (((hread.step (.take rfl)).step (.take rfl)).step (.take rfl)).step (.take rfl)
  exact ⟨_, htaken, rfl, rfl⟩

/-- Without the first, the second is the first, and hears the same. -/
theorem exists_run_erased_listening : ∃ t,
    Run { url := "ws://host" } none (listening.filterMap (·.erase (· ≠ 1)))
      [.idle, .connecting, .opened] t ∧ t.channel.statistics.malformed = 1 ∧
      (t.channel.listener? 1).map (·.heard.length) = some 1 := by
  obtain ⟨s, hrun, hmalformed, hheard⟩ := run_listening
  have hpassive : ∀ id sub, .subscribe id sub ∈ listening → sub.Passive := by
    intro id sub hsub
    simp only [listening, List.mem_cons, Deed.subscribe.injEq, List.not_mem_nil, or_false,
      reduceCtorEq] at hsub
    rcases hsub with ⟨-, rfl⟩ | ⟨-, rfl⟩ <;> exact fun _ => rfl
  obtain ⟨t, hrun', -, -, -, -, -, hmalformed', -, -, hlistener⟩ :=
    exists_run_erased hrun hpassive (· ≠ 1)
  have hlast : t.channel.listener? 1 = s.channel.listener? 2 := hlistener 2 rfl
  exact ⟨t, hrun', hmalformed'.trans hmalformed, hlast ▸ hheard⟩

end Scene

end PartyLine
