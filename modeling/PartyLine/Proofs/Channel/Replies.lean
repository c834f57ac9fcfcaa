import PartyLine.Proofs.Channel.Hub
import PartyLine.Proofs.Channel.Turn

/-!
# Replies

What subscribers ask for from inside their callbacks. A callback answers by all that its
subscription has been told, so that the journal says what it has asked for. Of what it asks
for, each envelope to send is one call to send, and is counted as one.

For this a listener must have heard what its subscription was told, and the subscriber whose
callbacks are run must be the one that subscribed; in a sound channel both are so (`Known`), and
they stay so while others are told. In a round the calls that are counted and the requests found
in the journal then grow together, callback by callback.

* `Happening.requests`, `requestsIn`: what the callbacks in a journal have asked for;
* `Known`: a subscription whose callbacks answer as the journal says;
* `unasked`: the calls to send that have been counted and that no callback has made;
* `Sound.unasked_take`: in the hub's turns nobody else makes any.
-/

namespace PartyLine

/-- Whether a request is to send. -/
def Request.isSend : Request → Bool
  | send _ => true
  | _ => false

namespace Channel

/-- What is asked for by a callback, given all that has happened before. -/
def Happening.requests (before : List Happening) : Happening → List Request
  | told id n => ((subscriptions before).lookup id).elim [] (·.respond (toldTo id before ++ [n]))
  | _ => []

/-- What callbacks have asked for in the journal that goes on from another. -/
def requestsAfter (before : List Happening) : List Happening → List Request
  | [] => []
  | x :: xs => x.requests before ++ requestsAfter (before ++ [x]) xs

/-- What the callbacks in a journal have asked for. -/
def requestsIn (J : List Happening) : List Request := requestsAfter [] J

theorem requestsAfter_append (before J K : List Happening) :
    requestsAfter before (J ++ K) = requestsAfter before J ++ requestsAfter (before ++ J) K := by
  induction J generalizing before with
  | nil => simp [requestsAfter]
  | cons x J ih => simp [requestsAfter, ih]

theorem requestsIn_append (J K : List Happening) :
    requestsIn (J ++ K) = requestsIn J ++ requestsAfter J K :=
  requestsAfter_append [] J K

/-- Only callbacks ask for anything. -/
theorem requestsAfter_eq_nil {J K : List Happening} (h : ∀ id n, .told id n ∉ K) :
    requestsAfter J K = [] := by
  induction K generalizing J with
  | nil => rfl
  | cons x K ih =>
    rw [requestsAfter, ih fun id n hmem => h id n (List.mem_cons_of_mem x hmem)]
    cases x with
    | told id n => exact absurd List.mem_cons_self (h id n)
    | _ => rfl

variable {c c' : Channel} {id : Nat} {s : Subscriber}

/-! ## Who is known -/

/-- A subscription that the journal knows: who subscribed, and all that was told. -/
structure Known (id : Nat) (s : Subscriber) (c : Channel) : Prop where
  subscribed : (subscriptions c.journal).lookup id = some s
  heard : (c.listener? id).map (·.heard) = some (toldTo id c.journal)

/-- Whoever is known stays known while the journal goes on and nothing is heard. -/
theorem Known.congr (h : Known id s c) (xs : List Happening)
    (hjournal : c'.journal = c.journal ++ xs) (hxs : ∀ i n, .told i n ∉ xs)
    (hheard : (c'.listener? id).map (·.heard) = (c.listener? id).map (·.heard)) :
    Known id s c' := by
  have hnone : toldTo id xs = [] := by
    refine List.filterMap_eq_nil_iff.2 fun x hx => ?_
    cases x with
    | told i n => exact absurd hx (hxs i n)
    | _ => rfl
  refine ⟨?_, ?_⟩
  · rw [hjournal, subscriptions_append, List.lookup_append, h.subscribed]
    rfl
  · rw [hheard, h.heard, hjournal, toldTo_append, hnone, List.append_nil]

/-- A note that is told comes into the journal as it is heard. -/
theorem Known.hear (h : Known id s c) (i : Nat) (n : Note) : Known id s (c.hear i n) := by
  have hjournal : (c.hear i n).journal = c.journal ++ [.told i n] := (extends_hear c i n).journal
  obtain ⟨l, hl, hheard⟩ := Option.map_eq_some_iff.1 h.heard
  refine ⟨?_, ?_⟩
  · rw [hjournal, subscriptions_append, List.lookup_append, h.subscribed]
    rfl
  · rw [hjournal, listener?_hear, hl, toldTo_append, ← hheard]
    split
    · next hid => simp [hid]
    · next hid => simp [Ne.symm hid]

theorem Known.dismiss (h : Known id s c) (i : Nat) : Known id s (c.dismiss i) := by
  refine h.congr _ (extends_dismiss c i).journal (by simp) ?_
  rw [listener?_dismiss]
  split <;> cases c.listener? id <;> rfl

theorem Known.release (h : Known id s c) (i : Nat) (caller : Option Nat) :
    Known id s (c.release i caller) := by
  obtain ⟨xs, ms, hextends, hxs, -⟩ := extends_release c i caller
  exact h.congr xs hextends.journal (fun j n hmem => by cases hxs _ hmem) (map_heard_release ..)

theorem Known.subscribe (h : Known id s c) (s' : Subscriber) : Known id s (c.subscribe s').2 := by
  obtain ⟨l, hl, -⟩ := Option.map_eq_some_iff.1 h.heard
  have hne : id ≠ c.listeners.length + 1 := by
    rintro rfl
    simp [listener?] at hl
  refine h.congr [.subscribed (c.listeners.length + 1) s'] rfl (by simp) ?_
  rw [listener?_subscribe, if_neg hne]

theorem Known.count (h : Known id s c) (g : Statistics → Statistics) : Known id s (c.count g) :=
  h.congr [] (List.append_nil _).symm (by simp) (by rw [listener?_count])

theorem Known.send (h : Known id s c) (e : Envelope) : Known id s (c.send e) := by
  unfold Channel.send
  split
  · exact h.congr [.sent e] rfl (by simp) (by rw [listener?_handOver])
  · exact h.count fun st => { st with droppedSends := st.droppedSends + 1 }

/-- Whatever a subscriber asks for, those who are known stay so. -/
theorem Known.grant (h : Known id s c) (i : Nat) (q : Request) : Known id s (c.grant i q) := by
  cases q with
  | leave => exact h.release i _
  | release other => exact h.release other _
  | send e => exact h.send e
  | subscribe s' => exact h.subscribe s'

theorem Known.tell (h : Known id s c) (i : Nat) (s' : Subscriber) (n : Note) :
    Known id s (host.tell i s' n c) :=
  tell_keeps (fun h => h.hear i n) (fun _ q h => h.grant i q) h

/-- A sound channel knows all who have subscribed. -/
theorem Sound.known {t : Trace} {r : Round} (h : Sound t r c)
    (hs : (id, s) ∈ subscriptions c.journal) : Known id s c := by
  refine ⟨?_, ?_⟩
  · obtain ⟨before, after, heq⟩ := List.append_of_mem hs
    have hnodup := h.subscriptions_nodup
    refine List.lookup_eq_some_iff.2 ⟨before, after, heq, fun p hp => ?_⟩
    rw [heq, List.map_append, List.nodup_append] at hnodup
    simpa using Ne.symm (hnodup.2.2 p.1 (List.mem_map_of_mem hp) id (by simp))
  · cases hl : c.listener? id with
    | some l => rw [Option.map_some, h.heard id l hl]
    | none =>
      -- nothing would be known of its number
      obtain ⟨a, ha, hunknown⟩ := h.unknown (show c.flag? id = none by simp [flag?, hl])
      obtain ⟨-, hfits⟩ := fits_of_account ha
      rw [hunknown] at hfits
      cases hfits with
      | unknown hnone => exact absurd hs (hnone s)

/-! ## Calls to send -/

/-- The calls to send that have been counted, less those that callbacks have asked for. -/
def unasked (c : Channel) : Int :=
  c.statistics.sent + c.statistics.droppedSends - (requestsIn c.journal).countP (·.isSend)

/-- Whatever happens beside callbacks and sending leaves the calls as they are. -/
theorem unasked_congr (xs : List Happening) (hjournal : c'.journal = c.journal ++ xs)
    (hxs : ∀ i n, .told i n ∉ xs) (hsent : c'.statistics.sent = c.statistics.sent)
    (hdropped : c'.statistics.droppedSends = c.statistics.droppedSends) :
    c'.unasked = c.unasked := by
  rw [unasked, unasked, hjournal, requestsIn_append, requestsAfter_eq_nil hxs, List.append_nil,
    hsent, hdropped]

theorem unasked_handOver (c : Channel) (e : Envelope) :
    (c.handOver e).unasked = c.unasked + 1 := by
  have hrequests : requestsIn (c.handOver e).journal = requestsIn c.journal := by
    show requestsIn (c.journal ++ [.sent e]) = _
    rw [requestsIn_append, requestsAfter_eq_nil (by simp), List.append_nil]
  have hsent : (c.handOver e).statistics.sent = c.statistics.sent + 1 := rfl
  have hdropped : (c.handOver e).statistics.droppedSends = c.statistics.droppedSends := rfl
  rw [unasked, unasked, hrequests, hsent, hdropped]
  omega

/-- A call to send is counted in one way or the other. -/
theorem unasked_send (c : Channel) (e : Envelope) : (c.send e).unasked = c.unasked + 1 := by
  unfold Channel.send
  split
  · exact unasked_handOver c e
  · simp only [unasked]
    omega

theorem unasked_release (c : Channel) (i : Nat) (caller : Option Nat) :
    (c.release i caller).unasked = c.unasked := by
  obtain ⟨xs, ms, hextends, hxs, -⟩ := extends_release c i caller
  exact unasked_congr xs hextends.journal (fun j n hmem => by cases hxs _ hmem)
    (by rw [hextends.statistics]) (by rw [hextends.statistics])

theorem unasked_subscribe (c : Channel) (s : Subscriber) : (c.subscribe s).2.unasked = c.unasked :=
  unasked_congr [.subscribed (c.listeners.length + 1) s] rfl (by simp) rfl rfl

/-- Of what is asked for, envelopes to send are calls to send. -/
theorem unasked_grant (c : Channel) (i : Nat) (q : Request) :
    (c.grant i q).unasked = c.unasked + if q.isSend then 1 else 0 := by
  cases q with
  | leave => exact (unasked_release c i _).trans (Int.add_zero _).symm
  | release other => exact (unasked_release c other _).trans (Int.add_zero _).symm
  | send e => exact unasked_send c e
  | subscribe s => exact (unasked_subscribe c s).trans (Int.add_zero _).symm

/-- A callback makes the calls that it asks for. -/
theorem unasked_tell (h : Known id s c) (n : Note) : (host.tell id s n c).unasked = c.unasked := by
  have grants (qs : List Request) (c : Channel) :
      (qs.foldl (fun c q => c.grant id q) c).unasked = c.unasked + qs.countP (·.isSend) := by
    induction qs generalizing c with
    | nil => simp
    | cons q qs ih =>
      rw [List.foldl_cons, ih, unasked_grant, List.countP_cons]
      split <;> omega
  have hextends := extends_hear c id n
  obtain ⟨l, hl, hheard⟩ := Option.map_eq_some_iff.1 h.heard
  have hl' : (c.hear id n).listener? id = some { l with heard := l.heard ++ [n] } := by
    rw [listener?_hear, if_pos rfl, hl]
    rfl
  -- the journal says that it has asked for just what is granted
  have hhear : (c.hear id n).unasked =
      c.unasked - (s.respond (toldTo id c.journal ++ [n])).countP (·.isSend) := by
    rw [unasked, unasked, hextends.statistics, hextends.journal, requestsIn_append]
    simp only [requestsAfter, Happening.requests, h.subscribed, Option.elim, List.append_nil,
      List.countP_append]
    omega
  unfold Host.tell
  split
  · simp only [host, tell]
    rw [grants, hl', hhear]
    simp only [Option.elim, hheard]
    omega
  · rfl

theorem unasked_dismiss (c : Channel) (i : Nat) : (c.dismiss i).unasked = c.unasked := by
  have hextends := extends_dismiss c i
  exact unasked_congr _ hextends.journal (by simp) (by rw [hextends.statistics])
    (by rw [hextends.statistics])

/-- Whatever else is counted is no call. -/
theorem unasked_count (c : Channel) {g : Statistics → Statistics} (hsent : ∀ s, (g s).sent = s.sent)
    (hdropped : ∀ s, (g s).droppedSends = s.droppedSends) : (c.count g).unasked = c.unasked :=
  unasked_congr [] (List.append_nil _).symm (by simp) (hsent _) (hdropped _)

section Rounds

variable {es : List Fanout.Entry} (h : ∀ e ∈ es, Known e.listener e.subscriber c)

include h

/-- In a round, callbacks make the calls that they ask for. -/
theorem unasked_tellAll (n : Note) : (Fanout.tellAll host n es c).2.unasked = c.unasked := by
  have hround : (Fanout.tellAll host n es c).2.unasked = c.unasked ∧ ∀ e ∈ es,
      Known e.listener e.subscriber (Fanout.tellAll host n es c).2 := by
    refine tellAll_keeps (P := fun d => d.unasked = c.unasked ∧ ∀ e ∈ es,
      Known e.listener e.subscriber d) (fun d e he _ hd => ?_) ⟨rfl, h⟩
    obtain ⟨hunasked, hknown⟩ := hd
    exact ⟨(unasked_tell (hknown e he) n).trans hunasked, fun e' he' => (hknown e' he').tell _ _ _⟩
  exact hround.1

theorem unasked_finishAll (t : Termination) :
    (Fanout.finishAll host t es c).2.unasked = c.unasked := by
  have hround : (Fanout.finishAll host t es c).2.unasked = c.unasked ∧ ∀ e ∈ es,
      Known e.listener e.subscriber (Fanout.finishAll host t es c).2 := by
    refine finishAll_keeps (P := fun d => d.unasked = c.unasked ∧ ∀ e ∈ es,
      Known e.listener e.subscriber d) (fun d e he _ hd => ?_) ⟨rfl, h⟩
    obtain ⟨hunasked, hknown⟩ := hd
    refine ⟨?_, fun e' he' => ((hknown e' he').dismiss _).tell _ _ _⟩
    rw [unasked_tell ((hknown e he).dismiss _), unasked_dismiss, hunasked]
  exact hround.1

end Rounds

/-- In the hub's turns, callbacks make the calls that they ask for, and nobody makes others. -/
theorem Sound.unasked_take {t : Trace} {m : Message} {rest : List Message}
    (h : Sound t (.idle c) c) (hemptied : c.fanout.Emptied) (hinbox : c.inbox = m :: rest) :
    ((c.taking m rest c.fanout).handle m).unasked = c.unasked := by
  have htaking : (c.taking m rest c.fanout).unasked = c.unasked :=
    unasked_congr [.took m] rfl (by simp) rfl rfl
  have known {id : Nat} {s : Subscriber} (hs : (id, s) ∈ subscriptions c.journal) :
      Known id s (c.taking m rest c.fanout) :=
    (h.known hs).congr [.took m] rfl (by simp) (by cases id <;> rfl)
  have hstored (e : Fanout.Entry) (he : e ∈ c.fanout.entries) :
      Known e.listener e.subscriber (c.taking m rest c.fanout) := by
    obtain ⟨hlistener, harr⟩ := h.entries e (.inl he)
    rw [hlistener]
    refine known ?_
    rw [h.subscribed]
    exact List.mem_append_left _ harr
  have hhandling := handling (c := c.taking m rest c.fanout) hemptied m
  rw [← htaking]
  generalize (c.taking m rest c.fanout).handle m = c' at hhandling
  cases hhandling with
  | drop | absent | opened => rfl
  | store | remove =>
    exact unasked_congr [] (List.append_nil _).symm (by simp) rfl rfl
  | @late id s t' =>
    have hwaits : (id, s) ∈ subscriptions c.journal := by
      rw [h.subscribed, hinbox]
      simp [Message.subscription?]
    rw [unasked_tell ((known hwaits).dismiss id), unasked_dismiss]
  | decoded =>
    exact (unasked_count _ (fun _ => rfl) fun _ => rfl).trans (unasked_tellAll hstored _)
  | malformed =>
    refine (unasked_tellAll (fun e he => (hstored e he).count _) _).trans ?_
    exact unasked_count _ (fun _ => rfl) fun _ => rfl
  | @ended e t' =>
    refine Eq.trans ?_ (unasked_finishAll hstored t')
    exact unasked_congr [] (List.append_nil _).symm (by simp) rfl rfl

end Channel

end PartyLine
