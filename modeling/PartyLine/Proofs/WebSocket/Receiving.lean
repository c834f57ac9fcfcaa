import Mathlib.Data.List.Basic
import PartyLine.Proofs.WebSocket.Socket

/-!
# Receiving

Of all that a WebSocket connection yields a transport receives the texts, until it closes, fails
or ends. A call takes one item after the other until one is of account, and may be given up
before; the next call goes on from where it was.

Nothing is asked of the connection: items come from any source that yields one at a time or has to
wait, and may change between two calls as it likes. A source that keeps account of what it has
yielded (`recorded`) answers as it would without, and its account says what a call has taken. A
call that may take so many items, given up and made again with so many more, is one call that
may take them all (`receive?_add`), so that giving up loses nothing. Over a whole use the answers
are then the items of account, in their order.

* `Item.Concludes`: what the end of a connection is to a transport;
* `recorded`, `receive?_recorded`: what a call does, told by the items that it takes;
* `receive?_add`: a call that is given up and made again is one call;
* `Client.receive_eq`: a transport waits for as many items as come;
* `Receiving`: the uses of a source of items;
* `receives_texts`: the answers are the texts before the end, and then the end.
-/

namespace PartyLine

namespace WebSocket

/-! ## Items -/

/-- The text that an item brings. -/
def Item.text? : Item → Option String
  | text value => some value
  | _ => none

/-- Whether it is over with an item, well or not. -/
def Item.isEnding : Item → Bool
  | close | failed _ | ended => true
  | _ => false

/-- What the end of a connection is to a transport: a failure, unless the connection was closed
    or has just ended. -/
inductive Item.Concludes : Item → Received → Prop
  | close : Concludes .close .ended
  | ended : Concludes .ended .ended
  | connectionClosed : Concludes (.failed .connectionClosed) .ended
  | alreadyClosed : Concludes (.failed .alreadyClosed) .ended
  | failed {e : Failure} : e ≠ .connectionClosed → e ≠ .alreadyClosed →
      Concludes (.failed e) (.failed e.toTransport)

theorem Item.received?_of_not_isEnding {i : Item} (h : i.isEnding = false) :
    i.received? = i.text?.map .frame := by
  cases i with
  | text | binary | ping | pong | raw => rfl
  | close | failed | ended => cases h

theorem Item.received?_of_isEnding {i : Item} (h : i.isEnding) :
    ∃ r, i.received? = some r ∧ i.Concludes r := by
  cases i with
  | text | binary | ping | pong | raw => cases h
  | close => exact ⟨_, rfl, .close⟩
  | ended => exact ⟨_, rfl, .ended⟩
  | failed e =>
    cases e with
    | connectionClosed => exact ⟨_, rfl, .connectionClosed⟩
    | alreadyClosed => exact ⟨_, rfl, .alreadyClosed⟩
    | _ => exact ⟨_, rfl, .failed (by simp) (by simp)⟩

/-! ## Calls -/

variable {σ : Type} {next? : σ → Option (Item × σ)} {s s' : σ} {fuel : Nat}

theorem receive?_waiting (h : next? s = none) : receive? next? (fuel + 1) s = (none, s) := by
  simp only [receive?, h]

theorem receive?_passed {i : Item} (h : next? s = some (i, s')) (hi : i.received? = none) :
    receive? next? (fuel + 1) s = receive? next? fuel s' := by
  simp only [receive?, h, hi]

theorem receive?_taken {i : Item} {r : Received} (h : next? s = some (i, s'))
    (hi : i.received? = some r) : receive? next? (fuel + 1) s = (some r, s') := by
  simp only [receive?, h, hi]

/-- A source that keeps account of what it has yielded. -/
def recorded (next? : σ → Option (Item × σ)) (p : σ × List Item) :
    Option (Item × σ × List Item) :=
  (next? p.1).map fun q => (q.1, q.2, p.2 ++ [q.1])

/-- Keeping account changes nothing. Of what a call takes, no item is of account but the one that
    is its answer; a call without an answer has left the source waiting, or has taken as many
    items as it was allowed to. -/
theorem receive?_recorded (next? : σ → Option (Item × σ)) (fuel : Nat) (s : σ)
    (items : List Item) : ∃ r s' more,
    receive? (recorded next?) fuel (s, items) = (r, s', items ++ more) ∧
    receive? next? fuel s = (r, s') ∧ more.filterMap Item.received? = r.toList ∧
    (r = none → next? s' = none ∨ more.length = fuel) := by
  induction fuel generalizing s items with
  | zero => exact ⟨none, s, [], by rw [List.append_nil]; rfl, rfl, rfl, fun _ => .inr rfl⟩
  | succ fuel ih =>
    cases h : next? s with
    | none =>
      have hrecorded : recorded next? (s, items) = none := by simp [recorded, h]
      refine ⟨none, s, [], ?_, receive?_waiting h, rfl, fun _ => .inl h⟩
      rw [List.append_nil]
      exact receive?_waiting hrecorded
    | some p =>
      obtain ⟨i, t⟩ := p
      have hrecorded : recorded next? (s, items) = some (i, t, items ++ [i]) := by
        simp [recorded, h]
      cases hi : i.received? with
      | some r => exact ⟨some r, t, [i], receive?_taken hrecorded hi, receive?_taken h hi,
          by simp [hi], by simp⟩
      | none =>
        obtain ⟨r, s', more, hcall, hreceive, hmore, hnone⟩ := ih t (items ++ [i])
        refine ⟨r, s', i :: more, ?_, (receive?_passed h hi).trans hreceive, by simp [hi, hmore],
          fun hr => (hnone hr).imp_right fun hlength => by simp [hlength]⟩
        rw [receive?_passed hrecorded hi, hcall, List.append_assoc]
        rfl

/-- A call that is given up after some items and made again is one call. -/
theorem receive?_add (m n : Nat) (s : σ) : receive? next? (m + n) s =
    if (receive? next? m s).1 = none then receive? next? n (receive? next? m s).2
    else receive? next? m s := by
  induction m generalizing s with
  | zero =>
    rw [Nat.zero_add]
    rfl
  | succ m ih =>
    rw [Nat.succ_add]
    cases h : next? s with
    | none =>
      rw [receive?_waiting h, receive?_waiting h, if_pos rfl]
      cases n with
      | zero => rfl
      | succ n => rw [receive?_waiting h]
    | some p =>
      obtain ⟨i, t⟩ := p
      cases hi : i.received? with
      | some r =>
        rw [receive?_taken h hi, receive?_taken h hi]
        rfl
      | none => rw [receive?_passed h hi, receive?_passed h hi, ih]

/-- A call that may take more items than the source can yield to be passed over is answered,
    unless it waits. -/
theorem receive?_waits {m : σ → Nat} (hless : ∀ {s i s'}, next? s = some (i, s') →
    i.received? = none → m s' < m s) (hfuel : m s < fuel)
    (hnone : (receive? next? fuel s).1 = none) : next? (receive? next? fuel s).2 = none := by
  induction fuel generalizing s with
  | zero => omega
  | succ fuel ih =>
    cases h : next? s with
    | none =>
      rw [receive?_waiting h]
      exact h
    | some p =>
      obtain ⟨i, t⟩ := p
      cases hi : i.received? with
      | some r =>
        rw [receive?_taken h hi] at hnone
        cases hnone
      | none =>
        have hpassed := hless h hi
        rw [receive?_passed h hi] at hnone ⊢
        exact ih (by omega) hnone

/-- What is passed over takes some of what has come. -/
theorem Socket.next?_passed {t t' : Socket} {i : Item} (h : t.next? = some (i, t'))
    (hi : i.received? = none) : t'.inbound.length < t.inbound.length := by
  refine next?_inbound h ?_ fun e => ?_
  · rintro rfl
    cases hi
  · rintro rfl
    obtain ⟨r, hr, -⟩ := (Item.failed e).received?_of_isEnding rfl
    rw [hi] at hr
    cases hr

/-- On a connection a transport's call is one that may take any number of items, from some number
    on: it is answered unless the socket has nothing more to yield for now. -/
theorem Client.receive_eq {c : Client} {t : Socket} (h : c.socket = some t)
    (hfuel : t.inbound.length + 2 ≤ fuel) :
    c.receive = ((receive? Socket.next? fuel t).1,
      { c with socket := some (receive? Socket.next? fuel t).2 }) ∧
    ((receive? Socket.next? fuel t).1 = none →
      (receive? Socket.next? fuel t).2.next? = none) := by
  have hwaits : (receive? Socket.next? (t.inbound.length + 2) t).1 = none →
      (receive? Socket.next? (t.inbound.length + 2) t).2.next? = none :=
    receive?_waits (m := fun t => t.inbound.length) Socket.next?_passed (by omega)
  obtain ⟨n, rfl⟩ := Nat.exists_eq_add_of_le hfuel
  have hstable : receive? Socket.next? (t.inbound.length + 2 + n) t =
      receive? Socket.next? (t.inbound.length + 2) t := by
    rw [receive?_add]
    split
    · next hnone =>
      cases n with
      | zero => exact Prod.ext hnone.symm rfl
      | succ n =>
        rw [receive?_waiting (hwaits hnone)]
        exact Prod.ext hnone.symm rfl
    · rfl
  rw [hstable]
  refine ⟨?_, hwaits⟩
  simp only [Client.receive, h]

/-! ## Uses of a source -/

/-- The uses of a source of items, with the items that it has yielded and the answers that were
    given. -/
inductive Receiving (next? : σ → Option (Item × σ)) : σ → List Item → List Received → Prop
  | new (s : σ) : Receiving next? s [] []
  /-- A call, given up after some items if it has not come to an answer before. -/
  | call {s s' : σ} {items items' : List Item} {answers : List Received} {r : Option Received}
      (fuel : Nat) : Receiving next? s items answers →
      receive? (recorded next?) fuel (s, items) = (r, s', items') →
      Receiving next? s' items' (answers ++ r.toList)
  /-- Between two calls something may come, or be sent. -/
  | change {s : σ} {items : List Item} {answers : List Received} (s' : σ) :
      Receiving next? s items answers → Receiving next? s' items answers

variable {items : List Item} {answers : List Received}

/-- An answer is given for each item of account, in their order. -/
theorem Receiving.answers_eq (h : Receiving next? s items answers) :
    answers = items.filterMap Item.received? := by
  induction h with
  | new => rfl
  | @call s s' items items' answers r fuel _ hcall ih =>
    obtain ⟨r', t, more, hcall', -, hmore, -⟩ := receive?_recorded next? fuel s items
    rw [hcall'] at hcall
    cases hcall
    rw [List.filterMap_append, hmore, ih]
  | change _ _ ih => exact ih

/-- Before the end only texts are of account. -/
theorem filterMap_received? (h : ∀ i ∈ items, i.isEnding = false) :
    items.filterMap Item.received? = (items.filterMap Item.text?).map .frame := by
  rw [List.map_filterMap]
  exact List.filterMap_congr fun i hi => i.received?_of_not_isEnding (h i hi)

/-- Whatever a connection yields and whenever a call is given up and made again, the answers are
    the texts, in their order and each once, for as long as it is not over; and where it is, the
    next answer is what its end comes to. Nothing else is of account, however much of it comes in
    a row: a call without an answer leaves the source waiting, or was given up after so many
    items, and making it again goes on from there. A transport that is connected makes such calls
    of its socket, and gives none of them up while the socket has more to yield. -/
theorem receives_texts (h : Receiving next? s items answers) :
    ((∀ i ∈ items, i.isEnding = false) → answers = (items.filterMap Item.text?).map .frame) ∧
    (∀ before e after, items = before ++ e :: after → (∀ i ∈ before, i.isEnding = false) →
      e.isEnding → ∃ r later, e.Concludes r ∧
        answers = (before.filterMap Item.text?).map .frame ++ r :: later) ∧
    (∀ fuel r s' items', receive? (recorded next?) fuel (s, items) = (r, s', items') →
      receive? next? fuel s = (r, s') ∧
      (r = none → next? s' = none ∨ items'.length = items.length + fuel)) ∧
    (∀ m n, receive? next? (m + n) s =
      if (receive? next? m s).1 = none then receive? next? n (receive? next? m s).2
      else receive? next? m s) ∧
    ∀ (c : Client) (t : Socket), c.socket = some t → ∀ fuel, t.inbound.length + 2 ≤ fuel →
      c.receive = ((receive? Socket.next? fuel t).1,
        { c with socket := some (receive? Socket.next? fuel t).2 }) ∧
      ((receive? Socket.next? fuel t).1 = none →
        (receive? Socket.next? fuel t).2.next? = none) := by
  have hanswers := h.answers_eq
  refine ⟨fun hlive => ?_, ?_, fun fuel r s' items' hcall => ?_, fun m n => receive?_add m n s,
    fun c t hc fuel hfuel => Client.receive_eq hc hfuel⟩
  · rw [hanswers, filterMap_received? hlive]
  · rintro before e after rfl hbefore hend
    obtain ⟨r, hr, hconcludes⟩ := e.received?_of_isEnding hend
    refine ⟨r, after.filterMap Item.received?, hconcludes, ?_⟩
    rw [hanswers, List.filterMap_append, filterMap_received? hbefore, List.filterMap_cons, hr]
  · obtain ⟨r', t, more, hcall', hreceive, -, hnone⟩ :=
      receive?_recorded next? fuel s items
    rw [hcall'] at hcall
    cases hcall
    refine ⟨hreceive, fun hr => (hnone hr).imp_right fun hlength => ?_⟩
    rw [List.length_append, hlength]

/-- A source that has so many items ready. -/
def ready : List Item → Option (Item × List Item)
  | [] => none
  | i :: is => some (i, is)

/-- A call is given up while it passes over what is of no account, and made again; more comes
    meanwhile, and a failure after it is the end. -/
theorem receives_texts_given_up : ∃ s,
    Receiving ready s [.binary [0], .ping [], .text "a", .pong [], .text "b", .failed .utf8]
      [.frame "a", .frame "b", .failed Failure.utf8.toTransport] ∧
    ∃ r later, Item.Concludes (.failed .utf8) r ∧
      [Received.frame "a", .frame "b", .failed Failure.utf8.toTransport] =
        ["a", "b"].map .frame ++ r :: later := by
  have hnew : Receiving ready [.binary [0], .ping []] [] [] := .new _
  have hgivenUp := hnew.call (r := none) 1 rfl
  have hmore := hgivenUp.change [.ping [], .text "a", .pong []]
  have hfirst := hmore.call 9 rfl
  have hwaiting := hfirst.call (r := none) 9 rfl
  have hsecond := (hwaiting.change [.text "b", .failed .utf8, .text "late"]).call 9 rfl
  have hfailed := hsecond.call 9 rfl
  obtain ⟨-, hends, -⟩ := receives_texts hfailed
  exact ⟨_, hfailed, hends [.binary [0], .ping [], .text "a", .pong [], .text "b"] (.failed .utf8)
    [] rfl (by decide) rfl⟩

end WebSocket

end PartyLine
