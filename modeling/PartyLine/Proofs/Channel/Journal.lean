import PartyLine.Proofs.Channel.Report

/-!
# Journals

What the journal of a channel says of its hub and of each subscription: the
events, frames and messages that the hub has taken, the end among them, and what
the subscription has been told.

Whatever is to be known of the past of a channel is a filter of its journal: a list of what kind of
happening, in order. Since the journal grows at its end, each of these views has a lemma for one
happening and one for what is appended, and all that is proved about them comes down to these.

* `framesTaken`, `ended`: what the hub has taken of the connection's report;
* `subscriptions`, `arrivals`: who has subscribed, and whose message the hub has
  taken;
* `toldTo`: the notes told to a subscription.
-/

namespace PartyLine

namespace Channel

/-! ## What a journal says -/

/-- The event that the hub takes. -/
def Happening.event? : Happening → Option ConnectionEvent
  | took (.event e) => some e
  | _ => none

/-- The subscription whose message the hub takes. -/
def Happening.arrival? : Happening → Option (Nat × Subscriber)
  | took (.subscribe id s) => some (id, s)
  | _ => none

/-- The subscription that is made. -/
def Happening.subscription? : Happening → Option (Nat × Subscriber)
  | subscribed id s => some (id, s)
  | _ => none

/-- The envelope that is handed to the connection. -/
def Happening.sent? : Happening → Option Envelope
  | sent e => some e
  | _ => none

/-- The note told to a subscription. -/
def Happening.note? (id : Nat) : Happening → Option Note
  | told i n => if i = id then some n else none
  | _ => none

/-- The events that the hub has taken. -/
def eventsTaken (J : List Happening) : List ConnectionEvent := J.filterMap Happening.event?

/-- The frames that the hub has taken. -/
def framesTaken (J : List Happening) : List String := framesOf (eventsTaken J)

/-- How the channel has ended, as far as the hub has taken it. -/
def ended (J : List Happening) : Option Termination := endOf (eventsTaken J)

/-- The subscriptions whose messages the hub has taken. -/
def arrivals (J : List Happening) : List (Nat × Subscriber) := J.filterMap Happening.arrival?

/-- The subscriptions that have been made. -/
def subscriptions (J : List Happening) : List (Nat × Subscriber) :=
  J.filterMap Happening.subscription?

/-- The envelopes handed to the connection. -/
def sentIn (J : List Happening) : List Envelope := J.filterMap Happening.sent?

/-- The notes told to a subscription. -/
def toldTo (id : Nat) (J : List Happening) : List Note := J.filterMap (Happening.note? id)

/-- Whether a subscription has been released. -/
def Released (id : Nat) (J : List Happening) : Prop := ∃ caller, .released id caller ∈ J

/-- Whether the hub has cleared the flag of a subscription. -/
def Dismissed (id : Nat) (J : List Happening) : Prop := .dismissed id ∈ J

section Views

variable (id : Nat) (J K : List Happening) (x : Happening)

@[simp] theorem eventsTaken_nil : eventsTaken [] = [] := rfl

@[simp] theorem eventsTaken_cons : eventsTaken (x :: J) = x.event?.toList ++ eventsTaken J := by
  rw [eventsTaken, List.filterMap_cons]
  cases x.event? <;> rfl

@[simp] theorem eventsTaken_append : eventsTaken (J ++ K) = eventsTaken J ++ eventsTaken K :=
  List.filterMap_append

/-- Where the hub takes no message, it takes no event. -/
theorem eventsTaken_of_not_took {J : List Happening} (h : ∀ m, .took m ∉ J) :
    eventsTaken J = [] := by
  refine List.filterMap_eq_nil_iff.2 fun x hx => ?_
  cases x with
  | took m => exact absurd hx (h m)
  | _ => rfl

@[simp] theorem framesTaken_nil : framesTaken [] = [] := rfl

@[simp] theorem framesTaken_cons :
    framesTaken (x :: J) = (x.event?.bind (·.frame?)).toList ++ framesTaken J := by
  rw [framesTaken, eventsTaken_cons]
  cases x.event? with
  | none => rfl
  | some e => cases h : e.frame? <;> simp [framesTaken, framesOf, h]

@[simp] theorem framesTaken_append : framesTaken (J ++ K) = framesTaken J ++ framesTaken K := by
  simp [framesTaken, framesOf]

@[simp] theorem ended_nil : ended [] = none := rfl

@[simp] theorem ended_cons : ended (x :: J) = (x.event?.bind (·.end?)).or (ended J) := by
  rw [ended, eventsTaken_cons]
  cases x.event? with
  | none => rfl
  | some e => cases h : e.end? <;> simp [ended, endOf, h]

@[simp] theorem ended_append : ended (J ++ K) = (ended J).or (ended K) := by
  simp [ended, endOf]

@[simp] theorem arrivals_nil : arrivals [] = [] := rfl

@[simp] theorem arrivals_cons : arrivals (x :: J) = x.arrival?.toList ++ arrivals J := by
  rw [arrivals, List.filterMap_cons]
  cases x.arrival? <;> rfl

@[simp] theorem arrivals_append : arrivals (J ++ K) = arrivals J ++ arrivals K :=
  List.filterMap_append

@[simp] theorem subscriptions_nil : subscriptions [] = [] := rfl

@[simp] theorem subscriptions_cons :
    subscriptions (x :: J) = x.subscription?.toList ++ subscriptions J := by
  rw [subscriptions, List.filterMap_cons]
  cases x.subscription? <;> rfl

@[simp] theorem subscriptions_append :
    subscriptions (J ++ K) = subscriptions J ++ subscriptions K :=
  List.filterMap_append

@[simp] theorem sentIn_nil : sentIn [] = [] := rfl

@[simp] theorem sentIn_cons : sentIn (x :: J) = x.sent?.toList ++ sentIn J := by
  rw [sentIn, List.filterMap_cons]
  cases x.sent? <;> rfl

@[simp] theorem sentIn_append : sentIn (J ++ K) = sentIn J ++ sentIn K := List.filterMap_append

@[simp] theorem toldTo_nil : toldTo id [] = [] := rfl

@[simp] theorem toldTo_cons : toldTo id (x :: J) = (x.note? id).toList ++ toldTo id J := by
  rw [toldTo, List.filterMap_cons]
  cases x.note? id <;> rfl

@[simp] theorem toldTo_append : toldTo id (J ++ K) = toldTo id J ++ toldTo id K :=
  List.filterMap_append

@[simp] theorem not_released_nil : ¬Released id [] := nofun

@[simp] theorem released_cons :
    Released id (x :: J) ↔ (∃ caller, .released id caller = x) ∨ Released id J := by
  simp [Released, exists_or]

@[simp] theorem released_append : Released id (J ++ K) ↔ Released id J ∨ Released id K := by
  simp [Released, exists_or]

@[simp] theorem not_dismissed_nil : ¬Dismissed id [] := nofun

@[simp] theorem dismissed_cons : Dismissed id (x :: J) ↔ .dismissed id = x ∨ Dismissed id J :=
  List.mem_cons

@[simp] theorem dismissed_append : Dismissed id (J ++ K) ↔ Dismissed id J ∨ Dismissed id K :=
  List.mem_append

attribute [simp] Happening.event? Happening.arrival? Happening.subscription? Happening.sent?
  Happening.note? ConnectionEvent.end? ConnectionEvent.frame?

end Views

end Channel

end PartyLine
