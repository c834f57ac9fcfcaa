import PartyLine.Channel

/-!
# Fields of a channel

What the small operations change of a channel: an inbox or a journal grows at its end, a
flag is cleared, a listener hears a note, and all else stays as it is.

* `flag?`: the flag behind a handle;
* `Extends`: what changes by happenings that concern one subscription;
* `tellAll_keeps`, `finishAll_keeps`: what every callback keeps is kept by a round.
-/

namespace PartyLine

namespace Channel

/-- The flag behind a handle. -/
def flag? (c : Channel) (id : Nat) : Option Bool := (c.listener? id).map (·.active)

section Fields

variable (c : Channel) (m : Message) (x : Happening) (id i : Nat) (g : Listener → Listener)

@[simp] theorem listener?_post : (c.post m).listener? i = c.listener? i := by cases i <;> rfl

@[simp] theorem journal_record : (c.record x).journal = c.journal ++ [x] := rfl
@[simp] theorem inbox_record : (c.record x).inbox = c.inbox := rfl
@[simp] theorem connection_record : (c.record x).connection = c.connection := rfl
@[simp] theorem statistics_record : (c.record x).statistics = c.statistics := rfl
@[simp] theorem listener?_record : (c.record x).listener? i = c.listener? i := by cases i <;> rfl

@[simp] theorem fanout_count (g : Statistics → Statistics) : (c.count g).fanout = c.fanout := rfl

theorem listener?_updateListener : (c.updateListener id g).listener? i =
    if i = id then (c.listener? i).map g else c.listener? i := by
  cases id with
  | zero => cases i <;> simp [updateListener, listener?]
  | succ id =>
    cases i with
    | zero => simp [listener?]
    | succ i =>
      simp only [updateListener, listener?, List.getElem?_modify, Nat.add_right_cancel_iff,
        eq_comm (a := i)]
      split <;> simp

theorem isActive_eq : c.isActive id = (c.flag? id).getD false := by
  unfold isActive flag?
  cases c.listener? id <;> rfl

theorem isActive_iff : c.isActive id ↔ c.flag? id = some true := by
  rw [isActive_eq, Option.getD_eq_iff]
  simp

variable (n : Note)

theorem listener?_hear : (c.hear id n).listener? i = if i = id then
    (c.listener? i).map fun l => { l with heard := l.heard ++ [n] } else c.listener? i := by
  simp [hear, listener?_updateListener]

@[simp] theorem flag?_hear : (c.hear id n).flag? i = c.flag? i := by
  rw [flag?, flag?, listener?_hear]
  split <;> cases c.listener? i <;> rfl

theorem listener?_dismiss : (c.dismiss id).listener? i = if i = id then
    (c.listener? i).map fun l => { l with active := false } else c.listener? i := by
  simp [dismiss, deactivate, listener?_updateListener]

/-- The flag and what is heard of a new number are fresh; those of the others stay. -/
theorem listener?_subscribe (s : Subscriber) : (c.subscribe s).2.listener? i =
    if i = c.listeners.length + 1 then some {} else c.listener? i := by
  cases i with
  | zero => rfl
  | succ i =>
    simp only [subscribe, listener?_record, listener?_post]
    simp only [listener?, List.getElem?_append, Nat.add_right_cancel_iff]
    split
    · next hlt => simp [Nat.ne_of_lt hlt]
    · next hge =>
      split
      · next heq => simp [heq]
      · next hne =>
        rw [List.getElem?_eq_none (by simp; omega), List.getElem?_eq_none (by omega)]

/-- A release leaves what is heard. -/
theorem map_heard_release (caller : Option Nat) :
    ((c.release id caller).listener? i).map (·.heard) = (c.listener? i).map (·.heard) := by
  unfold release
  split
  · rfl
  · dsimp only
    split
    · rw [listener?_post, deactivate, listener?_updateListener, listener?_record]
      split <;> cases c.listener? i <;> rfl
    · rw [listener?_record]

@[simp] theorem listener?_handOver (e : Envelope) :
    (c.handOver e).listener? i = c.listener? i := by
  cases i <;> rfl

@[simp] theorem listener?_count (g : Statistics → Statistics) :
    (c.count g).listener? i = c.listener? i := by
  cases i <;> rfl

theorem flag?_dismiss_self : (c.dismiss id).flag? id = (c.flag? id).map fun _ => false := by
  rw [flag?, flag?, listener?_dismiss, if_pos rfl]
  cases c.listener? id <;> rfl

end Fields

/-! ## What concerns one subscription -/

/-- What changes of a channel by happenings that concern one subscription: they come into
    the journal, the hub may get messages by them, and of the listeners only that of the
    subscription may change. -/
structure Extends (c : Channel) (i : Nat) (xs : List Happening) (ms : List Message)
    (c' : Channel) : Prop where
  journal : c'.journal = c.journal ++ xs
  inbox : c'.inbox = c.inbox ++ ms
  connection : c'.connection = c.connection
  fanout : c'.fanout = c.fanout
  statistics : c'.statistics = c.statistics
  listener (id : Nat) : id ≠ i → c'.listener? id = c.listener? id

section Extends

variable {c c' c'' : Channel} {i : Nat} {xs ys : List Happening} {ms ns : List Message}

theorem Extends.refl (c : Channel) (i : Nat) : Extends c i [] [] c :=
  ⟨(List.append_nil _).symm, (List.append_nil _).symm, rfl, rfl, rfl, fun _ _ => rfl⟩

theorem Extends.trans (h : Extends c i xs ms c') (h' : Extends c' i ys ns c'') :
    Extends c i (xs ++ ys) (ms ++ ns) c'' where
  journal := by rw [h'.journal, h.journal, List.append_assoc]
  inbox := by rw [h'.inbox, h.inbox, List.append_assoc]
  connection := h'.connection.trans h.connection
  fanout := h'.fanout.trans h.fanout
  statistics := h'.statistics.trans h.statistics
  listener id hid := (h'.listener id hid).trans (h.listener id hid)

theorem extends_record (c : Channel) (i : Nat) (x : Happening) :
    Extends c i [x] [] (c.record x) :=
  ⟨rfl, (List.append_nil _).symm, rfl, rfl, rfl, fun _ _ => listener?_record ..⟩

theorem extends_post (c : Channel) (i : Nat) (m : Message) : Extends c i [] [m] (c.post m) :=
  ⟨(List.append_nil _).symm, rfl, rfl, rfl, rfl, fun _ _ => listener?_post ..⟩

theorem extends_updateListener (c : Channel) (i : Nat) (g : Listener → Listener) :
    Extends c i [] [] (c.updateListener i g) := by
  refine ⟨?_, ?_, ?_, ?_, ?_, fun id hid => by simp [listener?_updateListener, hid]⟩ <;>
    cases i <;> simp [updateListener]

theorem extends_hear (c : Channel) (i : Nat) (n : Note) :
    Extends c i [.told i n] [] (c.hear i n) :=
  (extends_updateListener c i _).trans (extends_record _ i _)

theorem extends_dismiss (c : Channel) (i : Nat) :
    Extends c i [.dismissed i] [] (c.dismiss i) :=
  (extends_updateListener c i _).trans (extends_record _ i _)

/-- A release concerns its own subscription, and the hub may get a message by it. -/
theorem extends_release (c : Channel) (id : Nat) (caller : Option Nat) :
    ∃ xs ms, Extends c id xs ms (c.release id caller) ∧ (∀ x ∈ xs, x = .released id caller) ∧
      ∀ m ∈ ms, m = .unsubscribe id := by
  have hrecord := extends_record c id (.released id caller)
  unfold release
  split
  · exact ⟨[], [], .refl c id, by simp, by simp⟩
  · split
    · exact ⟨_, _, (hrecord.trans (extends_updateListener _ id _)).trans
        (extends_post _ id (.unsubscribe id)), by simp, by simp⟩
    · exact ⟨_, _, hrecord, by simp, by simp⟩

end Extends

/-! ## What rounds keep -/

section Keeps

variable {P : Channel → Prop} {c : Channel}

/-- What hearing a note and every request keep is kept by a callback. -/
theorem tell_keeps {id : Nat} {s : Subscriber} {n : Note} (hhear : P c → P (c.hear id n))
    (hgrant : ∀ c q, P c → P (c.grant id q)) (h : P c) : P (host.tell id s n c) := by
  have grants (qs : List Request) (c : Channel) (h : P c) :
      P (qs.foldl (fun c q => c.grant id q) c) := by
    induction qs generalizing c with
    | nil => exact h
    | cons q qs ih => exact ih _ (hgrant c q h)
  unfold Host.tell
  split
  · exact grants _ _ (hhear h)
  · exact h

/-- What every callback keeps is kept by a round in which a note is told. -/
theorem tellAll_keeps {n : Note} {es : List Fanout.Entry}
    (htell : ∀ c, ∀ e ∈ es, c.isActive e.listener → P c →
      P (host.tell e.listener e.subscriber n c)) (h : P c) :
    P (Fanout.tellAll host n es c).2 := by
  induction es generalizing c with
  | nil => exact h
  | cons e es ih =>
    have ih {c : Channel} := ih (c := c) fun c e he => htell c e (List.mem_cons_of_mem _ he)
    rw [Fanout.tellAll]
    split
    · next hactive => exact ih (htell c e List.mem_cons_self hactive h)
    · exact ih h

/-- And by the round of the end, in which each flag is cleared first. -/
theorem finishAll_keeps {t : Termination} {es : List Fanout.Entry}
    (htell : ∀ c, ∀ e ∈ es, c.isActive e.listener → P c →
      P (host.tell e.listener e.subscriber t.note (c.dismiss e.listener))) (h : P c) :
    P (Fanout.finishAll host t es c).2 := by
  induction es generalizing c with
  | nil => exact h
  | cons e es ih =>
    have ih {c : Channel} := ih (c := c) fun c e he => htell c e (List.mem_cons_of_mem _ he)
    rw [Fanout.finishAll]
    split
    · next hactive => exact ih (htell c e List.mem_cons_self hactive h)
    · exact ih h

end Keeps

end Channel

end PartyLine
