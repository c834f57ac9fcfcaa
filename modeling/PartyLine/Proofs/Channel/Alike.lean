import PartyLine.Proofs.Fanout.Round
import PartyLine.Proofs.Isolation

/-!
# Channels alike

Two channels that are not open may differ in what they have counted, in what stands in their
journals and in what their connections were asked to write: none of this is looked at again. Whoever
does the same at both leaves them alike, and so does who calls to send at only one of them.

* `Alike`: channels with the same subscribers and the same messages for their hubs;
* `alike_respects`: callbacks do the same at both;
* `Alike.takeMessage`: so does the hub.
-/

namespace PartyLine

namespace Channel

/-- Two channels that are not open, with the same subscribers and the same messages for the
    hub. -/
structure Alike (c c' : Channel) : Prop where
  notOpen : c.state.isOpen = false
  notOpen' : c'.state.isOpen = false
  fanout : c.fanout = c'.fanout
  inbox : c.inbox = c'.inbox
  listeners : c.listeners = c'.listeners

variable {c c' : Channel}

theorem Alike.listener? (h : Alike c c') (id : Nat) : c.listener? id = c'.listener? id := by
  cases id with
  | zero => rfl
  | succ i => rw [Channel.listener?, Channel.listener?, h.listeners]

theorem Alike.record (h : Alike c c') (x x' : Happening) : Alike (c.record x) (c'.record x') :=
  ⟨h.notOpen, h.notOpen', h.fanout, h.inbox, h.listeners⟩

theorem Alike.post (h : Alike c c') (m : Message) : Alike (c.post m) (c'.post m) :=
  ⟨h.notOpen, h.notOpen', h.fanout, congrArg (· ++ [m]) h.inbox, h.listeners⟩

theorem Alike.count (h : Alike c c') (g g' : Statistics → Statistics) :
    Alike (c.count g) (c'.count g') :=
  ⟨h.notOpen, h.notOpen', h.fanout, h.inbox, h.listeners⟩

theorem Alike.updateListener (h : Alike c c') (id : Nat) (g : Listener → Listener) :
    Alike (c.updateListener id g) (c'.updateListener id g) := by
  cases id with
  | zero => exact h
  | succ i =>
    exact ⟨h.notOpen, h.notOpen', h.fanout, h.inbox, congrArg (·.modify i g) h.listeners⟩

/-! ## What consumers do -/

theorem Alike.subscribe (h : Alike c c') (s : Subscriber) :
    Alike (c.subscribe s).2 (c'.subscribe s).2 := by
  have hid : c.listeners.length = c'.listeners.length := congrArg List.length h.listeners
  rw [Channel.subscribe, Channel.subscribe, hid]
  exact ⟨h.notOpen, h.notOpen', h.fanout, congrArg (· ++ [_]) h.inbox,
    congrArg (· ++ [_]) h.listeners⟩

theorem Alike.release (h : Alike c c') (id : Nat) (caller : Option Nat) :
    Alike (c.release id caller) (c'.release id caller) := by
  rw [Channel.release, Channel.release, ← h.listener? id]
  cases c.listener? id with
  | none => exact h
  | some l =>
    dsimp only
    split
    · exact ((h.record _ _).updateListener id _).post _
    · exact h.record _ _

/-- A call to send that is dropped is no more than counted. -/
theorem send_of_not_open (hc : c.state.isOpen = false) (e : Envelope) :
    c.send e = c.count fun s => { s with droppedSends := s.droppedSends + 1 } := by
  simp [send, hc, count]

theorem Alike.send (h : Alike c c') (e : Envelope) : Alike (c.send e) (c'.send e) := by
  rw [send_of_not_open h.notOpen, send_of_not_open h.notOpen']
  exact h.count _ _

/-- At one of them only. -/
theorem Alike.send_left (h : Alike c c') (e : Envelope) : Alike (c.send e) c' := by
  rw [send_of_not_open h.notOpen]
  exact ⟨h.notOpen, h.notOpen', h.fanout, h.inbox, h.listeners⟩

/-- Not even an envelope that is handed over late makes a difference. -/
theorem Alike.handOver_left (h : Alike c c') (e : Envelope) : Alike (c.handOver e) c' :=
  ⟨h.notOpen, h.notOpen', h.fanout, h.inbox, h.listeners⟩

/-! ## What happens to their hubs -/

theorem Alike.arrange (h : Alike c c') (a : Arrangement) : Alike (c.arrange a) (c'.arrange a) := by
  rw [Channel.arrange, Channel.arrange, h.fanout]
  exact ⟨h.notOpen, h.notOpen', rfl, h.inbox, h.listeners⟩

theorem Alike.overtake (h : Alike c c') (place : Nat) :
    Alike (c.overtake place) (c'.overtake place) := by
  rw [Channel.overtake, Channel.overtake, h.inbox]
  split
  · split
    · exact ⟨h.notOpen, h.notOpen', h.fanout, rfl, h.listeners⟩
    · exact h
  · exact h

/-! ## What the hub does -/

theorem Alike.grant (h : Alike c c') (id : Nat) (q : Request) :
    Alike (c.grant id q) (c'.grant id q) := by
  cases q with
  | leave => exact h.release id _
  | release other => exact h.release other _
  | send e => exact h.send e
  | subscribe s => exact h.subscribe s

theorem Alike.hear (h : Alike c c') (id : Nat) (n : Note) : Alike (c.hear id n) (c'.hear id n) :=
  (h.updateListener id _).record _ _

/-- A callback asks for the same at both, and is granted it. -/
theorem Alike.tell (h : Alike c c') (id : Nat) (s : Subscriber) (n : Note) :
    Alike (c.tell id s n) (c'.tell id s n) := by
  have grants (qs : List Request) {c c' : Channel} (h : Alike c c') :
      Alike (qs.foldl (fun c q => c.grant id q) c) (qs.foldl (fun c q => c.grant id q) c') := by
    induction qs generalizing c c' with
    | nil => exact h
    | cons q qs ih => exact ih (h.grant id q)
  -- what is asked for depends on what the listener has heard, which is the same
  have hhear := h.hear id n
  rw [Channel.tell, Channel.tell, hhear.listener? id]
  exact grants _ hhear

/-- The hub does not tell them apart. -/
theorem alike_respects : host.Respects Alike where
  isActive h := by simp only [host, isActive, h.listener?]
  deactivate i h := (h.updateListener i _).record _ _
  notify i s n h := h.tell i s n

theorem Alike.withFanout (h : Alike c c') (f : Fanout) :
    Alike { c with fanout := f } { c' with fanout := f } :=
  ⟨h.notOpen, h.notOpen', rfl, h.inbox, h.listeners⟩

theorem Alike.countSubscribers (h : Alike c c') : Alike c.countSubscribers c'.countSubscribers :=
  h.count _ _

theorem Alike.terminate (h : Alike c c') (t : Termination) :
    Alike (c.terminate t) (c'.terminate t) := by
  obtain ⟨hfanout, hworld⟩ := Fanout.terminate_related (f := c'.fanout) alike_respects t h
  rw [Channel.terminate, Channel.terminate, h.fanout]
  dsimp only
  rw [hfanout]
  exact (hworld.withFanout _).count _ _

theorem Alike.handle (h : Alike c c') (m : Message) : Alike (c.handle m) (c'.handle m) := by
  cases m with
  | subscribe id s =>
    obtain ⟨hstored, hfanout, hworld⟩ :=
      Fanout.insert_related (f := c'.fanout) alike_respects ⟨id, id, s⟩ h
    simp only [Channel.handle, h.fanout, hstored, hfanout]
    split
    · exact (hworld.withFanout _).countSubscribers
    · exact hworld.withFanout _
  | unsubscribe id =>
    simp only [Channel.handle, h.fanout]
    split
    · exact (h.withFanout _).countSubscribers
    · exact h.withFanout _
  | event e =>
    cases e with
    | opened => exact h
    | failed e => exact h.terminate _
    | closed => exact h.terminate _
    | frame f =>
      simp only [Channel.handle, handleEvent]
      split
      · simp only [Fanout.deliver, h.fanout]
        split
        · exact h.count _ _
        · exact (Fanout.tellAll_related alike_respects _ _ h).count _ _
      · simp only [Fanout.report]
        have hcounted := h.count (fun s => { s with malformed := s.malformed + 1 })
          (fun s => { s with malformed := s.malformed + 1 })
        rw [← hcounted.fanout]
        split
        · exact hcounted
        · exact Fanout.tellAll_related alike_respects _ _ hcounted

/-- The hub takes the same message of both. -/
theorem Alike.takeMessage (h : Alike c c') :
    Alike (c.takeMessage?.getD c) (c'.takeMessage?.getD c') := by
  rw [takeMessage?, takeMessage?, ← h.inbox]
  cases c.inbox with
  | nil => exact h
  | cons m rest =>
    have hrest : Alike { c with inbox := rest } { c' with inbox := rest } :=
      ⟨h.notOpen, h.notOpen', h.fanout, rfl, h.listeners⟩
    exact (hrest.record _ _).handle m

end Channel

end PartyLine
