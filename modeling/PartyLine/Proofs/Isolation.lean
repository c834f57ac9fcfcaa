import PartyLine.Proofs.Session

/-!
# Channels apart

The channels of a client have a registry, a factory and a clock in common, and nothing else.
What is seen of a channel is decided by its own *life*: for which URL and with which limits it
was opened, what the factory made for it, what is done by its handles and at its far end, its
own work, and the times of these. Whatever goes on at other channels, and be they for the same
URL, is no part of it. Least of all does a channel that replaces another take anything over
from it: it begins as `Circuit.fresh`, which knows of no other channel.

What a deed comes to is told in two ways: for the client (`Session.perform`), and for one channel
with nothing but the event in its life (`Event.after`). That the two agree at every place is
`circuit?_perform`, which has three cases. A deed at a channel changes that channel by a
function of its own state; settling and the clock concern all channels, each by itself; and a
call to connect leaves the channels that are there, and may add a fresh one. From that a run
shows of a channel what its life alone would show (`shown_eq_alone`), and two runs with the same
life of a channel show the same of it. Nothing has to be known of the client for this, so that
it holds from any state on; only which channels of a URL have ended is a matter of its whole use,
and is taken from `Session.Kept`.

* `Session.Deed`, `Session.run`: all that may be done to a client, and its runs;
* `fresh_of_connect`: a channel as it is opened, `view_fresh` for what is seen of it;
* `Session.life`: what in a run concerns one channel;
* `Session.shown`: what is seen of a channel in a run, each time that it changes;
* `circuit?_perform`: what one deed comes to for one channel;
* `shown_eq_alone`: a channel shows what it would show alone;
* `isolated`: runs with the same life of a channel show the same of it, which begins fresh and
  to which nothing belongs that is done elsewhere.
-/

namespace PartyLine

namespace Channel

/-- An order of the stored subscribers. -/
structure Arrangement where
  order : List Fanout.Entry → List Fanout.Entry
  perm : ∀ es, (order es).Perm es

/-- The stored subscribers in another order. -/
def arrange (c : Channel) (a : Arrangement) : Channel :=
  { c with fanout := { c.fanout with entries := a.order c.fanout.entries } }

/-- News of a change of state are overtaken by the message that comes after them. -/
def overtake (c : Channel) (place : Nat) : Channel :=
  match c.inbox.drop place with
  | .event e :: m :: after =>
      if e.frame? = none ∧ m.event? = none then
        { c with inbox := c.inbox.take place ++ m :: .event e :: after }
      else c
  | _ => c

end Channel

namespace Circuit

/-- Who does a channel's own work. -/
inductive Worker where
  /-- The actor of the connection, at its start. -/
  | starter
  | actor
  | task
  | hub

/-- A small step of the connection; one that is not possible does nothing. -/
def act (l : Circuit) (a : Connection.Action) : Circuit :=
  { l with channel := (l.channel.act? a).getD l.channel }

/-- A small step of a channel's own, with the answer that its far end has for it. -/
def work (l : Circuit) (now : Nat) : Worker → Circuit
  | .starter => l.act (.start now)
  | .actor => l.act .handle
  | .task =>
      match FarEnd.next? now l.channel.connection l.far with
      | some (a, far) => { l with far }.act a
      | none => l
  | .hub => { l with channel := l.channel.takeMessage?.getD l.channel }

/-- What may be done at a channel. -/
inductive Deed where
  | subscribe (subscriber : Subscriber)
  | release (id : Nat)
  | send (e : Envelope)
  /-- A call to send that found the connection open some time ago. -/
  | handOver (e : Envelope)
  | arrange (a : Channel.Arrangement)
  | overtake (place : Nat)
  /-- The far end does something. -/
  | play (g : FarEnd → FarEnd)
  | work (w : Worker)
  | settle

/-- A channel and its far end after a deed. -/
def after (l : Circuit) (now : Nat) : Deed → Circuit
  | .subscribe s => { l with channel := (l.channel.subscribe s).2 }
  | .release id => { l with channel := l.channel.release id }
  | .send e => { l with channel := l.channel.send e }
  | .handOver e => { l with channel := l.channel.handOver e }
  | .arrange a => { l with channel := l.channel.arrange a }
  | .overtake place => { l with channel := l.channel.overtake place }
  | .play g => { l with far := g l.far }
  | .work w => l.work now w
  | .settle => l.settle now

/-- What is seen of a channel. -/
structure View where
  state : ConnectionState
  /-- The flags of its subscriptions, and what these were told. -/
  listeners : List Listener
  /-- The frames that reached its far end. -/
  written : List String
  statistics : Statistics
  deriving DecidableEq

def view (l : Circuit) : View where
  state := l.channel.state
  listeners := l.channel.listeners
  written := l.far.written
  statistics := l.channel.statistics

end Circuit

namespace Session

/-- The channel at a place, with its far end. -/
def circuit? (s : Session) (i : Nat) : Option Circuit := s.stations[i]?.map (·.circuit)

/-- Changes a channel and its far end. -/
def updateCircuit (s : Session) (i : Nat) (g : Circuit → Circuit) : Session :=
  { s with stations := s.stations.modify i fun t => { t with circuit := g t.circuit } }

/-- What may be done to a client, to its channels and around it. -/
inductive Deed where
  | connect (url : String)
  | subscribe (i : Nat) (subscriber : Subscriber)
  | release (i id : Nat)
  | send (i : Nat) (e : Envelope)
  /-- The far end of that place among those that can be played does something. -/
  | play (n : Nat) (g : FarEnd → FarEnd)
  | settle
  | advance (ms : Nat)
  /-- Something at a channel that the calls above do not come to, such as one small step. -/
  | inside (i : Nat) (d : Circuit.Deed)
  /-- What the client connects with, and from where, changes. -/
  | surround (factory : Factory) (hasSystem : Bool)

/-- The session after a deed. -/
def perform (s : Session) : Deed → Session
  | .connect url => (s.connect url).2
  | .subscribe i sub => ((s.subscribe i sub).map (·.2)).getD s
  | .release i id => s.release i id
  | .send i e => s.send i e
  | .play n g => s.updateFarEnd n g
  | .settle => s.settle
  | .advance ms => s.advance ms
  | .inside i d => s.updateCircuit i (·.after s.now d)
  | .surround factory hasSystem => { s with factory, hasSystem }

/-- The session after some deeds. -/
def run (s : Session) (w : List Deed) : Session := w.foldl perform s

/-- The channel at which something is done, and what. -/
def Deed.at? (s : Session) : Deed → Option (Nat × Circuit.Deed)
  | subscribe i sub => some (i, .subscribe sub)
  | release i id => some (i, .release id)
  | send i e => some (i, .send e)
  | play n g => s.playable[n]?.map fun i => (i, .play g)
  | inside i d => some (i, d)
  | _ => none

/-! ## Lives -/

/-- Something in the life of a channel. -/
inductive Event where
  /-- It is opened for a URL, with the client's limits and what its factory makes for that URL. -/
  | opened (url : String) (transport : TransportSettings) (made : Except TransportError FarEnd)
  /-- Something is done at it at some time. -/
  | deed (now : Nat) (d : Circuit.Deed)

/-- The channel after it. -/
def Event.after : Event → Option Circuit → Option Circuit
  | opened url transport made, _ => some (.fresh url transport made)
  | deed now d, l => l.map (·.after now d)

/-- Whether all channels settle. -/
def Deed.settles : Deed → Bool
  | settle => true
  | _ => false

/-- What a deed is for one channel: what is done at it, or that it settles, if there is
    anything left for it to do. -/
def own? (s : Session) (i : Nat) (l : Circuit) (d : Deed) : Option Circuit.Deed :=
  match d.at? s with
  | some (j, e) => if j = i then some e else none
  | none => if d.settles && !l.isQuiet s.now then some .settle else none

/-- What a deed is for a channel that is not there yet: a call to connect may open it. -/
def opening? (s : Session) (i : Nat) : Deed → Option Event
  | .connect url =>
      if ((s.connect url).2.circuit? i).isSome then
        some (.opened url s.settings.transport (s.factory.create url))
      else none
  | _ => none

/-- What a deed is in the life of a channel, if anything. -/
def concern (s : Session) (i : Nat) (d : Deed) : Option Event :=
  match s.circuit? i with
  | none => s.opening? i d
  | some l => (s.own? i l d).map (.deed s.now)

/-- What concerns a channel in a run. -/
def life (i : Nat) : Session → List Deed → List Event
  | _, [] => []
  | s, d :: w => (s.concern i d).toList ++ life i (s.perform d) w

/-- What is new to see. -/
def news (old new : Option Circuit) : List Circuit.View :=
  if new.map (·.view) = old.map (·.view) then [] else (new.map (·.view)).toList

/-- What is seen of a channel in a run. -/
def shown (i : Nat) : Session → List Deed → List Circuit.View
  | _, [] => []
  | s, d :: w => news (s.circuit? i) ((s.perform d).circuit? i) ++ shown i (s.perform d) w

/-- What is seen of a channel to which all this happens and nothing else. -/
def alone : Option Circuit → List Event → List Circuit.View
  | _, [] => []
  | l, e :: es => news l (e.after l) ++ alone (e.after l) es

/-! ## One deed -/

variable {s s' : Session} {i j : Nat} {l : Circuit} {d : Deed} {e : Circuit.Deed}

theorem circuit?_updateCircuit (s : Session) (i j : Nat) (g : Circuit → Circuit) :
    (s.updateCircuit j g).circuit? i = if j = i then (s.circuit? i).map g else s.circuit? i := by
  simp only [circuit?, updateCircuit, List.getElem?_modify]
  split
  · simp [Function.comp_def]
  · simp

/-- Changing a station depends on what stands there alone. -/
theorem modify_congr {ts : List Station} {f g : Station → Station}
    (h : ∀ t, ts[i]? = some t → f t = g t) : ts.modify i f = ts.modify i g := by
  refine List.ext_getElem? fun k => ?_
  rw [List.getElem?_modify, List.getElem?_modify]
  by_cases hk : i = k
  · subst hk
    cases ht : ts[i]? with
    | none => rfl
    | some t => simp [h t ht]
  · simp [hk]

/-- Whatever is done at a channel is done to it with its far end, and to nothing else. -/
theorem perform_of_at? (h : d.at? s = some (j, e)) :
    s.perform d = s.updateCircuit j (·.after s.now e) := by
  cases d with
  | connect | settle | advance | surround => cases h
  | release | send | inside =>
    cases h
    rfl
  | subscribe i sub =>
    cases h
    cases ht : s.stations[j]? with
    | none =>
      -- there is no such channel, and nothing is done
      have hlength : s.stations.length ≤ j := List.getElem?_eq_none_iff.1 ht
      simp [perform, subscribe, channel?, ht, updateCircuit, List.modify_eq_self hlength]
    | some t =>
      have hchannel : s.channel? j = some t.circuit.channel := by rw [channel?, ht, Option.map_some]
      rw [perform, subscribe, hchannel]
      refine congrArg (fun stations => { s with stations }) (modify_congr fun t' ht' => ?_)
      cases ht.symm.trans ht'
      rfl
  | play n g =>
    obtain ⟨i, hi, h⟩ := Option.map_eq_some_iff.1 h
    cases h
    simp only [perform, updateFarEnd, hi]
    rfl

/-- Connecting leaves the channels that are there. -/
theorem circuit?_connect (url : String) (h : s.circuit? i = some l) :
    (s.connect url).2.circuit? i = some l := by
  rcases hconnect : s.connect url with ⟨_ | k, s'⟩
  · rw [connect_error hconnect]
    exact h
  · rcases connect_cases hconnect with ⟨rfl, -, -⟩ | ⟨hopened, -⟩
    · exact h
    · obtain ⟨station, -, hs'⟩ := openChannel_eq s url
      cases hopened.trans hs'
      obtain ⟨t, ht, hl⟩ := Option.map_eq_some_iff.1 h
      have hi : i < s.stations.length := (List.getElem?_eq_some_iff.1 ht).1
      simpa [circuit?, List.getElem?_append_left hi] using h

/-- A channel that connecting has brought about is the one that it hands out, and is fresh. -/
theorem fresh_of_connect {url : String} (h : s.circuit? i = none)
    (hl : (s.connect url).2.circuit? i = some l) : (s.connect url).1 = .ok i ∧
      l = .fresh url s.settings.transport (s.factory.create url) := by
  rcases hconnect : s.connect url with ⟨_ | k, s'⟩
  · rw [hconnect, connect_error hconnect, h] at hl
    cases hl
  · rw [hconnect] at hl
    rcases connect_cases hconnect with ⟨rfl, -, -⟩ | ⟨hopened, -⟩
    · cases h.symm.trans hl
    · obtain ⟨station, hfresh, hs'⟩ := openChannel_eq s url
      cases hopened.trans hs'
      -- it stands behind those that were there, and there is one such place
      have hi : s.stations.length ≤ i := by simpa [circuit?] using h
      obtain ⟨t, ht, rfl⟩ := Option.map_eq_some_iff.1 hl
      rw [List.getElem?_append_right hi, List.getElem?_singleton] at ht
      split at ht
      · next hfirst =>
        cases ht
        have hplace := Nat.le_antisymm hi (Nat.sub_eq_zero_iff_le.1 hfirst)
        exact ⟨congrArg Except.ok hplace, hfresh⟩
      · cases ht

/-- A factory makes far ends to which nothing has been written. -/
theorem written_of_create {f : Factory} {url : String} {far : FarEnd}
    (h : f.create url = .ok far) : far.written = [] := by
  cases f with
  | scripted holds fails faults =>
    simp only [Factory.create] at h
    split at h <;> cases h
    rfl
  | webSocket =>
    simp only [Factory.create] at h
    cases hparsed : createTransport url with
    | error e =>
      rw [hparsed] at h
      cases h
    | ok =>
      rw [hparsed] at h
      cases hlocated : WebSocket.locate url <;> rw [hlocated] at h <;> cases h <;> rfl

/-- Nothing has been seen of a fresh channel. -/
theorem view_fresh (f : Factory) (url : String) (transport : TransportSettings) :
    (Circuit.fresh url transport (f.create url)).view =
      { state := .idle, listeners := [], written := [], statistics := {} } := by
  cases hmade : f.create url with
  | error e => rfl
  | ok far =>
    rw [Circuit.fresh, Circuit.view, written_of_create hmade]
    rfl

theorem settle_of_isQuiet {now : Nat} (h : l.isQuiet now) : l.settle now = l := by
  rw [Circuit.settle, Circuit.turns, if_pos h]

theorem circuit?_settle (hl : s.circuit? i = some l) :
    s.settle.circuit? i = some (l.settle s.now) := by
  obtain ⟨t, ht, rfl⟩ := Option.map_eq_some_iff.1 hl
  simp [circuit?, settle, ht]

/-- What is a channel's own happens to it; all other deeds leave it as it is. -/
theorem circuit?_perform_of_circuit? (d : Deed) (hl : s.circuit? i = some l) :
    (s.perform d).circuit? i = some ((s.own? i l d).elim l (l.after s.now)) := by
  rw [own?]
  cases hat : d.at? s with
  | some p =>
    obtain ⟨j, e⟩ := p
    rw [perform_of_at? hat, circuit?_updateCircuit, hl]
    simp only
    split <;> rfl
  | none =>
    cases d with
    | connect url => exact circuit?_connect url hl
    | advance | surround => exact hl
    | subscribe | release | send | inside => cases hat
    | play n g =>
      have hn : s.playable[n]? = none := by simpa [Deed.at?] using hat
      simp only [perform, updateFarEnd, hn]
      exact hl
    | settle =>
      rw [perform, circuit?_settle hl]
      cases hquiet : l.isQuiet s.now with
      | true => rw [settle_of_isQuiet hquiet]; rfl
      | false => rfl

/-- A channel that is not there stays so, unless a call to connect opens it. -/
theorem circuit?_perform_of_eq_none (d : Deed) (h : s.circuit? i = none) :
    (s.perform d).circuit? i = (s.opening? i d).bind (·.after none) := by
  cases hat : d.at? s with
  | some p =>
    obtain ⟨j, e⟩ := p
    have hopening : s.opening? i d = none := by
      cases d <;> first | rfl | cases hat
    rw [perform_of_at? hat, circuit?_updateCircuit, h, hopening]
    split <;> rfl
  | none =>
    cases d with
    | subscribe | release | send | inside => cases hat
    | connect url =>
      cases hl : (s.connect url).2.circuit? i with
      | none => simp [perform, opening?, hl]
      | some l =>
        obtain ⟨-, rfl⟩ := fresh_of_connect h hl
        simp [perform, opening?, hl, Event.after]
    | advance | surround => exact h
    | play n g =>
      have hn : s.playable[n]? = none := by simpa [Deed.at?] using hat
      simp only [perform, updateFarEnd, hn]
      exact h
    | settle => simpa [circuit?, perform, settle, opening?] using h

/-- Only a call to connect brings a channel about. -/
theorem exists_connect_of_opened (h : s.circuit? i = none)
    (hl : (s.perform d).circuit? i = some l) : ∃ url, d = .connect url := by
  rw [circuit?_perform_of_eq_none d h] at hl
  cases d with
  | connect url => exact ⟨url, rfl⟩
  | _ => cases hl

/-- One deed, for one channel. -/
theorem circuit?_perform (s : Session) (i : Nat) (d : Deed) :
    (s.perform d).circuit? i =
      (s.concern i d).elim (s.circuit? i) (·.after (s.circuit? i)) := by
  unfold concern
  cases hl : s.circuit? i with
  | none =>
    rw [circuit?_perform_of_eq_none d hl]
    dsimp only
    cases s.opening? i d <;> rfl
  | some l =>
    rw [circuit?_perform_of_circuit? d hl]
    dsimp only
    cases s.own? i l d <;> rfl

/-! ## Runs -/

/-- A channel shows in a run what it would show if nothing but its life happened. -/
theorem shown_eq_alone (s : Session) (i : Nat) (w : List Deed) :
    shown i s w = alone (s.circuit? i) (life i s w) := by
  induction w generalizing s with
  | nil => rfl
  | cons d w ih =>
    rw [shown, life, ih, circuit?_perform]
    cases s.concern i d with
    | none =>
      -- the channel is as before, so there is nothing new to see
      simp [news]
    | some e => rfl

/-- And so it is in the end. -/
theorem circuit?_run (s : Session) (i : Nat) (w : List Deed) :
    (s.run w).circuit? i = (life i s w).foldl (fun l e => e.after l) (s.circuit? i) := by
  induction w generalizing s with
  | nil => rfl
  | cons d w ih =>
    have hrun : s.run (d :: w) = (s.perform d).run w := rfl
    rw [hrun, ih, life, circuit?_perform]
    cases s.concern i d <;> rfl

/-- What is left out of the life of a channel: all that is not done at it, unless it settles
    with something left to do. -/
theorem concern_eq_none (hl : s.circuit? i = some l) (hat : ∀ e, d.at? s ≠ some (i, e))
    (hsettles : d.settles → l.isQuiet s.now) : s.concern i d = none := by
  have hown : s.own? i l d = none := by
    rw [own?]
    cases h : d.at? s with
    | some p =>
      obtain ⟨j, e⟩ := p
      have hj : j ≠ i := by
        rintro rfl
        exact hat e h
      exact if_neg hj
    | none => simpa using hsettles
  simp only [concern, hl, hown, Option.map_none]

/-! ## Generations -/

theorem steps_lasting {c c' : Channel} (h : Channel.Steps c c') :
    c'.url = c.url ∧ (c.isTerminated → c'.isTerminated) := by
  induction h with
  | refl => exact ⟨rfl, id⟩
  | tail _ hstep ih =>
    obtain ⟨a, hstep⟩ := hstep
    obtain ⟨hurl, hended⟩ := Channel.step_lasting hstep
    exact ⟨hurl.trans ih.1, fun h => hended (ih.2 h)⟩

/-- Whatever is done at a channel leaves its URL, and its end if it has ended. -/
theorem after_lasting (l : Circuit) (now : Nat) (e : Circuit.Deed) :
    (l.after now e).channel.url = l.channel.url ∧
      (l.channel.isTerminated → (l.after now e).channel.isTerminated) := by
  have step {a : Channel.Action} {c : Option Channel} (hc : l.channel.step? a = c) :
      (c.getD l.channel).url = l.channel.url ∧
        (l.channel.isTerminated → (c.getD l.channel).isTerminated) := by
    cases c with
    | none => exact ⟨rfl, id⟩
    | some c => exact Channel.step_lasting hc
  cases e with
  | subscribe sub => exact step (a := .subscribe sub) rfl
  | release id => exact step (a := .release id) rfl
  | send e => exact step (a := .send e) rfl
  | handOver e => exact ⟨rfl, id⟩
  | arrange a => exact ⟨rfl, id⟩
  | overtake place =>
    rw [Circuit.after, Channel.overtake]
    split
    · split <;> exact ⟨rfl, id⟩
    · exact ⟨rfl, id⟩
  | play g => exact ⟨rfl, id⟩
  | work w =>
    cases w with
    | starter => exact step (a := .connection (.start now)) rfl
    | actor => exact step (a := .connection .handle) rfl
    | hub => exact step (a := .hub) rfl
    | task =>
      rw [Circuit.after, Circuit.work]
      split
      · next a _ _ => exact step (a := .connection a) rfl
      · exact ⟨rfl, id⟩
  | settle => exact steps_lasting (Channel.steps_settle now l)

variable {settings : Settings} {visits : List Visit} {url : String} {k : Nat}

/-- What is so in every use of a client is so whatever is done. -/
theorem Kept.perform (h : Kept settings s visits) (d : Deed) :
    ∃ visits', Kept settings (s.perform d) visits' := by
  cases hat : d.at? s with
  | some p =>
    -- a channel goes on, and keeps its URL and its end
    obtain ⟨j, e⟩ := p
    rw [perform_of_at? hat]
    refine ⟨visits, h.progress (by simp) fun k t t' ht ht' => ?_⟩
    rw [List.getElem?_modify, ht] at ht'
    cases ht'
    split
    · exact after_lasting t.circuit s.now e
    · exact ⟨rfl, id⟩
  | none =>
    cases d with
    | subscribe | release | send | inside => cases hat
    | connect url =>
      rw [Session.perform]
      rcases hconnect : s.connect url with ⟨_ | i, s'⟩
      · rw [connect_error hconnect]
        exact ⟨visits, h⟩
      · rcases connect_cases hconnect with ⟨rfl, hfind, -⟩ | ⟨hopened, hreplaced⟩
        · exact ⟨_, h.reuse hfind⟩
        · exact ⟨_, h.openChannel hopened hreplaced⟩
    | advance | surround =>
      refine ⟨visits, h.progress rfl fun k t t' ht ht' => ?_⟩
      cases ht.symm.trans ht'
      exact ⟨rfl, id⟩
    | play n g =>
      have hn : s.playable[n]? = none := by simpa [Deed.at?] using hat
      simp only [Session.perform, updateFarEnd, hn]
      exact ⟨visits, h⟩
    | settle =>
      refine ⟨visits, h.progress (by simp) fun k t t' ht ht' => ?_⟩
      rw [List.getElem?_map, ht] at ht'
      cases ht'
      exact steps_lasting (Channel.steps_settle s.now t.circuit)

theorem Kept.run (h : Kept settings s visits) (w : List Deed) :
    ∃ visits', Kept settings (s.run w) visits' := by
  induction w generalizing s visits with
  | nil => exact ⟨visits, h⟩
  | cons d w ih =>
    obtain ⟨visits', h'⟩ := h.perform d
    exact ih h'

/-- A send on a channel that has ended is dropped, and counted there. -/
theorem send_of_hasEnded (h : s.hasEnded i) (e : Envelope) :
    s.send i e = s.updateChannel i fun c =>
      c.count fun st => { st with droppedSends := st.droppedSends + 1 } := by
  rw [send, updateChannel, updateChannel]
  refine congrArg (fun stations => { s with stations }) (modify_congr fun t ht => ?_)
  have hended : t.circuit.channel.state.isTerminal := by
    simpa [hasEnded, channel?, ht, Channel.isTerminated] using h
  have hopen : t.circuit.channel.state.isOpen = false := by
    cases hstate : t.circuit.channel.state <;>
      simp_all [ConnectionState.isTerminal, ConnectionState.isOpen]
  simp [Channel.send, hopen, Channel.count]

/-! ## Isolation -/

/-- Whatever is seen of a channel in a run, its state, what its subscribers are told, the frames
    that it writes and what it counts, depends on its life alone: two runs, of one client or
    of two, in which it has the same life show the same of it, and leave it the same. Of its
    life is nothing that is not done at it, by its handles, at its far end or by its own actors,
    at the time of the clock; it may be left to settle more often if it is quiet. Its life begins
    with the call to connect that hands it out first, and with nothing of any other channel: it is
    the fresh one of the URL, the client's limits and what the factory makes, and nothing has been
    seen of it.

    So it is for the channels of one URL, where one has been replaced by another. The earlier
    has ended. A send on it is dropped, and changes nothing but its own count; and whatever
    is done at the later, the earlier stays as it is. -/
theorem isolated :
    (∀ (s s' : Session) (i k : Nat) (w w' : List Deed), s.circuit? i = s'.circuit? k →
      life i s w = life k s' w' →
      shown i s w = shown k s' w' ∧ (s.run w).circuit? i = (s'.run w').circuit? k) ∧
    (∀ (s : Session) (i : Nat) (l : Circuit) (d : Deed), s.circuit? i = some l →
      (∀ e, d.at? s ≠ some (i, e)) → (d.settles → l.isQuiet s.now) →
      s.concern i d = none ∧ (s.perform d).circuit? i = some l) ∧
    (∀ (s : Session) (i : Nat) (l : Circuit) (d : Deed), s.circuit? i = none →
      (s.perform d).circuit? i = some l →
      ∃ url, d = .connect url ∧ (s.connect url).1 = .ok i ∧
        s.concern i d = some (.opened url s.settings.transport (s.factory.create url)) ∧
        l = .fresh url s.settings.transport (s.factory.create url) ∧
        l.view = { state := .idle, listeners := [], written := [], statistics := {} }) ∧
    ∀ (settings : Settings) (factory : Factory) (w : List Deed) (s : Session) (url : String)
      (i k : Nat), s = run { settings, factory } w → s.requested[i]? = some url →
      s.requested[k]? = some url → i < k →
      settings.onTerminated = .replace ∧ s.hasEnded i ∧
      (∀ e, s.send i e = s.updateChannel i fun c =>
        c.count fun st => { st with droppedSends := st.droppedSends + 1 }) ∧
      ∀ d e, d.at? s = some (k, e) → (s.perform d).circuit? i = s.circuit? i := by
  refine ⟨fun s s' i k w w' hstart hlife => ⟨?_, ?_⟩, fun s i l d hl hat hsettles => ?_,
    fun s i l d hnone hl => ?_, ?_⟩
  · rw [shown_eq_alone, shown_eq_alone, hstart, hlife]
  · rw [circuit?_run, circuit?_run, hstart, hlife]
  · have hnone := concern_eq_none hl hat hsettles
    refine ⟨hnone, ?_⟩
    rw [circuit?_perform, hnone, hl]
    rfl
  · obtain ⟨url, rfl⟩ := exists_connect_of_opened hnone hl
    obtain ⟨hhanded, rfl⟩ := fresh_of_connect hnone hl
    have hthere : ((s.connect url).2.circuit? i).isSome := Option.isSome_of_eq_some hl
    refine ⟨url, rfl, hhanded, ?_, rfl, view_fresh s.factory url s.settings.transport⟩
    simp only [concern, hnone, opening?, hthere, if_true]
  · rintro settings factory w s url i k rfl hi hk hlt
    -- of the channels of a URL all but the last have ended, whatever has been done
    obtain ⟨visits, hkept⟩ := (kept_new settings factory).run w
    obtain ⟨hended, hpolicy⟩ := hkept.earlier url i k hi hk hlt
    refine ⟨hpolicy, hended, send_of_hasEnded hended, fun d e hat => ?_⟩
    rw [perform_of_at? hat, circuit?_updateCircuit, if_neg (Nat.ne_of_gt hlt)]

/-- What a consumer does who has a channel to itself. -/
def visit (i : Nat) : List Deed :=
  [.subscribe i {}, .settle, .send i { kind := "hi" }, .play 0 (·.send (.frame "hi")), .settle]

/-- A client that does nothing else. -/
def solitary : List Deed := .connect "ws://quiet" :: visit 0

/-- And one where a channel for another URL fails and is replaced. -/
def crowded : List Deed :=
  [.connect "ws://host", .settle, .connect "ws://host", .send 0 { kind := "late" },
    .connect "ws://quiet"] ++ visit 2

/-- The consumer sees the same in both, and of the channel that has replaced the failed one
    nothing is seen at first. -/
theorem isolated_crowded :
    shown 2 failing crowded = shown 0 failing solitary ∧
      (shown 0 failing solitary).map (·.written) =
        [[], [], [], [], [Envelope.encode { kind := "hi" }]] ∧
      (((failing.run [.connect "ws://host", .settle]).perform (.connect "ws://host")).circuit?
        1).map (·.view) =
          some { state := .idle, listeners := [], written := [], statistics := {} } ∧
      (failing.run crowded).hasEnded 0 ∧
      ((failing.run crowded).perform (.inside 1 .settle)).circuit? 0 =
        (failing.run crowded).circuit? 0 := by
  obtain ⟨htwo, -, hopened, hgenerations⟩ := isolated
  have hlife : life 2 failing crowded = life 0 failing solitary := rfl
  obtain ⟨-, hended, -, hlater⟩ := hgenerations { onTerminated := .replace }
    (.scripted (fun _ => false) [("ws://host", .timeout)] {}) crowded (failing.run crowded)
    "ws://host" 0 1 rfl rfl rfl (by decide)
  obtain ⟨-, -, -, -, -, hview⟩ :=
    hopened (failing.run [.connect "ws://host", .settle]) 1 _ (.connect "ws://host") rfl rfl
  exact ⟨(htwo failing failing 2 0 crowded solitary rfl hlife).1, rfl, congrArg some hview, hended,
    hlater _ _ rfl⟩

end Session

end PartyLine
