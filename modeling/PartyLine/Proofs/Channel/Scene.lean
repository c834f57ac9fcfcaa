import Mathlib.Logic.Relation
import PartyLine.Proofs.Channel.Hub

/-!
# Scenes

A *scene* is a channel at some time of its use, with all that has been seen of its
connection until then. Consumers, the hub, the actor of the connection and its task
take their steps in any order, and the transport answers as it likes.

Two things are freer here than in `Channel.step?`. A call to send may find the
connection open and hand its envelope over only later, when it no longer is; and
the stored subscribers have no order that a round would have to keep to.

Two things are not taken apart. Handing an envelope over (`Channel.handOver`) posts it to
the connection and counts it in one step, and a release (`Channel.release`) clears the flag
and posts its message to the hub in one step. So no scene shows a counter, or a flag, between
the two halves of one call. The message may then wait as long as it likes, as all messages do.

The invariant of scenes is that the channel is sound between rounds, for what has been seen of its
connection, and that no call to send is under way before the connection has reported anything.
Each kind of step keeps it by one lemma of `PartyLine.Proofs.Channel.Sound` or of the modules
about rounds and the hub.

* `Scene.Step`: what can happen next;
* `Scene.Reachable`: the scenes of all uses of a new channel;
* `Scene.Reachable.invariant`: in all of them the channel is sound.
-/

namespace PartyLine

open Channel

/-- A channel, what has been seen of its connection, and the calls to send that have
    found it open and have still to hand over their envelopes. -/
structure Scene where
  channel : Channel
  trace : Trace := {}
  calls : List Envelope := []

namespace Scene

/-- What has been seen once an action is done. -/
def observe (s : Scene) : Channel.Action → Trace
  | .connection a =>
      match s.channel.connection.step? a with
      | some (connection, events) =>
          { task := connection.task
            reads := s.trace.reads ++ a.reading
            events := s.trace.events ++ events
            writes := s.trace.writes ++ s.channel.connection.writing a }
      | none => s.trace
  | _ => s.trace

/-- A scene follows another. -/
inductive Step (s : Scene) : Scene → Prop
  | act {a : Channel.Action} {c : Channel} : s.channel.step? a = some c →
      Step s { s with channel := c, trace := s.observe a }
  /-- A call to send finds the connection open. -/
  | check {e : Envelope} : s.channel.state.isOpen → Step s { s with calls := s.calls ++ [e] }
  /-- A call that has found it open hands its envelope over. -/
  | handOver {e : Envelope} {calls : List Envelope} : (e :: calls).Perm s.calls →
      Step s { s with channel := s.channel.handOver e, calls }
  /-- The set of subscribers is rearranged. -/
  | rearrange {entries : List Fanout.Entry} : entries.Perm s.channel.fanout.entries →
      Step s { s with channel := { s.channel with fanout := { s.channel.fanout with entries } } }

/-- The scenes that can follow in any number of steps. -/
abbrev Steps : Scene → Scene → Prop := Relation.ReflTransGen Step

/-- The scene of a new channel. -/
def start (params : ConnectParams) (fault : Option TransportError) : Scene :=
  { channel := Channel.init params fault }

/-- The scenes of all uses of a new channel. -/
def Reachable (params : ConnectParams) (fault : Option TransportError) : Scene → Prop :=
  Steps (start params fault)

/-- The scene after some actions; those that are not possible are passed over. -/
def after (s : Scene) : List Channel.Action → Scene
  | [] => s
  | a :: as =>
      match s.channel.step? a with
      | some c => after { s with channel := c, trace := s.observe a } as
      | none => after s as

variable {params : ConnectParams} {fault : Option TransportError} {s s' : Scene}

/-- What comes of some actions follows. -/
theorem steps_after (s : Scene) (as : List Channel.Action) : Steps s (s.after as) := by
  induction as generalizing s with
  | nil => exact .refl
  | cons a as ih =>
    rw [after]
    split
    · next h => exact .head (.act h) (ih _)
    · exact ih s

theorem reachable_after (params : ConnectParams) (fault : Option TransportError)
    (as : List Channel.Action) : Reachable params fault ((start params fault).after as) :=
  steps_after _ as

/-- The channel is sound, and who has found the connection open was not mistaken. -/
structure Invariant (s : Scene) : Prop where
  sound : Sound s.trace (.idle s.channel) s.channel
  calls : s.calls ≠ [] → s.trace.events ≠ []

/-- The invariant holds of a new channel. -/
theorem invariant_init (params : ConnectParams) (fault : Option TransportError) :
    Invariant (start params fault) where
  sound :=
    { accounts := fun id => ⟨{}, rfl, .unknown (by cases id <;> rfl)⟩
      heard := fun id l hl => by cases id <;> cases hl
      fanout := rfl
      ended := rfl
      entries := nofun
      entries_nodup := List.nodup_nil
      due_nodup := List.nodup_nil
      subscriptions_nodup := List.nodup_nil
      subscribed := rfl
      withdrawn := nofun
      reported := rfl
      task := rfl
      course := Connection.course_init params fault
      outgoing := Connection.outgoing_init params fault
      counted := rfl }
  calls h := absurd rfl h

/-- A small step of the connection puts its events into the hub's inbox. -/
theorem sound_act {t : Trace} {c : Channel} {a : Connection.Action} {connection : Connection}
    {es : List ConnectionEvent} (h : Sound t (.idle c) c)
    (hs : c.connection.step? a = some (connection, es)) :
    Sound ⟨connection.task, t.reads ++ a.reading, t.events ++ es,
        t.writes ++ c.connection.writing a⟩
      (.idle { c with connection, inbox := c.inbox ++ es.map .event })
      { c with connection, inbox := c.inbox ++ es.map .event } := by
  have hstep := Connection.step_of_step? hs
  -- neither the listeners nor the journal change, and the inbox gets nothing but events
  have hlistener (id : Nat) :
      listener? { c with connection, inbox := c.inbox ++ es.map .event } id = c.listener? id := by
    cases id <;> rfl
  have hsubscriptions : (es.map Message.event).filterMap Message.subscription? = [] := by
    simp [List.filterMap_map, Function.comp_def, Message.subscription?]
  have hevents : (es.map Message.event).filterMap Message.event? = es := by
    simp [List.filterMap_map, Function.comp_def, Message.event?]
  refine { h with
    accounts := ?accounts
    heard := fun id l hl => h.heard id l (hlistener id ▸ hl)
    subscribed := ?subscribed
    withdrawn := fun id hid => h.withdrawn id (by simpa using hid)
    reported := ?reported
    task := rfl
    course := h.course.step hstep
    outgoing := h.outgoing.step h.course hstep }
  case accounts =>
    intro id
    obtain ⟨a, ha, hh⟩ := h.accounts id
    have hflag : flag? { c with connection, inbox := c.inbox ++ es.map .event } id =
        c.flag? id := by rw [flag?, flag?, hlistener]
    exact ⟨a, ha, (hh.idle (.idle _) rfl hflag (fun _ _ _ he _ => he) (by simp [Round.idle])).1⟩
  case subscribed =>
    rw [List.filterMap_append, hsubscriptions, List.append_nil]
    exact h.subscribed
  case reported =>
    rw [List.filterMap_append, hevents, ← List.append_assoc]
    exact congrArg (· ++ es) h.reported

/-- The order of the set is of no account. -/
theorem sound_rearrange {t : Trace} {c : Channel} {entries : List Fanout.Entry}
    (h : Sound t (.idle c) c) (hperm : entries.Perm c.fanout.entries) :
    Sound t (.idle { c with fanout := { c.fanout with entries } })
      { c with fanout := { c.fanout with entries } } :=
  h.restock rfl { c.fanout with entries } rfl (fun _ he => hperm.mem_iff.1 he)
    (fun _ _ _ _ _ _ he _ => hperm.mem_iff.2 he) ((hperm.map _).nodup_iff.2 h.entries_nodup)

/-- Every step keeps the invariant. -/
theorem Invariant.step (h : Invariant s) (hs : Step s s') : Invariant s' := by
  obtain ⟨hsound, hcalls⟩ := h
  cases hs with
  | @act a c hc =>
    cases a with
    | connection a =>
      obtain ⟨⟨connection, es⟩, hstep, rfl⟩ := Option.map_eq_some_iff.1 hc
      have := sound_act hsound hstep
      refine ⟨by simpa [observe, hstep] using this, fun hne => ?_⟩
      have := hcalls hne
      simp_all [observe]
    | hub => exact ⟨hsound.takeMessage hc, hcalls⟩
    | subscribe subscriber =>
      cases hc
      exact ⟨(hsound.subscribe subscriber).idle rfl rfl, hcalls⟩
    | release id =>
      cases hc
      exact ⟨(hsound.release id nofun).idle rfl rfl, hcalls⟩
    | send e =>
      cases hc
      exact ⟨(hsound.send e).idle rfl rfl, hcalls⟩
  | check hopen =>
    refine ⟨hsound, fun _ => hsound.course.events_ne_nil ?_⟩
    simpa [state, ConnectionState.isOpen] using hopen
  | handOver hperm =>
    -- the connection may have ended since, but it has been open
    have hne : s.calls ≠ [] := fun h => by simp [h] at hperm
    refine ⟨(hsound.handOver (hcalls hne) _).idle rfl rfl, fun _ => hcalls hne⟩
  | rearrange hperm => exact ⟨sound_rearrange hsound hperm, hcalls⟩

/-- The invariant is kept by any number of steps. -/
theorem Invariant.steps (h : Invariant s) (hs : Steps s s') : Invariant s' := by
  induction hs with
  | refl => exact h
  | tail _ hs ih => exact ih.step hs

/-- The invariant holds in every use of a channel. -/
theorem Reachable.invariant (h : Reachable params fault s) : Invariant s :=
  (invariant_init params fault).steps h

/-- Between steps, every subscription has its account, and nothing is still to be told. -/
theorem Invariant.account (h : Invariant s) (id : Nat) : ∃ a,
    account id s.channel.journal = some a ∧ (Round.idle s.channel).Holds s.channel id a.stage ∧
      a.stage.isBusy = false := by
  obtain ⟨a, ha, hh⟩ := h.sound.accounts id
  exact ⟨a, ha, hh, (hh.idle (.idle s.channel) rfl rfl (fun _ _ _ he _ => he) nofun).2⟩

end Scene

end PartyLine
