import PartyLine.Proofs.Channel.Latecomer

/-!
# Runs of a channel

The use of a channel as a list of *deeds*, one for each thing that can happen next: what a
consumer does, a message that the hub takes, a small step of the connection with the answer of
its transport, and what may happen between these. A run also says in which states the
connection has been.

Scenes have two step relations, of which one lets the news of a change of state be overtaken. A run
has the deeds of both, so that what is proved of runs is proved of either, and each step is a deed
and each deed a step (`next_iff_does`).

* `Scene.Deed`, `Scene.Does`: the deeds, and the scene after one;
* `next_iff_does`: they are all that can happen;
* `Scene.Run`: runs from a new channel, `nexts_iff_run`.
-/

namespace PartyLine

open Channel

namespace Scene

/-- One thing that happens. -/
inductive Deed where
  /-- A small step of the connection. -/
  | connection (a : Connection.Action)
  /-- The hub takes a message. -/
  | take (m : Message)
  /-- Somebody subscribes, and gets this number. -/
  | subscribe (id : Nat) (subscriber : Subscriber)
  | release (id : Nat)
  | send (e : Envelope)
  /-- A call to send finds the connection open. -/
  | check (e : Envelope)
  /-- A call that has found it open hands its envelope over. -/
  | handOver (e : Envelope)
  /-- The set of subscribers is rearranged. -/
  | rearrange (entries : List Fanout.Entry)
  /-- News of a change of state are overtaken. -/
  | overtake (e : ConnectionEvent) (m : Message)

/-- The scene after a deed. -/
inductive Does (s : Scene) : Deed → Scene → Prop
  | connection {a : Connection.Action} {connection : Connection} {es : List ConnectionEvent} :
      s.channel.connection.step? a = some (connection, es) →
      Does s (.connection a) { s with
        channel := { s.channel with connection, inbox := s.channel.inbox ++ es.map .event }
        trace := s.observe (.connection a) }
  | take {m : Message} {rest : List Message} : s.channel.inbox = m :: rest →
      Does s (.take m) { s with
        channel := ({ s.channel with inbox := rest }.record (.took m)).handle m }
  | subscribe (subscriber : Subscriber) :
      Does s (.subscribe (s.channel.listeners.length + 1) subscriber)
        { s with channel := (s.channel.subscribe subscriber).2 }
  | release (id : Nat) : Does s (.release id) { s with channel := s.channel.release id }
  | send (e : Envelope) : Does s (.send e) { s with channel := s.channel.send e }
  | check {e : Envelope} : s.channel.state.isOpen →
      Does s (.check e) { s with calls := s.calls ++ [e] }
  | handOver {e : Envelope} {calls : List Envelope} : (e :: calls).Perm s.calls →
      Does s (.handOver e) { s with channel := s.channel.handOver e, calls }
  | rearrange {entries : List Fanout.Entry} : entries.Perm s.channel.fanout.entries →
      Does s (.rearrange entries)
        { s with channel := { s.channel with fanout := { s.channel.fanout with entries } } }
  | overtake {before after : List Message} {e : ConnectionEvent} {m : Message} :
      s.channel.inbox = before ++ .event e :: m :: after → e.frame? = none → m.event? = none →
      Does s (.overtake e m) { s with
        channel := { s.channel with inbox := before ++ m :: .event e :: after } }

variable {params : ConnectParams} {fault : Option TransportError} {s s' : Scene}

/-- The hub takes the first message of its inbox. -/
theorem takeMessage?_eq_some_iff {c c' : Channel} : c.takeMessage? = some c' ↔
    ∃ m rest, c.inbox = m :: rest ∧ ({ c with inbox := rest }.record (.took m)).handle m = c' := by
  unfold takeMessage?
  split <;> simp_all

/-- What can happen next is one of the deeds. -/
theorem next_iff_does : Next s s' ↔ ∃ d, Does s d s' := by
  constructor
  · -- an action of the channel is one of five deeds
    rintro (hs | ⟨hinbox, he, hm⟩)
    · rcases hs with @⟨a, c, hc⟩ | hopen | hperm | hperm
      · cases a with
        | connection a =>
          obtain ⟨⟨connection, es⟩, hstep, rfl⟩ := Option.map_eq_some_iff.1 hc
          exact ⟨_, .connection hstep⟩
        | hub =>
          obtain ⟨m, rest, hinbox, rfl⟩ := takeMessage?_eq_some_iff.1 hc
          exact ⟨_, .take hinbox⟩
        | subscribe subscriber =>
          cases hc
          exact ⟨_, .subscribe subscriber⟩
        | release id =>
          cases hc
          exact ⟨_, .release id⟩
        | send e =>
          cases hc
          exact ⟨_, .send e⟩
      · exact ⟨_, .check hopen⟩
      · exact ⟨_, .handOver hperm⟩
      · exact ⟨_, .rearrange hperm⟩
    · exact ⟨_, .overtake hinbox he hm⟩
  · rintro ⟨d, hd⟩
    rcases hd with @⟨a, _, _, hstep⟩ | hinbox | subscriber | id | e | hopen | hperm | hperm |
      ⟨hinbox, he, hm⟩
    · exact .step (.act (a := .connection a) (by rw [step?, act?, hstep]; rfl))
    · exact .step (.act (a := .hub) (takeMessage?_eq_some_iff.2 ⟨_, _, hinbox, rfl⟩))
    · exact .step (.act (a := .subscribe subscriber) rfl)
    · exact .step (.act (a := .release id) rfl)
    · exact .step (.act (a := .send e) rfl)
    · exact .step (.check hopen)
    · exact .step (.handOver hperm)
    · exact .step (.rearrange hperm)
    · exact .overtake hinbox he hm

/-! ## Runs -/

/-- The states that have been seen, once there is one to be seen. -/
def seeing (states : List ConnectionState) (state : ConnectionState) : List ConnectionState :=
  if states.getLast? = some state then states else states ++ [state]

/-- The runs of a new channel: what is done, the states of the connection, and the scene then. -/
inductive Run (params : ConnectParams) (fault : Option TransportError) :
    List Deed → List ConnectionState → Scene → Prop
  | start : Run params fault [] [.idle] (start params fault)
  | step {w : List Deed} {states : List ConnectionState} {s s' : Scene} {d : Deed} :
      Run params fault w states s → Does s d s' →
      Run params fault (w ++ [d]) (seeing states s'.channel.state) s'

variable {w : List Deed} {states : List ConnectionState}

/-- Runs are all uses of a channel. -/
theorem nexts_iff_run : Nexts (start params fault) s ↔ ∃ w states, Run params fault w states s := by
  constructor
  · intro h
    induction h with
    | refl => exact ⟨_, _, .start⟩
    | tail _ hnext ih =>
      obtain ⟨w, states, hrun⟩ := ih
      obtain ⟨d, hd⟩ := next_iff_does.1 hnext
      exact ⟨_, _, hrun.step hd⟩
  · rintro ⟨w, states, h⟩
    induction h with
    | start => exact .refl
    | step _ hd ih => exact ih.tail (next_iff_does.2 ⟨_, hd⟩)

theorem getLast?_seeing (states : List ConnectionState) (state : ConnectionState) :
    (seeing states state).getLast? = some state := by
  unfold seeing
  split
  · assumption
  · exact List.getLast?_concat

/-- The last state is that of the connection. -/
theorem Run.getLast? (h : Run params fault w states s) :
    states.getLast? = some s.channel.state := by
  cases h with
  | start => rfl
  | step _ _ => exact getLast?_seeing _ _

end Scene

end PartyLine
