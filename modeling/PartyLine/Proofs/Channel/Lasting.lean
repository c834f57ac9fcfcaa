import Mathlib.Logic.Relation
import PartyLine.Channel.Run
import PartyLine.Proofs.Channel.Turn

/-!
# What lasts

Whatever happens to a channel, its URL stays and its end is for good. What happens when a
channel runs with its far end until nothing is left to do is no more than its small steps,
one after the other.

* `step_lasting`: the URL and the end last;
* `Steps`, `steps_settle`: a channel that settles takes small steps.
-/

namespace PartyLine

namespace Channel

variable {c c' : Channel}

/-- Whatever happens to a channel leaves its URL, and its end if it has ended. -/
theorem step_lasting {a : Action} (h : c.step? a = some c') :
    c'.url = c.url ∧ (c.isTerminated → c'.isTerminated) := by
  -- only the actor of the connection and its task change more of it than its inbox
  have asked (h : ∃ fs : List String, c'.connection =
      { c.connection with inbox := c.connection.inbox ++ fs.map .send }) :
      c'.url = c.url ∧ (c.isTerminated → c'.isTerminated) := by
    obtain ⟨fs, hconnection⟩ := h
    simp [url, isTerminated, state, hconnection]
  rcases moves_of_step? h with @⟨_, connection, _, hstep⟩ | ⟨-, htakes⟩ | ⟨-, hserved⟩
  · obtain ⟨hparams, hstate⟩ := (Connection.step_of_step? hstep).lasting
    refine ⟨congrArg ConnectParams.url hparams, fun hc => ?_⟩
    show connection.state.isTerminal
    rwa [hstate hc]
  · exact asked htakes.connection
  · exact asked hserved.connection

/-! ## Settling -/

/-- The channels that can follow in any number of small steps. -/
abbrev Steps : Channel → Channel → Prop :=
  Relation.ReflTransGen fun c c' => ∃ a, c.step? a = some c'

/-- The channel with what its connection has come to, the events having gone to the hub. -/
def withLink (c : Channel) (l : Link) : Channel :=
  { c with connection := l.connection, inbox := c.inbox ++ l.events.map .event }

/-- What the link performs is a small step, or nothing. -/
theorem steps_perform (c : Channel) (l : Link) (a : Connection.Action) :
    Steps (c.withLink l) (c.withLink (l.perform a)) := by
  unfold Link.perform
  split
  · next connection es hstep =>
    refine .single ⟨.connection a, ?_⟩
    simp [step?, act?, withLink, hstep]
  · exact .refl

theorem steps_takeMessages_link (c : Channel) (n : Nat) (l : Link) :
    Steps (c.withLink l) (c.withLink (Link.takeMessages n l)) := by
  induction n generalizing l with
  | zero => exact .refl
  | succ n ih => exact (steps_perform c l .handle).trans (ih _)

theorem steps_runTask (c : Channel) (now fuel : Nat) (l : Link) :
    Steps (c.withLink l) (c.withLink (Link.runTask now fuel l)) := by
  induction fuel generalizing l with
  | zero => exact .refl
  | succ fuel ih =>
    rw [Link.runTask]
    split
    · next a far _ => exact (steps_perform c { l with far } a).trans (ih _)
    · exact .refl

/-- The turn of the connection. -/
theorem steps_turn_link (now : Nat) (c : Channel) (l : Link) :
    Steps (c.withLink l) (c.withLink (l.turn now)) :=
  (steps_perform c l (.start now)).trans
    ((steps_takeMessages_link c _ _).trans (steps_runTask c now _ _))

theorem steps_takeMessages (n : Nat) (c : Channel) : Steps c (Circuit.takeMessages n c) := by
  induction n generalizing c with
  | zero => exact .refl
  | succ n ih =>
    rw [Circuit.takeMessages]
    cases h : c.takeMessage? with
    | none => exact ih c
    | some c' => exact .head ⟨.hub, h⟩ (ih c')

/-- The connection's turn and then the hub's are small steps. -/
theorem steps_turn (now : Nat) (l : Circuit) : Steps l.channel (l.turn now).channel := by
  have hstart : l.channel.withLink l.link = l.channel := by simp [withLink, Circuit.link]
  have hconnection := steps_turn_link now l.channel l.link
  rw [hstart] at hconnection
  exact hconnection.trans (steps_takeMessages _ _)

/-- A channel that settles takes small steps. -/
theorem steps_settle (now : Nat) (l : Circuit) : Steps l.channel (l.settle now).channel := by
  unfold Circuit.settle
  generalize l.link.taskBound + 8 = fuel
  induction fuel generalizing l with
  | zero => exact .refl
  | succ fuel ih =>
    rw [Circuit.turns]
    split
    · exact .refl
    · exact (steps_turn now l).trans (ih _)

end Channel

end PartyLine
