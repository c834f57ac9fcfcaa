import PartyLine.Proofs.Channel.Scene

/-!
# What is written

What the transport has written is a beginning of what was sent while the connection was
open, frame for frame and in the same order. What is sent at other times goes nowhere,
and after a failed write or the observed end nothing more is written.

On its way a frame waits twice, in the inbox of the connection's actor and in the queue of
its task, and both keep the order. `Connection.Outgoing` keeps account of the whole way: until
the task is over, what was sent is what has been written, then what is queued, then what
waits for the actor. Once the task has left its loop it never writes again, so that what
has been written by then stays the beginning of what was sent, however much is sent later.

* `Scene.Steps.writes_eq`: nothing is written once the task has left its loop;
* `outbound_prefix`: the law of writing, in every use of a channel.
-/

namespace PartyLine

/-- Whether an action is a failed write or the observed end of the connection. -/
def Connection.Action.isLast : Connection.Action → Bool
  | wrote _ (some _) | received _ (.failed _) | received _ .ended => true
  | _ => false

/-- The last action of the loop writes nothing, and the task leaves the loop. -/
theorem Connection.Step.isOver_of_isLast {c c' : Connection} {a : Action}
    {es : List ConnectionEvent} (h : Step c a c' es) (ha : a.isLast) :
    c.writing a = [] ∧ c'.task.isOver := by
  cases h with
  | unwritten => exact ⟨rfl, rfl⟩
  | @received _ x =>
    cases x with
    | frame f => cases ha
    | failed e | ended => exact ⟨rfl, rfl⟩
  | disconnected _ h => rcases h with rfl | ⟨now, -, rfl⟩ <;> cases ha
  | start | handle | connected | refused | connectExpired | wrote | queueClosed => cases ha

namespace Scene

variable {params : ConnectParams} {fault : Option TransportError} {s s' : Scene}

/-- Once the task has left its loop, nothing more is written. -/
theorem Step.writes_eq (h : Invariant s) (ht : s.trace.task.isOver) (hs : Step s s') :
    s'.trace.writes = s.trace.writes ∧ s'.trace.task.isOver := by
  cases hs with
  | @act a c hc =>
    cases a with
    | connection a =>
      obtain ⟨⟨connection, es⟩, hstep, -⟩ := Option.map_eq_some_iff.1 hc
      obtain ⟨hw, hover⟩ := h.sound.course.isOver (h.sound.task ▸ ht)
        (Connection.step_of_step? hstep)
      simp [observe, hstep, hw, hover]
    | hub | subscribe | release | send => exact ⟨rfl, ht⟩
  | check | handOver | rearrange => exact ⟨rfl, ht⟩

/-- Nor is anything written in any number of steps from then on. -/
theorem Steps.writes_eq (h : Invariant s) (ht : s.trace.task.isOver) (hs : Steps s s') :
    s'.trace.writes = s.trace.writes ∧ s'.trace.task.isOver := by
  induction hs with
  | refl => exact ⟨rfl, ht⟩
  | tail hs hstep ih =>
    obtain ⟨hw, hover⟩ := hstep.writes_eq (h.steps hs) ih.2
    exact ⟨hw.trans ih.1, hover⟩

end Scene

namespace Channel

/-- In every use of a channel, what the transport has written is a beginning of what was
    sent while the connection was open: of the envelopes counted as sent, encoded, in the
    order of sending. An envelope is among them if the connection is open when it is sent;
    if not, neither they nor the connection change. And after a failed write or the
    observed end of the connection nothing more is written, whatever happens. -/
theorem outbound_prefix {params : ConnectParams} {fault : Option TransportError} {s : Scene}
    (h : Scene.Reachable params fault s) :
    s.trace.writes <+: (sentIn s.channel.journal).map Envelope.encode ∧
    s.channel.statistics.sent = (sentIn s.channel.journal).length ∧
    (∀ e, sentIn (s.channel.send e).journal =
        sentIn s.channel.journal ++ if s.channel.state.isOpen then [e] else []) ∧
    (s.channel.state.isOpen = false → ∀ e,
      (s.channel.send e).connection = s.channel.connection) ∧
    ∀ a c, a.isLast → s.channel.step? (.connection a) = some c →
      ∀ s', Scene.Steps { s with channel := c, trace := s.observe (.connection a) } s' →
        s'.trace.writes = s.trace.writes := by
  have hinv := h.invariant
  refine ⟨hinv.sound.outgoing.written_prefix, hinv.sound.counted, ?_, ?_, ?_⟩
  · intro e
    unfold Channel.send
    split
    · simp [handOver]
    · simp
  · intro hs e
    simp [Channel.send, hs]
  · intro a c ha hc s' hs'
    obtain ⟨⟨connection, es⟩, hstep, -⟩ := Option.map_eq_some_iff.1 hc
    obtain ⟨hw, hover⟩ := (Connection.step_of_step? hstep).isOver_of_isLast ha
    have hnext := hinv.step (.act hc)
    obtain ⟨hwrites, -⟩ := Scene.Steps.writes_eq hnext
      (by simpa [Scene.observe, hstep] using hover) hs'
    simpa [Scene.observe, hstep, hw] using hwrites

/-- A connection that is sent an envelope too early and two when it is open, and has
    written the first of them. -/
def halfWritten : Scene :=
  (Scene.start { url := "ws://host" } none).after [.connection (.start 0), .send { kind := "a" },
    .connection (.connected none), .connection .handle, .send { kind := "b" },
    .send { kind := "c" }, .connection .handle, .connection .handle, .connection (.wrote 0 none)]

theorem outbound_prefix_halfWritten :
    sentIn halfWritten.channel.journal = [{ kind := "b" }, { kind := "c" }] ∧
    halfWritten.trace.writes = [Envelope.encode { kind := "b" }] ∧
    halfWritten.trace.writes <+: (sentIn halfWritten.channel.journal).map Envelope.encode ∧
    ∃ c, (Connection.Action.wrote 0 (some .timeout)).isLast ∧
      halfWritten.channel.step? (.connection (.wrote 0 (some .timeout))) = some c ∧
      (({ halfWritten with
          channel := c
          trace := halfWritten.observe (.connection (.wrote 0 (some .timeout))) } : Scene).after
        [.connection .disconnected, .connection .handle, .send { kind := "d" }]).trace.writes =
          halfWritten.trace.writes := by
  obtain ⟨hwritten, -, -, -, hlast⟩ := outbound_prefix (s := halfWritten)
    (Scene.reachable_after _ _ _)
  exact ⟨rfl, rfl, hwritten, _, rfl, rfl, hlast _ _ rfl rfl _ (Scene.steps_after _ _)⟩

end Channel

end PartyLine
