import PartyLine.Proofs.Connection.Queueing

/-!
# Guarded connections

The actor of a connection knows its transport, its queue and its task by fields of its own; what
it takes them for is one thing, and what is the case another. Before it acts it looks at these
fields and at its state, also where they cannot but be in order, and has a way out for when they
are not. A *guarded* connection has the fields and the ways out, with a remark for each of them,
where `Connection` looks at the task and the queue themselves and does without.

* `Remark`: what the actor and its task remark on, and which remarks are defensive;
* `Guarded.step?`: the small steps of a guarded connection, with the remarks made;
* `Guarded.Shows`: a guarded connection and the connection that it shows;
* `Shows.transition`, `start`, `handle`, `finish`: the two go together, function by function,
  and no remark is defensive.
-/

namespace PartyLine

namespace Connection

/-- What the actor and its task remark on, without a report. -/
inductive Remark where
  /-- The attempt has begun before. -/
  | begunBefore (state : ConnectionState)
  /-- The state has no transition for the signal. -/
  | signalIgnored (signal : Signal) (state : ConnectionState)
  /-- A frame that was read is not reported, as the connection is not open. -/
  | frameDiscarded (state : ConnectionState)
  /-- A frame is not queued, as the connection is not open. -/
  | requestDiscarded (state : ConnectionState)
  /-- A frame is not queued: the connection is open, and the actor has no end of the queue. -/
  | senderMissing
  /-- A frame is not queued: its task is over, and the actor has still to hear of it. -/
  | taskGone
  /-- The loop of the task finds its queue closed. -/
  | queueClosed
  /-- The actor stops while it has the handle of a task, which it cancels. -/
  | taskCancelled
  deriving DecidableEq

/-- Whether something was out of order. A request to write is not: it may come too early, or too
    late. -/
def Remark.isDefensive : Remark → Bool
  | requestDiscarded _ | taskGone => false
  | begunBefore _ | signalIgnored _ _ | frameDiscarded _ | senderMissing | queueClosed
  | taskCancelled => true

/-- A connection with all that its actor keeps for itself. -/
structure Guarded where
  params : ConnectParams
  /-- What there is to connect with, until the attempt begins: a transport, or the error that
      there was instead. -/
  transport : Option (Except TransportError Unit)
  state : ConnectionState := .idle
  /-- Whether the actor has its end of the queue. -/
  sender : Bool := false
  /-- Whether the actor has the handle of a task. -/
  taskHandle : Bool := false
  /-- Whether the actor has been started, as every actor is once. -/
  started : Bool := false
  /-- What the task does that has been spawned; unstarted if none has. -/
  task : Task := .unstarted
  /-- The frames that the task has still to write. -/
  queue : List String := []
  inbox : List Message := []
  stopped : Bool := false

namespace Guarded

/-- What a step leads to, with the events reported and the remarks made. -/
structure Outcome where
  guarded : Guarded
  events : List ConnectionEvent := []
  remarks : List Remark := []

/-- What there is to connect with, given what there is no transport for, if so. -/
def transportOf : Option TransportError → Except TransportError Unit
  | none => .ok ()
  | some e => .error e

/-- Puts a message into the inbox. -/
def post (g : Guarded) (m : Message) : Guarded := { g with inbox := g.inbox ++ [m] }

/-- The actor's end, at once when it is asked to stop. It drops its end of the queue and cancels
    the task of which it has the handle; a task that still runs is gone with it. -/
def halt (g : Guarded) (events : List ConnectionEvent) : Outcome where
  guarded := { g with
    stopped := true, sender := false, taskHandle := false,
    task := if g.task.isRunning then .finished else g.task }
  events := events
  remarks := if g.taskHandle then [.taskCancelled] else []

/-- Applies a signal, unless the state has no transition for it. A terminal state drops the
    actor's end of the queue, and ends the actor too unless it has the handle of a task. -/
def transition (g : Guarded) (signal : Signal) (report : List ConnectionEvent) : Outcome :=
  match g.state.next signal with
  | none => { guarded := g, remarks := [.signalIgnored signal g.state] }
  | some next =>
      let g := { g with state := next }
      if next.isTerminal then
        let g := { g with sender := false }
        if g.taskHandle then { guarded := g, events := report } else g.halt report
      else { guarded := g, events := report }

/-- The actor's start: the attempt begins with what there is to connect with, unless that has been
    taken before. -/
def start (g : Guarded) (now : Nat) : Outcome :=
  match g.transport with
  | none => { guarded := g, remarks := [.begunBefore g.state] }
  | some transport =>
      let o := { g with transport := none }.transition .initiate []
      match transport with
      | .error e => { o with guarded := o.guarded.post (.failed e) }
      | .ok () => { o with guarded := { o.guarded with
          sender := true, taskHandle := true,
          task := .connecting (now + g.params.connectTimeout) } }

/-- The actor's handling of one message. -/
def handle (g : Guarded) : Message → Outcome
  | .connected => g.transition .opened [.opened]
  | .received f =>
      if g.state.isOpen then { guarded := g, events := [.frame f] }
      else { guarded := g, remarks := [.frameDiscarded g.state] }
  | .failed e => g.transition .failed [.failed e]
  | .ended => g.transition .closed [.closed]
  | .send f =>
      if g.state.isOpen then
        if g.sender then
          -- the other end of the queue is the task's, for as long as it is running
          if g.task.isRunning then { guarded := { g with queue := g.queue ++ [f] } }
          else { guarded := g, remarks := [.taskGone] }
        else { guarded := g, remarks := [.senderMissing] }
      else { guarded := g, remarks := [.requestDiscarded g.state] }

/-- The end of the task: the actor lets go of its handle, and stops in a terminal state. -/
def finish (g : Guarded) : Outcome :=
  let g := { g with taskHandle := false, task := .finished }
  if g.state.isTerminal then g.halt [] else { guarded := g }

/-- Leaves the loop for the disconnecting. -/
def leave (g : Guarded) (now : Nat) : Guarded :=
  { g with task := .disconnecting (now + g.params.connectTimeout) }

/-- The task's reaction to an answer to reading. -/
def take (g : Guarded) (now : Nat) : Received → Guarded
  | .frame f => g.post (.received f)
  | .failed e => (g.post (.failed e)).leave now
  | .ended => (g.post .ended).leave now

/-- What an action leads to; nothing if it is not possible. -/
def step? (g : Guarded) : Action → Option Outcome
  | .start now =>
      if !g.started ∧ !g.stopped then some ({ g with started := true }.start now) else none
  | .handle =>
      if g.stopped then none
      else
        match g.inbox with
        | [] => none
        | m :: rest => some ({ g with inbox := rest }.handle m)
  | .connected answer =>
      match g.task, answer with
      | .connecting _, none => some { guarded := { g with task := .serving }.post .connected }
      | .connecting _, some e => some (g.post (.failed e)).finish
      | _, _ => none
  | .connectExpired now =>
      match g.task with
      | .connecting deadline =>
          if deadline ≤ now then some (g.post (.failed .timeout)).finish else none
      | _ => none
  | .wrote now answer =>
      match g.task, g.queue, answer with
      | .serving, _ :: rest, none => some { guarded := { g with queue := rest } }
      | .serving, _ :: rest, some e =>
          some { guarded := ({ g with queue := rest }.post (.failed e)).leave now }
      | _, _, _ => none
  | .queueClosed now =>
      if g.task = .serving ∧ g.queue.isEmpty ∧ !g.sender then
        some { guarded := g.leave now, remarks := [.queueClosed] }
      else none
  | .received now answer =>
      if g.task = .serving ∧ g.queue.isEmpty ∧ g.sender then
        some { guarded := g.take now answer }
      else none
  | .disconnected =>
      match g.task with
      | .disconnecting _ => some g.finish
      | _ => none
  | .disconnectExpired now =>
      match g.task with
      | .disconnecting deadline => if deadline ≤ now then some g.finish else none
      | _ => none

/-! ## What is shown -/

/-- A guarded connection and the connection that it shows: the fields of the actor say what is the
    case, and the queue is the same, unless nobody is left to write it. -/
structure Shows (g : Guarded) (c : Connection) : Prop where
  params : g.params = c.params
  transport : c.task = .unstarted → g.transport = some (transportOf c.fault)
  state : g.state = c.state
  sender : g.sender = c.canQueue
  taskHandle : g.taskHandle = c.task.isRunning
  started : g.started = (c.task != .unstarted)
  /-- Without a transport no task is spawned, where the connection shows one that is over. -/
  task : g.task = c.task ∨ g.task = .unstarted ∧ c.task = .finished
  queue : c.task ≠ .finished → g.queue = c.queue
  inbox : g.inbox = c.inbox
  stopped : g.stopped = c.stopped

/-- What is led to shows what it should, the same events are reported, and no remark is
    defensive. -/
structure Outcome.Shows (o : Outcome) (p : Connection × List ConnectionEvent) : Prop where
  guarded : o.guarded.Shows p.1
  events : o.events = p.2
  quiet : ∀ x ∈ o.remarks, x.isDefensive = false

variable {g : Guarded} {c : Connection} {reads : List Received} {events : List ConnectionEvent}

/-- A new guarded connection shows a new connection. -/
theorem shows_init (params : ConnectParams) (fault : Option TransportError) :
    Shows { params, transport := some (transportOf fault) } { params, fault } where
  params := rfl
  transport _ := rfl
  state := rfl
  sender := rfl
  taskHandle := rfl
  started := rfl
  task := .inl rfl
  queue _ := rfl
  inbox := rfl
  stopped := rfl

/-- The task that has been spawned is running if the one that is shown is. -/
theorem Shows.isRunning_eq (h : g.Shows c) : g.task.isRunning = c.task.isRunning := by
  rcases h.task with ht | ⟨ht, ht'⟩
  · rw [ht]
  · rw [ht, ht']
    rfl

theorem Shows.started_eq (h : g.Shows c) (ht : c.task ≠ .unstarted) : g.started = true := by
  rw [h.started]
  simpa using ht

theorem Shows.post (h : g.Shows c) (m : Message) : (g.post m).Shows (c.post m) :=
  { h with inbox := congrArg (· ++ [m]) h.inbox }

/-! ### The task -/

/-- The task goes on to another point of its work. -/
theorem Shows.move (h : g.Shows c) (ht : c.task.isRunning) {t : Task} (ht' : t.isRunning) :
    Shows { g with task := t } { c with task := t } :=
  { h with
    transport := fun heq => absurd heq (Task.ne_unstarted ht')
    taskHandle := h.taskHandle.trans (ht.trans ht'.symm)
    started := by
      rw [h.started_eq (Task.ne_unstarted ht)]
      exact (bne_iff_ne.2 (Task.ne_unstarted ht')).symm
    task := .inl rfl
    queue := fun _ => h.queue fun heq => by rw [heq] at ht; cases ht }

theorem Shows.leave (h : g.Shows c) (ht : c.task.isRunning) (now : Nat) :
    (g.leave now).Shows (c.leave now) := by
  have hgo : g.leave now = { g with task := .disconnecting (now + c.params.connectTimeout) } := by
    simp [Guarded.leave, h.params]
  rw [hgo]
  exact h.move ht rfl

theorem Shows.take (h : g.Shows c) (ht : c.task.isRunning) (now : Nat) (x : Received) :
    (g.take now x).Shows (c.take now x) := by
  cases x with
  | frame f => exact h.post _
  | failed e => exact (h.post _).leave ht now
  | ended => exact (h.post _).leave ht now

/-- The actor stops, with no task to cancel. -/
theorem Shows.halt (h : g.Shows c) (ht : c.task = .finished) (es : List ConnectionEvent) :
    (g.halt es).Shows (c.stop, es) := by
  have hover : c.task.isRunning = false := by
    rw [ht]
    rfl
  have hgo : g.halt es = { guarded := { g with
      stopped := true, sender := false, taskHandle := false }, events := es } := by
    simp [Guarded.halt, h.isRunning_eq, h.taskHandle, hover]
  rw [hgo]
  refine ⟨{ h with
    transport := by rintro ⟨⟩
    sender := rfl
    taskHandle := rfl
    started := h.started_eq (by simp [ht])
    task := by simpa [ht, stop] using h.task
    queue := fun hne => absurd rfl hne
    stopped := rfl }, rfl, List.forall_mem_nil _⟩

/-- A task that was running ends, and the actor has let go of its handle before it may stop. -/
theorem Shows.finish (h : g.Shows c) (ht : c.task.isRunning) :
    g.finish.Shows (c.finish, []) := by
  have hover : Shows { g with taskHandle := false, task := .finished }
      { c with task := .finished } :=
    { h with
      transport := by rintro ⟨⟩
      taskHandle := rfl
      started := h.started_eq (Task.ne_unstarted ht)
      task := .inl rfl
      queue := fun hne => absurd rfl hne }
  cases hterminal : c.state.isTerminal with
  | false =>
    have hgo : g.finish = { guarded := { g with taskHandle := false, task := .finished } } := by
      simp [Guarded.finish, h.state, hterminal]
    have hco : c.finish = { c with task := .finished } := by simp [Connection.finish, hterminal]
    rw [hgo, hco]
    exact ⟨hover, rfl, List.forall_mem_nil _⟩
  | true =>
    have hgo : g.finish = Guarded.halt { g with taskHandle := false, task := .finished } [] := by
      simp [Guarded.finish, h.state, hterminal]
    have hco : c.finish = Connection.stop { c with task := .finished } := by
      simp [Connection.finish, hterminal]
    rw [hgo, hco]
    exact hover.halt rfl []

/-! ### The actor -/

/-- A signal that the state has a transition for is not ignored, and the actor does not stop with
    a task to cancel. -/
theorem Shows.transition (h : g.Shows c) (ht : c.task ≠ .unstarted) {signal : Signal}
    {s : ConnectionState} (hs : c.state.next signal = some s) (report : List ConnectionEvent) :
    (g.transition signal report).Shows (c.transition signal report) := by
  have hg : g.state.next signal = some s := by rw [h.state, hs]
  cases hterminal : s.isTerminal with
  | false =>
    have hgo : g.transition signal report =
        { guarded := { g with state := s }, events := report } := by
      simp [Guarded.transition, hg, hterminal]
    have hco : c.transition signal report = ({ c with state := s }, report) := by
      simp [Connection.transition, hs, hterminal]
    rw [hgo, hco]
    exact ⟨{ h with state := rfl }, rfl, List.forall_mem_nil _⟩
  | true =>
    -- a terminal state drops the sender; it stops the actor too if there is no task to wait for
    have hdropped : Shows { g with state := s, sender := false }
        { c with state := s, canQueue := false } :=
      { h with state := rfl, sender := rfl }
    cases hrunning : c.task.isRunning with
    | true =>
      have hgo : g.transition signal report =
          { guarded := { g with state := s, sender := false }, events := report } := by
        simp [Guarded.transition, hg, hterminal, h.taskHandle, hrunning]
      have hco : c.transition signal report =
          ({ c with state := s, canQueue := false }, report) := by
        simp [Connection.transition, hs, hterminal, hrunning]
      rw [hgo, hco]
      exact ⟨hdropped, rfl, List.forall_mem_nil _⟩
    | false =>
      have hgo : g.transition signal report =
          Guarded.halt { g with state := s, sender := false } report := by
        simp [Guarded.transition, hg, hterminal, h.taskHandle, hrunning]
      have hco : c.transition signal report =
          (Connection.stop { c with state := s, canQueue := false }, report) := by
        simp [Connection.transition, hs, hterminal, hrunning]
      rw [hgo, hco]
      exact hdropped.halt (Task.eq_finished ht hrunning) report

/-- The attempt begins with what there is to connect with, which has not been taken before. -/
theorem Shows.start (h : g.Shows c) (hcourse : Course c reads events) (ht : c.task = .unstarted)
    (now : Nat) : (Guarded.start { g with started := true } now).Shows (c.start now, []) := by
  have hidle := hcourse.idle ht
  have htransition : Guarded.transition { g with started := true, transport := none }
      .initiate [] =
      { guarded := { g with started := true, transport := none, state := .connecting } } := by
    simp [Guarded.transition, h.state, hidle, ConnectionState.next, ConnectionState.isTerminal]
  cases hfault : c.fault with
  | none =>
    -- both start a task with the same deadline
    have hgo : Guarded.start { g with started := true } now = { guarded := { g with
        started := true, transport := none, state := .connecting, sender := true,
        taskHandle := true, task := .connecting (now + g.params.connectTimeout) } } := by
      simp [Guarded.start, h.transport ht, hfault, transportOf, htransition]
    have hco : c.start now = { c with
        state := .connecting, task := .connecting (now + c.params.connectTimeout),
        canQueue := true } := by
      rw [start_eq hidle, hfault]
    rw [hgo, hco]
    refine ⟨{ h with
      transport := by rintro ⟨⟩
      state := rfl
      sender := rfl
      taskHandle := rfl
      started := rfl
      task := .inl (by simp [h.params])
      queue := fun _ => h.queue (by simp [ht]) }, rfl, List.forall_mem_nil _⟩
  | some e =>
    have hgo : Guarded.start { g with started := true } now = { guarded := Guarded.post { g with
        started := true, transport := none, state := .connecting } (.failed e) } := by
      simp [Guarded.start, h.transport ht, hfault, transportOf, htransition]
    have hco : c.start now =
        Connection.post { c with state := .connecting, task := .finished } (.failed e) := by
      rw [start_eq hidle, hfault]
    rw [hgo, hco]
    -- the guarded actor has no task at all then, where the other one's is finished
    have hunspawned : g.task = .unstarted := by
      rcases h.task with heq | ⟨heq, -⟩
      · rw [heq, ht]
      · exact heq
    have hbegun : Shows { g with started := true, transport := none, state := .connecting }
        { c with state := .connecting, task := .finished } :=
      { h with
        transport := by rintro ⟨⟩
        state := rfl
        taskHandle := by simp [h.taskHandle, ht, Task.isRunning]
        started := rfl
        task := .inr ⟨hunspawned, rfl⟩
        queue := fun hne => absurd rfl hne }
    exact ⟨hbegun.post _, rfl, List.forall_mem_nil _⟩

/-- A request to write that comes while the connection is open is queued, or comes too late. -/
theorem Shows.handle_send (h : g.Shows c)
    (hopen : c.state = .opened → c.task ≠ .unstarted ∧ c.canQueue) (f : String) :
    (g.handle (.send f)).Shows (c.handle (.send f)) := by
  by_cases hs : c.state = .opened
  · obtain ⟨hne, hcan⟩ := hopen hs
    have hco : c.handle (.send f) = ({ c with queue := c.queue ++ [f] }, []) := by
      simp [Connection.handle, hs, hcan, ConnectionState.isOpen]
    rw [hco]
    cases hrunning : c.task.isRunning with
    | true =>
      have hgo : g.handle (.send f) = { guarded := { g with queue := g.queue ++ [f] } } := by
        simp [Guarded.handle, h.state, hs, h.sender, hcan, h.isRunning_eq, hrunning,
          ConnectionState.isOpen]
      rw [hgo]
      exact ⟨{ h with queue := fun hne => congrArg (· ++ [f]) (h.queue hne) }, rfl,
        List.forall_mem_nil _⟩
    | false =>
      -- the connection still queues the frame, for a task that will not write it
      have hover : c.task = .finished := Task.eq_finished hne hrunning
      have hgo : g.handle (.send f) = { guarded := g, remarks := [.taskGone] } := by
        simp [Guarded.handle, h.state, hs, h.sender, hcan, h.isRunning_eq, hrunning,
          ConnectionState.isOpen]
      rw [hgo]
      exact ⟨{ h with queue := fun hne => absurd hover hne }, rfl, by simp [Remark.isDefensive]⟩
  · have hclosed : c.state.isOpen = false := by simpa [ConnectionState.isOpen] using hs
    have hgo : g.handle (.send f) = { guarded := g, remarks := [.requestDiscarded g.state] } := by
      simp [Guarded.handle, h.state, hclosed]
    have hco : c.handle (.send f) = (c, []) := by simp [Connection.handle, hclosed]
    rw [hgo, hco]
    exact ⟨h, rfl, by simp [Remark.isDefensive]⟩

/-- Every message of the task is taken in a state that it was meant for. -/
theorem Shows.handle {m : Message} {rest : List Message} (h : g.Shows c)
    (hcourse : Course c reads events) (hq : Queueing c) (hi : c.inbox = m :: rest) :
    (Guarded.handle { g with inbox := rest } m).Shows ({ c with inbox := rest }.handle m) := by
  have htaken : Shows { g with inbox := rest } { c with inbox := rest } := { h with inbox := rfl }
  cases hm : m.event? with
  | none =>
    cases m with
    | send f => exact htaken.handle_send (hq.of_opened hcourse) f
    | connected | received f | failed e | ended => cases hm
  | some e =>
    obtain ⟨ht, s, -, hs, -⟩ := hcourse.handle_event hi hm
    cases m with
    | connected | failed e | ended =>
      cases hm
      exact htaken.transition ht hs _
    | received f =>
      cases hm
      have hopen : c.state.isOpen := by
        by_contra hclosed
        simp [ConnectionState.after?, hclosed] at hs
      have hgo : Guarded.handle { g with inbox := rest } (.received f) =
          { guarded := { g with inbox := rest }, events := [.frame f] } := by
        simp [Guarded.handle, h.state, hopen]
      have hco : { c with inbox := rest }.handle (.received f) =
          ({ c with inbox := rest }, [.frame f]) := by
        simp [Connection.handle, hopen]
      rw [hgo, hco]
      exact ⟨htaken, rfl, List.forall_mem_nil _⟩
    | send f => cases hm

end Guarded

end Connection

end PartyLine
