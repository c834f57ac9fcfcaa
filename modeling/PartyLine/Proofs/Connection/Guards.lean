import PartyLine.Proofs.Connection.Guarded

/-!
# Guards

What a connection does is the same with its guards and without, and none of them is ever met:
each is there for a disorder that no transport, no order of events and no owner can bring about.

The guarded connection has fields of its own for what the other one sees directly, so the two are
kept in one relation (`Guarded.Shows`), by which the fields say what is the case. Each function
of the actor then does the same on both sides and makes no defensive remark; put together,
this is a simulation in both directions, in which either is stuck where the other is
(`Shows.step`). What the relation needs is known of connections without guards: the state follows
the story of the task (`Course`), and the queue is open as long as frames may be queued
(`Queueing`). So what is proved of connections holds of guarded ones. All that may be remarked on is
that a request to write comes too early or too late, which is nobody's fault.

* `Guarded.Shows.step`: a guarded connection and the one it shows make the same steps;
* `Guarded.Lived`: the histories of guarded connections, with all the remarks made;
* `Guarded.Lived.exists_lived`, `exists_lived_of_lived`: they are those of connections;
* `no_defensive_remark`: in all of them the fields of the actor say what is the case, and none of
  its ways out is taken.
-/

namespace PartyLine

namespace Connection

namespace Guarded

variable {g : Guarded} {c : Connection} {reads : List Received} {events : List ConnectionEvent}

/-! ## Steps -/

/-- Where neither can do anything. -/
theorem rel_none {o : Option Outcome} {p : Option (Connection × List ConnectionEvent)}
    (ho : o = none) (hp : p = none) : Option.Rel Outcome.Shows o p := by
  rw [ho, hp]
  exact .none

theorem Shows.step_handle (h : g.Shows c) (hcourse : Course c reads events) (hq : Queueing c) :
    Option.Rel Outcome.Shows (g.step? .handle) (c.step? .handle) := by
  cases hstopped : c.stopped with
  | true =>
    have hgo : g.step? .handle = none := by simp [Guarded.step?, h.stopped, hstopped]
    exact rel_none hgo (by simp [Connection.step?, hstopped])
  | false =>
    cases hi : c.inbox with
    | nil => exact rel_none (by simp [Guarded.step?, h.inbox, hi]) (by simp [Connection.step?, hi])
    | cons m rest =>
      have hgo : g.step? .handle = some (Guarded.handle { g with inbox := rest } m) := by
        simp [Guarded.step?, h.stopped, hstopped, h.inbox, hi]
      have hco : c.step? .handle = some ({ c with inbox := rest }.handle m) := by
        simp [Connection.step?, hstopped, hi]
      rw [hgo, hco]
      exact .some (h.handle hcourse hq hi)

theorem Shows.step_start (h : g.Shows c) (hcourse : Course c reads events) (now : Nat) :
    Option.Rel Outcome.Shows (g.step? (.start now)) (c.step? (.start now)) := by
  by_cases hc : c.task = .unstarted ∧ c.stopped = false
  · have hgo : g.step? (.start now) = some (Guarded.start { g with started := true } now) := by
      simp [Guarded.step?, h.started, h.stopped, hc]
    have hco : c.step? (.start now) = some (c.start now, []) := by simp [Connection.step?, hc]
    rw [hgo, hco]
    exact .some (h.start hcourse hc.1 now)
  · exact rel_none (by simpa [Guarded.step?, h.started, h.stopped] using hc)
      (by simpa [Connection.step?] using hc)

theorem Shows.step_wrote (h : g.Shows c) (ht : g.task = c.task) (now : Nat)
    (answer : Option TransportError) :
    Option.Rel Outcome.Shows (g.step? (.wrote now answer)) (c.step? (.wrote now answer)) := by
  by_cases hc : c.task = .serving
  · have hqueue := h.queue (by simp [hc])
    cases hrest : c.queue with
    | nil =>
      rw [hrest] at hqueue
      exact rel_none (by simp [Guarded.step?, hqueue]) (by simp [Connection.step?, hrest])
    | cons f rest =>
      rw [hrest] at hqueue
      have hwrote : Shows { g with queue := rest } { c with queue := rest } :=
        { h with queue := fun _ => rfl }
      cases answer with
      | none =>
        have hgo : g.step? (.wrote now none) = some { guarded := { g with queue := rest } } := by
          simp [Guarded.step?, ht, hc, hqueue]
        have hco : c.step? (.wrote now none) = some ({ c with queue := rest }, []) := by
          simp [Connection.step?, hc, hrest]
        rw [hgo, hco]
        exact .some ⟨hwrote, rfl, List.forall_mem_nil _⟩
      | some e =>
        have hgo : g.step? (.wrote now (some e)) = some { guarded :=
            (Guarded.post { g with queue := rest } (.failed e)).leave now } := by
          simp [Guarded.step?, ht, hc, hqueue]
        have hco : c.step? (.wrote now (some e)) =
            some ((Connection.post { c with queue := rest } (.failed e)).leave now, []) := by
          simp [Connection.step?, hc, hrest]
        rw [hgo, hco]
        have hrunning : c.task.isRunning := by
          rw [hc]
          rfl
        exact .some ⟨(hwrote.post _).leave hrunning now, rfl, List.forall_mem_nil _⟩
  · exact rel_none (by simp [Guarded.step?, ht, hc]) (by simp [Connection.step?, hc])

/-- A guarded connection can do what the connection that it shows can do, and nothing else; it
    reports the same, and no remark of it is defensive. -/
theorem Shows.step (h : g.Shows c) (hcourse : Course c reads events) (hq : Queueing c)
    (a : Action) : Option.Rel Outcome.Shows (g.step? a) (c.step? a) := by
  have running {t : Task} (hc : c.task = t) (ht : t.isRunning) : c.task.isRunning := hc ▸ ht
  rcases h.task with ht | ⟨hg, hc⟩
  · cases a with
    | start now => exact h.step_start hcourse now
    | handle => exact h.step_handle hcourse hq
    | connected answer =>
      simp only [Guarded.step?, Connection.step?, ht]
      cases hc : c.task with
      | connecting d =>
        cases answer with
        | none => exact .some ⟨(h.move (running hc rfl) rfl).post _, rfl, List.forall_mem_nil _⟩
        | some e => exact .some ((h.post _).finish (running hc rfl))
      | unstarted | serving | disconnecting | finished => exact .none
    | connectExpired now =>
      simp only [Guarded.step?, Connection.step?, ht]
      cases hc : c.task with
      | connecting d =>
        dsimp only
        split
        · exact .some ((h.post _).finish (running hc rfl))
        · exact .none
      | unstarted | serving | disconnecting | finished => exact .none
    | wrote now answer => exact h.step_wrote ht now answer
    | queueClosed now =>
      -- the actor has its end of the queue for as long as the loop goes on
      by_cases hc : c.task = .serving
      · have hcan := (hcourse.serving hc).2
        exact rel_none (by simp [Guarded.step?, h.sender, hcan]) (by simp [Connection.step?, hcan])
      · exact rel_none (by simp [Guarded.step?, ht, hc]) (by simp [Connection.step?, hc])
    | received now x =>
      by_cases hc : c.task = .serving
      · simp only [Guarded.step?, Connection.step?, ht, h.queue (by simp [hc]), h.sender]
        split
        · exact .some ⟨h.take (running hc rfl) now x, rfl, List.forall_mem_nil _⟩
        · exact .none
      · exact rel_none (by simp [Guarded.step?, ht, hc]) (by simp [Connection.step?, hc])
    | disconnected =>
      simp only [Guarded.step?, Connection.step?, ht]
      cases hc : c.task with
      | disconnecting d => exact .some (h.finish (running hc rfl))
      | unstarted | connecting | serving | finished => exact .none
    | disconnectExpired now =>
      simp only [Guarded.step?, Connection.step?, ht]
      cases hc : c.task with
      | disconnecting d =>
        dsimp only
        split
        · exact .some (h.finish (running hc rfl))
        · exact .none
      | unstarted | connecting | serving | finished => exact .none
  · -- no task has been spawned, and none will be
    cases a with
    | start now => exact h.step_start hcourse now
    | handle => exact h.step_handle hcourse hq
    | _ => exact rel_none (by simp [Guarded.step?, hg]) (by simp [Connection.step?, hc])

/-! ## Lives -/

/-- The histories of all uses of a new guarded connection, with all the remarks made. -/
inductive Lived (params : ConnectParams) (fault : Option TransportError) :
    Guarded → History → List Remark → Prop
  | new : Lived params fault { params, transport := some (transportOf fault) } {} []
  | act {g : Guarded} {r : History} {remarks : List Remark} {a : Action} {o : Outcome} :
      Lived params fault g r remarks → g.step? a = some o →
      Lived params fault o.guarded (r.add a g.state o.guarded.state o.events)
        (remarks ++ o.remarks)
  /-- The owner asks to write a frame. -/
  | ask {g : Guarded} {r : History} {remarks : List Remark} (f : String) :
      Lived params fault g r remarks → Lived params fault (g.post (.send f)) r remarks

variable {params : ConnectParams} {fault : Option TransportError} {r : History}
  {remarks : List Remark}

/-- A guarded connection lives as the one that it shows, and makes no defensive remark. -/
theorem Lived.exists_lived (h : Lived params fault g r remarks) :
    ∃ c, Connection.Lived params fault c r ∧ g.Shows c ∧
      ∀ x ∈ remarks, x.isDefensive = false := by
  induction h with
  | new => exact ⟨_, .new, shows_init params fault, List.forall_mem_nil _⟩
  | @act g r remarks a o _ hs ih =>
    obtain ⟨c, hlived, hshows, hquiet⟩ := ih
    have hrel := hshows.step hlived.kept.2.course hlived.queueing a
    rw [hs] at hrel
    generalize hp : c.step? a = p at hrel
    cases hrel with
    | @some _ p ho =>
      refine ⟨p.1, ?_, ho.guarded, List.forall_mem_append.2 ⟨hquiet, ho.quiet⟩⟩
      rw [hshows.state, ho.guarded.state, ho.events]
      exact hlived.act hp
  | ask f _ ih =>
    obtain ⟨c, hlived, hshows, hquiet⟩ := ih
    exact ⟨_, hlived.ask f, hshows.post _, hquiet⟩

/-- Every connection lives as a guarded one that shows it. -/
theorem exists_lived_of_lived (h : Connection.Lived params fault c r) :
    ∃ g remarks, Lived params fault g r remarks ∧ g.Shows c := by
  induction h with
  | new => exact ⟨_, _, .new, shows_init params fault⟩
  | @act c c' r a es hlived hs ih =>
    obtain ⟨g, remarks, hg, hshows⟩ := ih
    have hrel := hshows.step hlived.kept.2.course hlived.queueing a
    rw [hs] at hrel
    generalize ho : g.step? a = o at hrel
    cases hrel with
    | some hshows' =>
      have hact := hg.act ho
      rw [hshows.state, hshows'.guarded.state, hshows'.events] at hact
      exact ⟨_, _, hact, hshows'.guarded⟩
  | ask f _ ih =>
    obtain ⟨g, remarks, hg, hshows⟩ := ih
    exact ⟨_, _, hg.ask f, hshows.post _⟩

end Guarded

/-- Whatever the transport answers, in whatever order the actor and its task go on, and whenever
    the owner asks to write: the actor has its end of the queue while the connection is open, and
    no longer once it has ended; it has the handle of a task exactly while a task that was spawned
    has not finished; and none of its ways out for what is out of order has been taken. With all
    this it lives as the connection that it shows. -/
theorem no_defensive_remark {g : Guarded} {params : ConnectParams} {fault : Option TransportError}
    {r : History} {remarks : List Remark} (h : Guarded.Lived params fault g r remarks) :
    (g.state = .opened → g.sender) ∧ (g.state.isTerminal → g.sender = false) ∧
    (g.taskHandle ↔ g.task.isRunning) ∧ (∀ x ∈ remarks, x.isDefensive = false) ∧
    ∃ c, Lived params fault c r ∧ g.Shows c := by
  obtain ⟨c, hlived, hshows, hquiet⟩ := h.exists_lived
  have hq := hlived.queueing
  refine ⟨fun hs => ?_, fun hs => ?_, ?_, hquiet, c, hlived, hshows⟩
  · rw [hshows.state] at hs
    rw [hshows.sender]
    exact (hq.of_opened hlived.kept.2.course hs).2
  · rw [hshows.state] at hs
    rw [hshows.sender]
    exact hq.canQueue_of_isTerminal hs
  · rw [hshows.taskHandle, hshows.isRunning_eq]

/-- A frame is asked to be written too early, and another one after the task has read the end and
    is over, of which the actor has still to hear. -/
theorem no_defensive_remark_late : ∃ g g' r r' remarks,
    remarks = [.requestDiscarded .connecting, .taskGone] ∧
    Guarded.Lived { url := "ws://host" } none g r remarks ∧
    g.state = .opened ∧ g.task = .finished ∧ g.sender ∧ (g.taskHandle ↔ g.task.isRunning) ∧
    (∀ x ∈ remarks, x.isDefensive = false) ∧
    Guarded.Lived { url := "ws://host" } none g' r' remarks ∧
    g'.state = .closed ∧ g'.stopped ∧ g'.sender = false := by
  have hnew : Guarded.Lived { url := "ws://host" } none _ _ [] := .new
  have hstarted := hnew.act (a := .start 0) rfl
  have hearly := (hstarted.ask "early").act (a := .handle) rfl
  have hserving := hearly.act (a := .connected none) rfl
  have hopened := hserving.act (a := .handle) rfl
  have hleaving := (hopened.ask "late").act (a := .received 0 .ended) rfl
  have hfinished := hleaving.act (a := .disconnected) rfl
  have hlate := hfinished.act (a := .handle) rfl
  have hclosed := hlate.act (a := .handle) rfl
  obtain ⟨hsender, -, hhandle, hquiet, -⟩ := no_defensive_remark hlate
  obtain ⟨-, hdropped, -⟩ := no_defensive_remark hclosed
  exact ⟨_, _, _, _, _, rfl, hlate, rfl, rfl, hsender rfl, hhandle, hquiet, hclosed, rfl, rfl,
    hdropped rfl⟩

-- what would be remarked on if an open connection had lost its end of the queue
example : (({ params := { url := "ws://host" }, transport := none, state := .opened } :
    Guarded).handle (.send "f")).remarks = [.senderMissing] := rfl

end Connection

end PartyLine
