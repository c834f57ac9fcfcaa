import PartyLine.Proofs.Channel.Emitted
import PartyLine.Proofs.FarEnd
import PartyLine.Proofs.Isolation

/-!
# What a deed comes to

Whatever is done at a channel with its far end, little of it is to do with the connection. It may
be asked to write; its actor starts or takes a message; or its task goes on with the answer of the
far end. The far end itself is changed by nothing but its own moves and the answers it gives.

Deeds are many and their effects few, so each deed is taken apart once, by what it comes to
for the connection and the far end (`Circuit.Does`). Invariants of attempts are then proved by cases
on that, and no proof about an attempt goes through the callbacks of subscribers.

* `Connection.Task.isEarly`, `Step.task_cases`: the attempt goes one way;
* `Circuit.Does`, `does_after`: a deed, for the connection and its far end;
* `onCourse_after`: every deed keeps the connection on its course.
-/

namespace PartyLine

namespace Connection

/-- Whether the attempt to connect is still to be decided. -/
def Task.isEarly : Task → Bool
  | unstarted | connecting _ => true
  | _ => false

/-- It is decided if it is neither still to be made nor waits. -/
theorem Task.isEarly_eq_false_iff {t : Task} :
    t.isEarly = false ↔ t ≠ .unstarted ∧ ∀ d, t ≠ .connecting d := by
  cases t <;> simp [isEarly]

variable {c c' : Connection} {a : Action} {reads : List Received}
  {events es : List ConnectionEvent} {now d : Nat}

theorem inbox_handle (c : Connection) (m : Message) : (c.handle m).1.inbox = c.inbox := by
  have transition (signal : Signal) (report : List ConnectionEvent) :
      (c.transition signal report).1.inbox = c.inbox := by
    obtain ⟨state, task, canQueue, stopped, h⟩ := c.transition_eq signal report
    rw [h]
  cases m with
  | connected | failed | ended => exact transition _ _
  | received => rfl
  | send f =>
    obtain ⟨queue, hq, -⟩ := handle_send c f
    rw [hq]

/-- The actor takes a message and reports what is in it. -/
theorem Step.handled (h : Course c reads events) (hs : Step c .handle c' es) :
    c'.task = c.task ∧ c'.fault = c.fault ∧ es ++ c'.unreported = c.unreported ∧
      ∃ m, c.inbox = m :: c'.inbox := by
  cases hs with
  | @handle m rest hi =>
    obtain ⟨hstory, hfault, htask, -⟩ := h.handled hi rfl
    exact ⟨htask, hfault, hstory, m, by rw [inbox_handle, hi]⟩
  | disconnected _ ha => simp at ha

/-- The actor starts, with an attempt if there is a transport. -/
theorem Step.begun (h : Course c reads events) (hs : Step c (.start now) c' es) :
    c.task = .unstarted ∧ es = [] ∧ c'.task = (if c.fault.isSome then .finished
      else .connecting (now + c.params.connectTimeout)) ∧
      c'.inbox = c.inbox ++ (c.fault.map Message.failed).toList := by
  cases hs with
  | start ht =>
    rw [start_eq (h.idle ht)]
    cases hfault : c.fault with
    | none => exact ⟨ht, rfl, rfl, by simp⟩
    | some e => exact ⟨ht, rfl, rfl, rfl⟩
  | disconnected _ ha => simp at ha

/-- A task goes on from where it is, and the attempt only once. -/
theorem Step.task_cases (h : Course c reads events) (hs : Step c a c' es) :
    c'.task = c.task ∨ c'.task.isEarly = false ∨ ∃ now, a = .start now ∧ c.task = .unstarted := by
  cases hs with
  | start ht => exact .inr (.inr ⟨_, rfl, ht⟩)
  | handle hi => exact .inl (h.handled hi rfl).2.2.1
  | wrote => exact .inl rfl
  | connected | unwritten | queueClosed => exact .inr (.inl rfl)
  | refused | connectExpired | disconnected =>
    rw [task_finish]
    exact .inr (.inl rfl)
  | @received now x =>
    cases x with
    | frame f => exact .inl rfl
    | failed e | ended => exact .inr (.inl rfl)

/-- An attempt that has been decided is not made again. -/
theorem Step.isEarly_eq_false (h : Course c reads events) (hs : Step c a c' es)
    (hc : c.task.isEarly = false) : c'.task.isEarly = false := by
  rcases hs.task_cases h with heq | hdecided | ⟨now, -, ht⟩
  · rw [heq, hc]
  · exact hdecided
  · rw [ht] at hc
    cases hc

/-- While the task waits for the attempt, it goes on by deciding it. -/
theorem Step.decides (hs : Step c a c' es) (hc : c.task = .connecting d) (ha : a ≠ .handle) :
    c'.task.isEarly = false := by
  cases hs with
  | handle => exact absurd rfl ha
  | connected => rfl
  | refused | connectExpired =>
    rw [task_finish]
    rfl
  | start ht | wrote ht | unwritten ht | queueClosed ht | received ht | disconnected ht =>
    rw [hc] at ht
    cases ht

/-- Once the attempt is decided there is a story to tell. -/
theorem Story.ne_nil {t : Task} (h : Story t reads es) (ht : t.isEarly = false) : es ≠ [] := by
  cases h with
  | unstarted | connecting => cases ht
  | unconnected | serving | past => simp

end Connection

namespace Circuit

/-- What a deed other than settling does to a connection and its far end. -/
inductive Does (now : Nat) (l : Circuit) : Deed → Circuit → Prop
  /-- The connection is asked to write, if anything. -/
  | asked {d : Deed} {l' : Circuit} {fs : List String} : l'.channel.connection =
      { l.channel.connection with inbox := l.channel.connection.inbox ++ fs.map .send } →
      l'.channel.emitted = l.channel.emitted → l'.far = l.far → Does now l d l'
  | played {g : FarEnd → FarEnd} : Does now l (.play g) { l with far := g l.far }
  | started {l' : Circuit} :
      l.channel.connection.Step (.start now) l'.channel.connection [] →
      l'.channel.emitted = l.channel.emitted → l'.far = l.far → Does now l (.work .starter) l'
  | handled {l' : Circuit} {es : List ConnectionEvent} :
      l.channel.connection.Step .handle l'.channel.connection es →
      l'.channel.emitted = l.channel.emitted ++ es → l'.far = l.far → Does now l (.work .actor) l'
  | went {l' : Circuit} {a : Connection.Action} :
      FarEnd.next? now l.channel.connection l.far = some (a, l'.far) →
      l.channel.connection.Step a l'.channel.connection [] →
      l'.channel.emitted = l.channel.emitted → Does now l (.work .task) l'

variable {l l' : Circuit} {now : Nat} {d : Deed}

/-- Nothing is done to the connection. -/
theorem does_same (hconnection : l'.channel.connection = l.channel.connection)
    (hemitted : l'.channel.emitted = l.channel.emitted) (hfar : l'.far = l.far) :
    Does now l d l' := by
  have hnone : l'.channel.connection = { l.channel.connection with
      inbox := l.channel.connection.inbox ++ ([] : List String).map .send } := by
    rw [hconnection, List.map_nil, List.append_nil]
  exact .asked hnone hemitted hfar

theorem does_nothing (now : Nat) (l : Circuit) (d : Deed) : Does now l d l :=
  does_same rfl rfl rfl

/-- What consumers do. -/
theorem does_served {c : Channel} (h : l.channel.OnCourse) (hs : Channel.Served l.channel c) :
    Does now l d { l with channel := c } ∧ c.OnCourse := by
  obtain ⟨hc, hemitted⟩ := h.served hs
  obtain ⟨fs, hconnection⟩ := hs.connection
  exact ⟨.asked hconnection hemitted rfl, hc⟩

/-- The connection acts, if it can. -/
theorem act_cases (h : l.channel.OnCourse) (a : Connection.Action) :
    (l.channel.connection.step? a = none ∧ l.act a = l) ∨
      ∃ es, l.channel.connection.Step a (l.act a).channel.connection es ∧
        (l.act a).channel.emitted = l.channel.emitted ++ es ∧ (l.act a).far = l.far ∧
        (l.act a).channel.OnCourse := by
  cases hstep : l.channel.connection.step? a with
  | none => exact .inl ⟨rfl, by simp [act, Channel.act?, hstep]⟩
  | some p =>
    obtain ⟨connection, es⟩ := p
    have hs := Connection.step_of_step? hstep
    obtain ⟨hc, hemitted⟩ := h.acted hs
    have hact : l.act a = { l with channel := { l.channel with
        connection, inbox := l.channel.inbox ++ es.map .event } } := by
      simp [act, Channel.act?, hstep]
    rw [hact]
    exact .inr ⟨es, hs, hemitted, rfl, hc⟩

theorem does_work (h : l.channel.OnCourse) (now : Nat) (w : Worker) :
    Does now l (.work w) (l.work now w) ∧ (l.work now w).channel.OnCourse := by
  obtain ⟨reads, hcourse⟩ := h.course
  cases w with
  | starter =>
    rcases act_cases h (.start now) with ⟨-, hact⟩ | ⟨es, hs, hemitted, hfar, hc⟩
    · rw [work, hact]
      exact ⟨does_nothing now l _, h⟩
    · -- only the taking of a message reports anything
      obtain ⟨rfl, -⟩ := hs.inbox_eq hcourse (by simp)
      rw [List.append_nil] at hemitted
      exact ⟨.started hs hemitted hfar, hc⟩
  | actor =>
    rcases act_cases h .handle with ⟨-, hact⟩ | ⟨es, hs, hemitted, hfar, hc⟩
    · rw [work, hact]
      exact ⟨does_nothing now l _, h⟩
    · exact ⟨.handled hs hemitted hfar, hc⟩
  | task =>
    rw [work]
    split
    · next a far hnext =>
      obtain ⟨hpossible, hne, -⟩ := (FarEnd.answers_of_next? hnext).isSome_step?
      rcases act_cases (l := { l with far }) h a with ⟨hnone, -⟩ | ⟨es, hs, hemitted, hfar, hc⟩
      · rw [hnone] at hpossible
        cases hpossible
      · obtain ⟨rfl, -⟩ := hs.inbox_eq hcourse hne
        rw [List.append_nil] at hemitted
        exact ⟨.went (hfar ▸ hnext) hs hemitted, hc⟩
    · exact ⟨does_nothing now l _, h⟩
  | hub =>
    rw [work]
    cases htake : l.channel.takeMessage? with
    | none => exact ⟨does_nothing now l _, h⟩
    | some c =>
      obtain ⟨m, rest, hinbox, htakes⟩ := Channel.takes_of_takeMessage? htake
      obtain ⟨fs, hconnection⟩ := htakes.connection
      obtain ⟨hc, hemitted, -, -⟩ := h.taken hinbox htake
      exact ⟨.asked hconnection hemitted rfl, hc⟩

/-- News overtaken are still news of the same. -/
theorem does_overtake (h : l.channel.OnCourse) (place : Nat) :
    Does now l d { l with channel := l.channel.overtake place } ∧
      (l.channel.overtake place).OnCourse := by
  unfold Channel.overtake
  split
  · next e m rest hdrop =>
    split
    · next hkinds =>
      obtain ⟨-, hm⟩ := hkinds
      have hinbox : l.channel.inbox = l.channel.inbox.take place ++ .event e :: m :: rest := by
        rw [← hdrop, List.take_append_drop]
      have hemitted : Channel.emitted { l.channel with
          inbox := l.channel.inbox.take place ++ m :: .event e :: rest } = l.channel.emitted := by
        have hevent : (Channel.Message.event e).event? = some e := rfl
        have hwaits := congrArg (List.filterMap Channel.Message.event?) hinbox
        simp only [List.filterMap_append, List.filterMap_cons, hm, hevent] at hwaits
        simp only [Channel.emitted, List.filterMap_append, List.filterMap_cons, hm, hevent, hwaits]
      have hnone : l.channel.connection = { l.channel.connection with
          inbox := l.channel.connection.inbox ++ ([] : List String).map .send } := by simp
      exact ⟨does_same rfl hemitted rfl, h.asked hnone hemitted h.emptied h.latched⟩
    · exact ⟨does_nothing now l d, h⟩
  · exact ⟨does_nothing now l d, h⟩

/-- Whatever is done but settling. -/
theorem does_after (h : l.channel.OnCourse) (now : Nat) (hd : d ≠ .settle) :
    Does now l d (l.after now d) ∧ (l.after now d).channel.OnCourse := by
  cases d with
  | settle => exact absurd rfl hd
  | subscribe s => exact does_served h (Channel.served_subscribe _ s)
  | release id => exact does_served h (Channel.served_release _ id none)
  | send e => exact does_served h (Channel.served_send _ e)
  | handOver e => exact does_served h (Channel.served_handOver _ e)
  | arrange a =>
    exact ⟨does_same rfl rfl rfl, h.rearranged (a.perm _)⟩
  | overtake place => exact does_overtake h place
  | play g => exact ⟨.played, h⟩
  | work w => exact does_work h now w

/-- Nobody changes what the connection connects with. -/
theorem does_frame (h : l.channel.OnCourse) (hd : Does now l d l') :
    l'.channel.connection.params = l.channel.connection.params ∧
      l'.channel.connection.fault = l.channel.connection.fault := by
  obtain ⟨reads, hcourse⟩ := h.course
  cases hd with
  | asked hconnection =>
    rw [hconnection]
    exact ⟨rfl, rfl⟩
  | played => exact ⟨rfl, rfl⟩
  | started hs | handled hs | went _ hs => exact ⟨hs.lasting.1, (hs.frame hcourse).1⟩

/-- Every deed keeps the connection on its course. -/
theorem onCourse_after (h : l.channel.OnCourse) (now : Nat) (d : Deed) :
    (l.after now d).channel.OnCourse := by
  cases d with
  | settle =>
    have steps {c c' : Channel} (hs : Channel.Steps c c') (h : c.OnCourse) : c'.OnCourse := by
      induction hs with
      | refl => exact h
      | tail _ hstep ih => exact (ih.step hstep.choose_spec).1
    exact steps (Channel.steps_settle now l) h
  | _ => exact (does_after h now (by simp)).2

end Circuit

end PartyLine
