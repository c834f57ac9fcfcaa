import PartyLine.Proofs.Connection.Outgoing

/-!
# Flushing

The loop of a connection's task asks its queue first and the transport second, each time anew,
so that it acts on something it has read only with nothing left to write. What was queued
before the far end closed has therefore gone to the transport when the loop comes to see it.

Which of the two the loop goes on with is a function of what is queued and of what reading has
ready (`select`), and the steps of the loop are those that it selects, for some reading. A run is
told by what passes: frames that are queued, frames that are passed on, and what is read. Every
step leaves the queue in its order, frames being put behind the others and passed on from the
front (`Step.flow`), so that over a run what is passed on and what stays queued is what was
queued. To say what had been queued when something was read, a run is cut there (`Conveys.cut`):
the queue is empty at the cut, and so all that was queued before it has been passed on.

* `Connection.select`: what the loop goes on with, and `step?_isSome_iff_select`;
* `Connection.Conveys`: the runs from one connection to another, with what passes between the
  actor, the loop and the transport;
* `Conveys.flow`: what is passed on and what stays queued is what was queued, in its order;
* `Conveys.cut`: a run is cut at anything that passes;
* `flushed_before_reading`: nothing is read before the queue is empty, and only what is queued
  after the end has been read is lost.
-/

namespace PartyLine

/-- Whether reading has come to its end, well or not. -/
def Received.isEnd : Received → Bool
  | frame _ => false
  | failed _ | ended => true

namespace Connection

/-! ## The choice of the loop -/

/-- What the loop of a task goes on with. -/
inductive Choice where
  /-- The first frame of the queue; none if nothing is queued and nothing can be any more. -/
  | dequeued (frame : Option String)
  | received (x : Received)

/-- What the queue gives, unless that has to be waited for. -/
def dequeue? (c : Connection) : Option (Option String) :=
  match c.queue with
  | f :: _ => some (some f)
  | [] => if c.canQueue then none else some none

/-- What the loop goes on with when reading has so much ready: the queue is asked first. -/
def select (c : Connection) (ready : Option Received) : Option Choice :=
  (c.dequeue?.map .dequeued).or (ready.map .received)

variable {c c' c₀ c₁ : Connection} {a : Action} {reads : List Received}
  {events es : List ConnectionEvent}

/-- The steps of the loop are those that it selects: one that the queue is ready for, whatever
    reading has, and else the one that reading is ready for. -/
theorem step?_isSome_iff_select (c : Connection) (now : Nat) :
    (∀ x, (c.step? (.received now x)).isSome ↔
      c.task = .serving ∧ c.select (some x) = some (.received x)) ∧
    (∀ f answer, (c.step? (.wrote now answer)).isSome ∧ c.queue.head? = some f ↔
      c.task = .serving ∧ ∀ ready, c.select ready = some (.dequeued (some f))) ∧
    ((c.step? (.queueClosed now)).isSome ↔
      c.task = .serving ∧ ∀ ready, c.select ready = some (.dequeued none)) := by
  refine ⟨fun x => ?_, fun f answer => ?_, ?_⟩
  · cases hq : c.queue <;> cases hc : c.canQueue <;> simp [step?, select, dequeue?, hq, hc]
  · cases hq : c.queue with
    | nil => cases hc : c.canQueue <;> simp [select, dequeue?, hq, hc]
    | cons g rest =>
      cases ht : c.task <;> cases answer <;> simp [step?, select, dequeue?, ht, hq]
  · cases hq : c.queue <;> cases hc : c.canQueue <;> simp [step?, select, dequeue?, hq, hc]

-- the frame is written although the far end has closed
example : ({ params := { url := "ws://host" }, queue := ["a"] } : Connection).select
    (some .ended) = some (.dequeued (some "a")) := rfl

/-- What reading has ready is selected when there is nothing to write. -/
theorem queue_of_select {ready : Option Received} {x : Received}
    (h : c.select ready = some (.received x)) : c.queue = [] := by
  cases hq : c.queue with
  | nil => rfl
  | cons f rest => simp [select, dequeue?, hq] at h

/-! ## What passes -/

/-- What passes between the actor, the loop of its task and the transport. -/
inductive Passage where
  /-- The actor queues a frame for the loop. -/
  | queued (frame : String)
  /-- The loop passes a frame on to the transport, which answers. -/
  | passed (frame : String) (answer : Option TransportError)
  /-- The loop acts on what the transport has read. -/
  | read (x : Received)
  deriving DecidableEq

/-- The frame that is queued. -/
def Passage.queued? : Passage → Option String
  | queued f => some f
  | _ => none

/-- The frame that is passed on, with or without success. -/
def Passage.passed? : Passage → Option String
  | passed f _ => some f
  | _ => none

/-- Whether it ends the loop: a frame that could not be written, or the end of reading. -/
def Passage.isEnd : Passage → Bool
  | queued _ => false
  | passed _ answer => answer.isSome
  | read x => x.isEnd

/-- The frames that are queued, in their order. -/
def queuedIn (log : List Passage) : List String := log.filterMap Passage.queued?

/-- The frames that are passed on, in their order. -/
def passedIn (log : List Passage) : List String := log.filterMap Passage.passed?

/-- What passes by an action that leads to a connection. -/
def passages (c c' : Connection) : Action → List Passage
  | .handle => (c'.queue.drop c.queue.length).map .queued
  | .wrote _ answer => (c.queue.head?.map (.passed · answer)).toList
  | .received _ x => [.read x]
  | _ => []

/-- The runs from one connection to another, with all that passes, in its order. -/
inductive Conveys (c : Connection) : List Passage → Connection → Prop
  | refl : Conveys c [] c
  | act {log : List Passage} {c₀ c₁ : Connection} {a : Action} {es : List ConnectionEvent} :
      Conveys c log c₀ → c₀.step? a = some (c₁, es) → Conveys c (log ++ c₀.passages c₁ a) c₁
  /-- The owner asks to write a frame. -/
  | ask {log : List Passage} {c₀ : Connection} (f : String) :
      Conveys c log c₀ → Conveys c log (c₀.post (.send f))

theorem queuedIn_append (l l' : List Passage) : queuedIn (l ++ l') = queuedIn l ++ queuedIn l' :=
  List.filterMap_append

theorem passedIn_append (l l' : List Passage) : passedIn (l ++ l') = passedIn l ++ passedIn l' :=
  List.filterMap_append

/-! ### Steps -/

theorem queue_transition (c : Connection) (signal : Signal) (report : List ConnectionEvent) :
    (c.transition signal report).1.queue = c.queue := by
  obtain ⟨state, task, canQueue, stopped, h⟩ := c.transition_eq signal report
  rw [h]

/-- A message that is handled queues at most the frame that it asks to write. -/
theorem handle_queue (c : Connection) (m : Message) :
    (c.handle m).1.queue = c.queue ∨ ∃ f, m = .send f ∧ (c.handle m).1.queue = c.queue ++ [f] := by
  cases m with
  | connected | failed e | ended => exact .inl (queue_transition ..)
  | received f => exact .inl rfl
  | send f =>
    obtain ⟨queue, hq, hqueue, -⟩ := handle_send c f
    rw [hq]
    rcases hqueue with rfl | ⟨-, rfl⟩
    · exact .inl rfl
    · exact .inr ⟨f, rfl, rfl⟩

theorem start_queue (c : Connection) (now : Nat) : (c.start now).queue = c.queue := by
  have htransition := queue_transition c .initiate []
  unfold start
  split
  next c' _ hc =>
  rw [hc] at htransition
  split <;> exact htransition

/-- A step keeps the order of the queue, in which frames are put behind the others and passed on
    from the front; and no more than one thing passes by it. -/
theorem Step.flow (hs : Step c a c' es) :
    passedIn (c.passages c' a) ++ c'.queue = c.queue ++ queuedIn (c.passages c' a) ∧
      (c.passages c' a = [] ∨ ∃ p, c.passages c' a = [p]) := by
  have silent {d : Connection} (hp : c.passages d a = []) (hq : d.queue = c.queue) :
      passedIn (c.passages d a) ++ d.queue = c.queue ++ queuedIn (c.passages d a) ∧
        (c.passages d a = [] ∨ ∃ p, c.passages d a = [p]) := by
    rw [hp, hq]
    exact ⟨(List.append_nil _).symm, .inl rfl⟩
  cases hs with
  | @handle m rest =>
    rcases handle_queue { c with inbox := rest } m with hq | ⟨f, -, hq⟩
    · exact silent (by rw [passages, hq, List.drop_length]; rfl) hq
    · have hp : c.passages ({ c with inbox := rest }.handle m).1 .handle = [.queued f] := by
        rw [passages, hq, List.drop_left]
        rfl
      rw [hp, hq]
      exact ⟨rfl, .inr ⟨_, rfl⟩⟩
  | start => exact silent rfl (start_queue ..)
  | connected | queueClosed => exact silent rfl rfl
  | refused | connectExpired =>
    obtain ⟨canQueue, stopped, hf⟩ := finish_eq (c.post (.failed _))
    rw [hf]
    exact silent rfl rfl
  | wrote _ hq | unwritten _ hq =>
    rw [passages, hq]
    exact ⟨(List.append_nil _).symm, .inr ⟨_, rfl⟩⟩
  | @received _ x _ hq => cases x <;> exact ⟨(List.append_nil _).symm, .inr ⟨_, rfl⟩⟩
  | disconnected _ ha =>
    obtain ⟨canQueue, stopped, hf⟩ := finish_eq c
    rw [hf]
    rcases ha with rfl | ⟨now, -, rfl⟩ <;> exact silent rfl rfl

/-- What is read or passed on is so by the step of that name. -/
theorem of_mem_passages {p : Passage} (hp : p ∈ c.passages c' a) :
    (∀ x, p = .read x → ∃ now, a = .received now x) ∧
    ∀ f answer, p = .passed f answer → ∃ now, a = .wrote now answer ∧ c.queue.head? = some f := by
  cases a with
  | handle =>
    obtain ⟨f, -, rfl⟩ := List.mem_map.1 hp
    exact ⟨by simp, by simp⟩
  | wrote now answer =>
    obtain ⟨f, hf, rfl⟩ := Option.map_eq_some_iff.1 (Option.mem_toList.1 hp)
    refine ⟨by simp, fun f' answer' heq => ⟨now, ?_⟩⟩
    obtain ⟨rfl, rfl⟩ := Passage.passed.inj heq
    exact ⟨rfl, hf⟩
  | received now x =>
    obtain rfl := List.mem_singleton.1 hp
    refine ⟨fun y hy => ⟨now, ?_⟩, by simp⟩
    rw [Passage.read.inj hy]
  | start | connected | connectExpired | queueClosed | disconnected | disconnectExpired => cases hp

/-- Once the task has left its loop, nothing but queueing goes on. -/
theorem Step.flow_isOver (hs : Step c a c' es) (hover : c.task.isOver) {p : Passage}
    (hp : p ∈ c.passages c' a) : ∃ f, p = .queued f := by
  obtain ⟨hread, hpassed⟩ := of_mem_passages hp
  cases p with
  | queued f => exact ⟨f, rfl⟩
  | passed f answer =>
    obtain ⟨now, rfl, -⟩ := hpassed f answer rfl
    cases hs with
    | wrote ht | unwritten ht =>
      rw [ht] at hover
      cases hover
    | disconnected _ ha => simp at ha
  | read x =>
    obtain ⟨now, rfl⟩ := hread x rfl
    cases hs with
    | received ht =>
      rw [ht] at hover
      cases hover
    | disconnected _ ha => simp at ha

/-- What ends the loop of the task does so at once. -/
theorem Step.isOver_of_isEnd (hs : Step c a c' es) {p : Passage} (hp : p ∈ c.passages c' a)
    (hend : p.isEnd) : c'.task.isOver := by
  obtain ⟨hread, hpassed⟩ := of_mem_passages hp
  cases p with
  | queued f => cases hend
  | passed f answer =>
    obtain ⟨now, rfl, -⟩ := hpassed f answer rfl
    cases hs with
    | wrote => cases hend
    | unwritten => rfl
    | disconnected _ ha => simp at ha
  | read x =>
    obtain ⟨now, rfl⟩ := hread x rfl
    cases hs with
    | received =>
      cases x with
      | frame f => cases hend
      | failed e | ended => rfl
    | disconnected _ ha => simp at ha

/-! ### Runs -/

variable {log before after : List Passage} {p : Passage}

/-- What has been passed on and what is still queued is what was queued, in its order. -/
theorem Conveys.flow (h : Conveys c log c') :
    passedIn log ++ c'.queue = c.queue ++ queuedIn log := by
  induction h with
  | refl => exact (List.append_nil _).symm
  | @act log c₀ c₁ a es _ hs ih =>
    rw [passedIn_append, queuedIn_append, List.append_assoc, (step_of_step? hs).flow.1,
      ← List.append_assoc, ih, List.append_assoc]
  | ask f _ ih => exact ih

theorem Conveys.course (h : Conveys c log c') (hc : Course c reads events) :
    ∃ reads events, Course c' reads events := by
  induction h with
  | refl => exact ⟨_, _, hc⟩
  | act _ hs ih =>
    obtain ⟨_, _, ih⟩ := ih
    exact ⟨_, _, ih.step (step_of_step? hs)⟩
  | ask f _ ih =>
    obtain ⟨_, _, ih⟩ := ih
    exact ⟨_, _, ih.post_send f⟩

/-- A loop that has been left is not come back to. -/
theorem Conveys.isOver (h : Conveys c log c') (hc : Course c reads events)
    (hover : c.task.isOver) : c'.task.isOver ∧ ∀ p ∈ log, ∃ f, p = .queued f := by
  induction h with
  | refl => exact ⟨hover, List.forall_mem_nil _⟩
  | act h hs ih =>
    obtain ⟨_, _, hcourse⟩ := h.course hc
    have hstep := step_of_step? hs
    refine ⟨(hcourse.isOver ih.1 hstep).2, fun p hp => ?_⟩
    rcases List.mem_append.1 hp with hp | hp
    · exact ih.2 p hp
    · exact hstep.flow_isOver ih.1 hp
  | ask f _ ih => exact ih

/-- A run is cut at anything that passes. -/
theorem Conveys.cut (h : Conveys c (before ++ p :: after) c') : ∃ c₀ c₁ a es,
    Conveys c before c₀ ∧ c₀.step? a = some (c₁, es) ∧ c₀.passages c₁ a = [p] ∧
      Conveys c₁ after c' := by
  generalize hlog : before ++ p :: after = log at h
  induction h generalizing after with
  | refl => simp at hlog
  | @act log c₂ c₃ a es h hs ih =>
    rcases (step_of_step? hs).flow.2 with hnone | ⟨q, hq⟩
    · rw [hnone, List.append_nil] at hlog
      obtain ⟨c₀, c₁, a', es', hbefore, hstep, hp, hafter⟩ := ih hlog
      have hact := hafter.act hs
      rw [hnone, List.append_nil] at hact
      exact ⟨c₀, c₁, a', es', hbefore, hstep, hp, hact⟩
    · rw [hq] at hlog
      rcases List.eq_nil_or_concat' after with rfl | ⟨after, r, rfl⟩
      · -- the last step is the one
        obtain ⟨rfl, hpq⟩ := List.append_inj' hlog rfl
        exact ⟨c₂, c₃, a, es, h, hs, hq.trans hpq.symm, .refl⟩
      · rw [← List.cons_append, ← List.append_assoc] at hlog
        obtain ⟨hlog, hr⟩ := List.append_inj' hlog rfl
        obtain ⟨c₀, c₁, a', es', hbefore, hstep, hp, hafter⟩ := ih hlog
        have hact := hafter.act hs
        rw [hq, ← hr] at hact
        exact ⟨c₀, c₁, a', es', hbefore, hstep, hp, hact⟩
  | ask f _ ih =>
    obtain ⟨c₀, c₁, a, es, hbefore, hstep, hp, hafter⟩ := ih hlog
    exact ⟨c₀, c₁, a, es, hbefore, hstep, hp, hafter.ask f⟩

/-- What is read was selected, with nothing queued. -/
theorem Conveys.of_read {x : Received} (h : Conveys c (before ++ .read x :: after) c') :
    ∃ c₀, Conveys c before c₀ ∧ c₀.task = .serving ∧ c₀.queue = [] ∧
      c₀.select (some x) = some (.received x) := by
  obtain ⟨c₀, c₁, a, es, hbefore, hstep, hp, -⟩ := h.cut
  obtain ⟨now, rfl⟩ := (of_mem_passages (by rw [hp]; exact List.mem_cons_self)).1 x rfl
  obtain ⟨ht, hselect⟩ := ((step?_isSome_iff_select c₀ now).1 x).1 (Option.isSome_of_eq_some hstep)
  exact ⟨c₀, hbefore, ht, queue_of_select hselect, hselect⟩

/-- What is passed on was selected, whatever reading had ready. -/
theorem Conveys.of_passed {f : String} {answer : Option TransportError}
    (h : Conveys c (before ++ .passed f answer :: after) c') :
    ∃ c₀, Conveys c before c₀ ∧ c₀.task = .serving ∧
      ∀ ready, c₀.select ready = some (.dequeued (some f)) := by
  obtain ⟨c₀, c₁, a, es, hbefore, hstep, hp, -⟩ := h.cut
  obtain ⟨now, rfl, hf⟩ := (of_mem_passages (by rw [hp]; exact List.mem_cons_self)).2 f answer rfl
  obtain ⟨ht, hselect⟩ := ((step?_isSome_iff_select c₀ now).2.1 f answer).1
    ⟨Option.isSome_of_eq_some hstep, hf⟩
  exact ⟨c₀, hbefore, ht, hselect⟩

/-- After what ends the loop, frames are queued and no more. -/
theorem Conveys.of_isEnd (h : Conveys c (before ++ p :: after) c') (hc : Course c reads events)
    (hend : p.isEnd) : c'.task.isOver ∧ ∀ q ∈ after, ∃ f, q = .queued f := by
  obtain ⟨c₀, c₁, a, es, hbefore, hstep, hp, hafter⟩ := h.cut
  obtain ⟨_, _, hcourse⟩ := hbefore.course hc
  have hstep := step_of_step? hstep
  exact hafter.isOver (hcourse.step hstep)
    (hstep.isOver_of_isEnd (by rw [hp]; exact List.mem_cons_self) hend)

/-- Where frames are queued and no more, nothing is passed on. -/
theorem passedIn_eq_nil (h : ∀ q ∈ log, ∃ f, q = .queued f) : passedIn log = [] := by
  refine List.filterMap_eq_nil_iff.2 fun q hq => ?_
  obtain ⟨f, rfl⟩ := h q hq
  rfl

variable {params : ConnectParams} {fault : Option TransportError}

/-- Whatever the transport answers and in whatever order the actor and its task go on, the loop
    passes on the frames in the order in which they were queued, each once, and a frame that is
    queued goes before all that could be read. The loop acts on something from the transport only
    when its queue is empty; all that was queued until then has been passed on, and with success.
    After an end of reading, or a frame that could not be written, frames may still be queued, but
    nothing is passed on or read; what is lost at an end of reading is just what was queued
    after it. -/
theorem flushed_before_reading (h : Conveys { params, fault } log c) :
    passedIn log ++ c.queue = queuedIn log ∧
    (∀ before x after, log = before ++ .read x :: after →
      (∃ c₀, Conveys { params, fault } before c₀ ∧ c₀.task = .serving ∧ c₀.queue = [] ∧
        c₀.select (some x) = some (.received x)) ∧
      passedIn before = queuedIn before ∧
      (∀ f e, .passed f (some e) ∉ before) ∧
      (x.isEnd → (∀ q ∈ after, ∃ f, q = .queued f) ∧ c.queue = queuedIn after)) ∧
    ∀ before f answer after, log = before ++ .passed f answer :: after →
      (∃ c₀, Conveys { params, fault } before c₀ ∧ c₀.task = .serving ∧
        ∀ ready, c₀.select ready = some (.dequeued (some f))) ∧
      (answer.isSome → ∀ q ∈ after, ∃ f', q = .queued f') := by
  have hnew := course_init params fault
  have hflow : passedIn log ++ c.queue = queuedIn log := h.flow
  refine ⟨hflow, ?_, ?_⟩
  · rintro before x after rfl
    obtain ⟨c₀, hbefore, ht, hq, hselect⟩ := h.of_read
    have hpassed : passedIn before = queuedIn before := by
      have hflow₀ : passedIn before ++ c₀.queue = queuedIn before := hbefore.flow
      rwa [hq, List.append_nil] at hflow₀
    refine ⟨⟨c₀, hbefore, ht, hq, hselect⟩, hpassed, fun f e hfailed => ?_, fun hend => ?_⟩
    · -- the loop would be over
      obtain ⟨earlier, later, rfl⟩ := List.append_of_mem hfailed
      have hover := (hbefore.of_isEnd hnew rfl).1
      rw [ht] at hover
      cases hover
    · have hafter := (h.of_isEnd hnew hend).2
      refine ⟨hafter, ?_⟩
      rw [passedIn_append, queuedIn_append, hpassed, List.append_assoc] at hflow
      have hrest : passedIn (.read x :: after) = [] := by
        show passedIn after = []
        exact passedIn_eq_nil hafter
      rw [hrest] at hflow
      exact List.append_cancel_left hflow
  · rintro before f answer after rfl
    exact ⟨h.of_passed, fun hend => (h.of_isEnd hnew hend).2⟩

/-- Two frames wait for the loop when the far end closes; a third is asked for before the loop
    sees it, and queued after. -/
theorem flushed_before_reading_closed : ∃ c,
    Conveys { params := { url := "ws://host" } } [.queued "a", .queued "b", .passed "a" none,
      .passed "b" none, .read .ended, .queued "late"] c ∧
    passedIn [.queued "a", .queued "b", .passed "a" none, .passed "b" none] = ["a", "b"] ∧
    c.queue = ["late"] := by
  have hnew : Conveys { params := { url := "ws://host" } } [] _ := .refl
  have hstarted := hnew.act (a := .start 0) rfl
  have hserving := hstarted.act (a := .connected none) rfl
  have hopened := hserving.act (a := .handle) rfl
  have hqueued := (hopened.ask "a").act (a := .handle) rfl
  have hqueued' := (hqueued.ask "b").act (a := .handle) rfl
  have hwritten := hqueued'.act (a := .wrote 1 none) rfl
  have hwritten' := (hwritten.act (a := .wrote 1 none) rfl).ask "late"
  have hended := hwritten'.act (a := .received 2 .ended) rfl
  have hlate := hended.act (a := .handle) rfl
  obtain ⟨-, hread, -⟩ := flushed_before_reading hlate
  obtain ⟨-, hpassed, -, hlost⟩ := hread [.queued "a", .queued "b", .passed "a" none,
    .passed "b" none] .ended [.queued "late"] rfl
  exact ⟨_, hlate, hpassed, (hlost rfl).2⟩

end Connection

end PartyLine
