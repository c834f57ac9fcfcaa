import PartyLine.Proofs.Circuit.Rest

/-!
# Attempts to connect

The attempt of a connection races the gate of its far end against a deadline. Here is how far an
attempt can have got, and what one deed does about it; between an attempt that waits and its
deadline there are only the moves of the far end.

For each stage of an attempt there is a predicate of the channel with its far end, and for each
predicate one lemma that says what any deed makes of it: it stays, or the attempt moves on. That
the first answer counts comes from the far end (`FarEnd.outcome?_act`), that nothing is written or
emitted meanwhile from the connection, and that it moves on at all from settling.

* `Connection.Step.answered`: how the task goes on that waits for the answer to its attempt;
* `Circuit.story`, `story_of_step`: all that there is to tell of a connection;
* `Circuit.Untried`, `Since`: before the attempt, and its deadline from then on;
* `Circuit.Bound`: an attempt for which there is an answer, `Bound.does`, `Bound.settle`;
  `Bound.timely` for the timeouts that are not its own;
* `Circuit.Waits`: an attempt that waits for its deadline, or was given up at it, `Waits.does`;
* `Circuit.Dead`: a connection that has failed for good, `Waits.expire`, `Dead.does`.
-/

namespace PartyLine

/-! ## The attempt -/

namespace Connection

variable {c c' : Connection} {a : Action} {es : List ConnectionEvent} {now d : Nat} {r r' : FarEnd}

/-- An actor that has stopped takes no message. -/
theorem Step.stopped_eq_false (hs : Step c .handle c' es) : c.stopped = false := by
  cases hs with
  | handle _ hstopped => exact hstopped
  | disconnected _ ha => simp at ha

/-- How the task goes on that waits for the attempt: with the answer of the gate if there is one,
    and else with the timeout. -/
theorem Step.answered (hs : Step c a c' es) (ht : c.task = .connecting d)
    (hnext : FarEnd.next? now c r = some (a, r')) :
    r' = r ∧ c'.unreported = c.unreported ++ [r.gate.outcome?.getD (.failed .timeout)] ∧
      (r.gate.outcome? = none → d ≤ now ∧ c'.task = .finished) := by
  have failed (e : TransportError) : (c.post (.failed e)).finish.unreported =
      c.unreported ++ [.failed e] ∧ (c.post (.failed e)).finish.task = .finished := by
    obtain ⟨canQueue, stopped, hf⟩ := finish_eq (c.post (.failed e))
    rw [hf]
    exact ⟨unreported_post c (.failed e) [], rfl⟩
  cases FarEnd.answers_of_next? hnext with
  | passed _ hgate =>
    rw [hgate]
    cases hs with
    | connected => exact ⟨rfl, unreported_post c .connected [], by simp [FarEnd.Gate.outcome?]⟩
    | disconnected _ ha => simp at ha
  | @refused _ e _ hgate =>
    rw [hgate]
    cases hs with
    | refused => exact ⟨rfl, (failed e).1, by simp [FarEnd.Gate.outcome?]⟩
    | disconnected _ ha => simp at ha
  | connectExpired ht' hgate hd =>
    obtain rfl := Task.connecting.inj (ht.symm.trans ht')
    rw [hgate]
    cases hs with
    | connectExpired => exact ⟨rfl, (failed .timeout).1, fun _ => ⟨hd, (failed .timeout).2⟩⟩
    | disconnected _ ha => simp at ha
  | written ht' | read ht' | queueClosed ht' | disconnected ht' | disconnectExpired ht' =>
    rw [ht] at ht'
    cases ht'

end Connection

namespace Circuit

/-- All that a connection has reported and has still to report. -/
def story (l : Circuit) : List ConnectionEvent :=
  l.channel.emitted ++ l.channel.connection.unreported

variable {l l' : Circuit} {now d : Nat} {deed : Deed} {o : ConnectionEvent}

/-- Before the attempt is decided there is nothing to tell. -/
theorem story_of_isEarly (h : l.channel.OnCourse) (hearly : l.channel.connection.task.isEarly) :
    l.story = [] := by
  obtain ⟨reads, hcourse⟩ := h.course
  refine (hcourse.story.of_undecided ?_).2
  cases ht : l.channel.connection.task with
  | unstarted => exact .inl rfl
  | connecting d => exact .inr ⟨d, rfl⟩
  | serving | disconnecting | finished =>
    rw [ht] at hearly
    cases hearly

/-- What does not touch the task leaves the story as it is. -/
theorem story_of_asked {fs : List String}
    (hconnection : l'.channel.connection =
      { l.channel.connection with inbox := l.channel.connection.inbox ++ fs.map .send })
    (hemitted : l'.channel.emitted = l.channel.emitted) : l'.story = l.story := by
  rw [story, story, hemitted, Connection.unreported_of_asked hconnection]

theorem story_of_handled (h : l.channel.OnCourse) {es : List ConnectionEvent}
    (hs : l.channel.connection.Step .handle l'.channel.connection es)
    (hemitted : l'.channel.emitted = l.channel.emitted ++ es) :
    l'.story = l.story ∧ l'.channel.connection.task = l.channel.connection.task := by
  obtain ⟨reads, hcourse⟩ := h.course
  obtain ⟨htask, -, hstory, -⟩ := hs.handled hcourse
  exact ⟨by rw [story, story, hemitted, List.append_assoc, hstory], htask⟩

/-- A step goes on with the story, and what fails in it fails with the error that it brings. -/
theorem story_of_step {a : Connection.Action} {es : List ConnectionEvent}
    (h : l.channel.OnCourse) (hs : l.channel.connection.Step a l'.channel.connection es)
    (hemitted : l'.channel.emitted = l.channel.emitted ++ es) :
    ∃ more, l'.story = l.story ++ more ∧ ∀ e, .failed e ∈ more →
      l.channel.connection.fault = some e ∨ a.error? = some e := by
  obtain ⟨reads, hcourse⟩ := h.course
  obtain ⟨more, hmore, hnew⟩ := hs.adds hcourse
  refine ⟨more, ?_, fun e he => (hnew e he).2.imp And.right And.right⟩
  rw [story, story, hemitted, List.append_assoc, hmore, List.append_assoc]

/-! ## Before the attempt, and its deadline -/

/-- The attempt is still to be made. -/
structure Untried (params : ConnectParams) (l : Circuit) : Prop where
  task : l.channel.connection.task = .unstarted
  fault : l.channel.connection.fault = none
  params : l.channel.connection.params = params

variable {params : ConnectParams}

theorem untried_init (params : ConnectParams) (far : FarEnd) :
    Untried params ⟨.init params none, far⟩ :=
  ⟨rfl, rfl, rfl⟩

theorem Untried.far (hu : Untried params l) (m : FarEnd.Move) :
    Untried params { l with far := m.act l.far } :=
  ⟨hu.task, hu.fault, hu.params⟩

/-- What does not decide an attempt leaves the gate held. -/
theorem held_far (hgate : l.far.gate = .held) (hearly : l.channel.connection.task.isEarly)
    {m : FarEnd.Move} (hm : m.outcome?.isSome → l.channel.connection.task.isEarly = false) :
    (m.act l.far).gate = .held := by
  have hnone : m.outcome? = none := by
    by_contra hsome
    rw [hm (Option.isSome_iff_ne_none.2 hsome)] at hearly
    cases hearly
  rw [← FarEnd.Gate.outcome?_eq_none_iff, FarEnd.outcome?_act, hgate, hnone]
  rfl

/-- Nobody but the starter makes it, and the far end waits as it is. -/
theorem Untried.does (hu : Untried params l) (h : l.channel.OnCourse)
    (hstarter : deed ≠ .work .starter) (hplay : ∀ g, deed ≠ .play g) (hd : Does now l deed l') :
    Untried params l' ∧ l'.far = l.far := by
  obtain ⟨reads, hcourse⟩ := h.course
  obtain ⟨hparams, hfault⟩ := does_frame h hd
  have same (htask : l'.channel.connection.task = l.channel.connection.task) : Untried params l' :=
    ⟨htask.trans hu.task, hfault.trans hu.fault, hparams.trans hu.params⟩
  cases hd with
  | asked hconnection _ hfar => exact ⟨same (by rw [hconnection]), hfar⟩
  | played => exact absurd rfl (hplay _)
  | started => exact absurd rfl hstarter
  | handled hs _ hfar => exact ⟨same (hs.handled hcourse).1, hfar⟩
  | went hnext => simp [FarEnd.next?, hu.task] at hnext

/-- The starter makes it, with a deadline. -/
theorem Untried.begin (hu : Untried params l) (h : l.channel.OnCourse) (now : Nat) :
    (l.work now .starter).channel.connection.task = .connecting (now + params.connectTimeout) ∧
      (l.work now .starter).far = l.far := by
  obtain ⟨reads, hcourse⟩ := h.course
  have hstarted := started_work h now
  rcases (does_work h now .starter).1 with ⟨hconnection, -⟩ | - | ⟨hs, -, hfar⟩ | - | -
  · rw [hconnection] at hstarted
    exact absurd hu.task hstarted
  · obtain ⟨-, -, htask, -⟩ := hs.begun hcourse
    rw [htask, hu.fault, hu.params]
    exact ⟨rfl, hfar⟩

/-- The attempt has been made, and has this deadline for as long as it takes. -/
structure Since (d : Nat) (l : Circuit) : Prop where
  task : l.channel.connection.task ≠ .unstarted
  deadline : ∀ d', l.channel.connection.task = .connecting d' → d' = d

theorem Since.far (hsince : Since d l) (m : FarEnd.Move) :
    Since d { l with far := m.act l.far } :=
  ⟨hsince.task, hsince.deadline⟩

theorem Since.does (hsince : Since d l) (h : l.channel.OnCourse) (hplay : ∀ g, deed ≠ .play g)
    (hd : Does now l deed l') : Since d l' := by
  obtain ⟨reads, hcourse⟩ := h.course
  have same (htask : l'.channel.connection.task = l.channel.connection.task) : Since d l' :=
    ⟨htask ▸ hsince.task, htask ▸ hsince.deadline⟩
  cases hd with
  | asked hconnection => exact same (by rw [hconnection])
  | played => exact absurd rfl (hplay _)
  | started hs => exact absurd (hs.begun hcourse).1 hsince.task
  | handled hs => exact same (hs.handled hcourse).1
  | went hnext hs =>
    rcases hs.task_cases hcourse with htask | hdecided | ⟨_, -, ht⟩
    · exact same htask
    · obtain ⟨hstarted, hconnecting⟩ := Connection.Task.isEarly_eq_false_iff.1 hdecided
      exact ⟨hstarted, fun d' ht => absurd ht (hconnecting d')⟩
    · exact absurd ht hsince.task

/-- At the deadline, or later, it is not connecting any more when it has settled. -/
theorem Since.not_connecting (hsince : Since d l) (h : l.channel.OnCourse) (hdue : d ≤ now) :
    (l.settle now).channel.state ≠ .connecting := by
  obtain ⟨h', hsince'⟩ := settle_keeps now (P := Since d)
    (fun h hs hd => hs.does h (by simp) hd) h hsince
  obtain ⟨reads, hcourse⟩ := h'.course
  have hrest := atRest_settle h now
  have hdecided := hrest.isEarly_eq_false fun d' ht _ => (hsince'.deadline d' ht).trans_le hdue
  have hne := hrest.emitted_ne_nil hdecided
  exact fun hstate => hcourse.not_early hne (.inr hstate)

/-! ## Answers in time -/

/-- The far end has its answer, and it is the answer that the attempt comes to. -/
structure Bound (o : ConnectionEvent) (l : Circuit) : Prop where
  fault : l.channel.connection.fault = none
  answer : l.far.gate.outcome? = some o
  told : l.channel.connection.task.isEarly = false → ∃ rest, l.story = o :: rest

/-- The first answer of the far end counts, if it comes before the attempt is given up. -/
theorem bound_far (hfault : l.channel.connection.fault = none)
    (hearly : l.channel.connection.task.isEarly) {m : FarEnd.Move}
    (hanswer : l.far.gate.outcome?.or m.outcome? = some o) :
    Bound o { l with far := m.act l.far } :=
  ⟨hfault, (FarEnd.outcome?_act m l.far).trans hanswer, fun hdecided => by
    rw [hearly] at hdecided
    cases hdecided⟩

/-- It is not taken back. -/
theorem Bound.far (hb : Bound o l) (m : FarEnd.Move) : Bound o { l with far := m.act l.far } :=
  ⟨hb.fault, by rw [FarEnd.outcome?_act, hb.answer, Option.some_or], hb.told⟩

theorem Bound.does (hb : Bound o l) (h : l.channel.OnCourse) (hplay : ∀ g, deed ≠ .play g)
    (hd : Does now l deed l') : Bound o l' := by
  obtain ⟨reads, hcourse⟩ := h.course
  have hfault := (does_frame h hd).2.trans hb.fault
  have same (hfar : l'.far = l.far) (hstory : l'.story = l.story)
      (htask : l'.channel.connection.task = l.channel.connection.task) : Bound o l' :=
    ⟨hfault, hfar ▸ hb.answer, fun hdecided => hstory ▸ hb.told (htask ▸ hdecided)⟩
  cases hd with
  | asked hconnection hemitted hfar =>
    exact same hfar (story_of_asked hconnection hemitted) (by rw [hconnection])
  | played => exact absurd rfl (hplay _)
  | started hs _ hfar =>
    refine ⟨hfault, hfar ▸ hb.answer, fun hdecided => ?_⟩
    rw [(hs.begun hcourse).2.2.1, hb.fault] at hdecided
    cases hdecided
  | handled hs hemitted hfar =>
    obtain ⟨hstory, htask⟩ := story_of_handled h hs hemitted
    exact same hfar hstory htask
  | went hnext hs hemitted =>
    have hgate := (FarEnd.answers_of_next? hnext).gate
    refine ⟨hfault, (congrArg _ hgate).trans hb.answer, fun _ => ?_⟩
    cases ht : l.channel.connection.task with
    | unstarted => simp [FarEnd.next?, ht] at hnext
    | connecting d =>
      -- this is the step in which the attempt comes to the answer
      obtain ⟨-, hunreported, -⟩ := hs.answered ht hnext
      have hnone := story_of_isEarly h (by rw [ht]; rfl)
      refine ⟨[], ?_⟩
      rw [story, hemitted, hunreported, hb.answer, ← List.append_assoc]
      exact congrArg (· ++ [o]) hnone
    | serving | disconnecting | finished =>
      obtain ⟨rest, hrest⟩ := hb.told (by rw [ht]; rfl)
      obtain ⟨more, hmore, -⟩ := story_of_step h hs (hemitted.trans (List.append_nil _).symm)
      exact ⟨rest ++ more, by rw [hmore, hrest]; rfl⟩

/-- Neither now nor later does a timeout come of a timely far end. -/
theorem timely_does (hplay : ∀ g, deed ≠ .play g) (hd : Does now l deed l')
    (hr : l.far.Timely) : l'.far.Timely := by
  cases hd with
  | asked _ _ hfar | started _ _ hfar | handled _ _ hfar => exact hfar ▸ hr
  | played => exact absurd rfl (hplay _)
  | went hnext => exact ((FarEnd.answers_of_next? hnext).timely hr).1

/-- Nor is one to be reported. -/
theorem Bound.timely (hb : Bound o l) (ho : o ≠ .failed .timeout) (h : l.channel.OnCourse)
    (hplay : ∀ g, deed ≠ .play g) (hd : Does now l deed l') (hr : l.far.Timely)
    (hstory : .failed .timeout ∉ l.story) : .failed .timeout ∉ l'.story := by
  have step {a : Connection.Action} {es : List ConnectionEvent}
      (hs : l.channel.connection.Step a l'.channel.connection es)
      (hemitted : l'.channel.emitted = l.channel.emitted ++ es)
      (herror : a.error? ≠ some .timeout) : .failed .timeout ∉ l'.story := by
    obtain ⟨more, hmore, hnew⟩ := story_of_step h hs hemitted
    rw [hmore, List.mem_append, not_or]
    refine ⟨hstory, fun hmem => ?_⟩
    rcases hnew _ hmem with hfault | ha
    · rw [hb.fault] at hfault
      cases hfault
    · exact herror ha
  cases hd with
  | asked hconnection hemitted => exact story_of_asked hconnection hemitted ▸ hstory
  | played => exact absurd rfl (hplay _)
  | started hs hemitted =>
    exact step hs (hemitted.trans (List.append_nil _).symm) (by simp [Connection.Action.error?])
  | handled hs hemitted => exact step hs hemitted (by simp [Connection.Action.error?])
  | went hnext hs hemitted =>
    exact step hs (hemitted.trans (List.append_nil _).symm)
      (((FarEnd.answers_of_next? hnext).timely hr).2 o hb.answer ho)

/-- The connection has emitted what its attempt came to, and nothing after a failure. -/
def Decided (o : ConnectionEvent) (l : Circuit) : Prop :=
  ∃ rest, l.channel.emitted = o :: rest ∧ (o ≠ .opened → rest = [] ∧ l.channel.state = .errored)

/-- The answer is the first that the connection emits. -/
theorem Bound.decided (hb : Bound o l) (h : l.channel.OnCourse) :
    l.channel.emitted = [] ∨ Decided o l := by
  obtain ⟨reads, hcourse⟩ := h.course
  cases hemitted : l.channel.emitted with
  | nil => exact .inl rfl
  | cons e rest =>
    have hne : l.channel.emitted ≠ [] := by simp [hemitted]
    have hstory := hcourse.story
    obtain ⟨more, hmore⟩ : ∃ more, l.story = o :: more := by
      refine hb.told ?_
      cases hearly : l.channel.connection.task.isEarly with
      | false => rfl
      | true => exact absurd (List.append_eq_nil_iff.1 (story_of_isEarly h hearly)).1 hne
    obtain ⟨rfl, -⟩ : e = o ∧ rest ++ l.channel.connection.unreported = more := by
      rw [story, hemitted] at hmore
      exact List.cons.inj hmore
    refine .inr ⟨rest, hemitted, fun hfailed => ?_⟩
    rw [hemitted, List.cons_append] at hstory
    have hreported := hcourse.reported_of_ne_nil hne
    -- of all stories, only one begins with a failure
    generalize hall : e :: (rest ++ l.channel.connection.unreported) = es at hstory
    generalize l.channel.connection.task = t at hstory
    cases hstory with
    | unstarted | connecting => cases hall
    | unconnected =>
      obtain ⟨rfl, hnil⟩ := List.cons.inj hall
      obtain ⟨rfl, -⟩ := List.append_eq_nil_iff.1 hnil
      rw [hemitted] at hreported
      exact ⟨rfl, (Option.some.inj hreported).symm⟩
    | serving | past => exact absurd (List.cons.inj hall).1 hfailed

/-- When the channel has settled, the attempt has come to its answer. -/
theorem Bound.settle (hb : Bound o l) (h : l.channel.OnCourse) (now : Nat) :
    Decided o (l.settle now) := by
  obtain ⟨h', hb'⟩ := settle_keeps now (P := Bound o)
    (fun h hb hd => hb.does h (by simp) hd) h hb
  have hrest := atRest_settle h now
  have hdecided := hrest.isEarly_eq_false fun d ht hgate => by
    have hanswer := hb'.answer
    rw [hgate] at hanswer
    cases hanswer
  exact (hb'.decided h').resolve_left (hrest.emitted_ne_nil hdecided)

/-! ## Waiting for the deadline -/

/-- The attempt waits at the gate for its deadline, or was given up when it came. -/
structure Waits (d now : Nat) (written : List String) (l : Circuit) : Prop where
  written : l.far.written = written
  attempt : l.channel.connection.task = .connecting d ∧ l.far.gate = .held ∨
    d ≤ now ∧ l.channel.connection.task = .finished ∧ l.story = [.failed .timeout]

variable {written : List String}

theorem Waits.mono {now' : Nat} (hw : Waits d now written l) (hle : now ≤ now') :
    Waits d now' written l :=
  ⟨hw.written, hw.attempt.imp_right fun h => ⟨h.1.trans hle, h.2⟩⟩

/-- Until the attempt is given up, the far end must not decide it. -/
theorem Waits.far (hw : Waits d now written l) {m : FarEnd.Move}
    (hm : m.outcome?.isSome → l.channel.connection.task.isEarly = false) :
    Waits d now written { l with far := m.act l.far } := by
  refine ⟨(FarEnd.written_act m l.far).trans hw.written, hw.attempt.imp_left fun h => ⟨h.1, ?_⟩⟩
  exact held_far h.2 (by rw [h.1]; rfl) hm

theorem Waits.does (hw : Waits d now written l) (h : l.channel.OnCourse)
    (hplay : ∀ g, deed ≠ .play g) (hd : Does now l deed l') : Waits d now written l' := by
  obtain ⟨reads, hcourse⟩ := h.course
  have same (hfar : l'.far = l.far) (hstory : l'.story = l.story)
      (htask : l'.channel.connection.task = l.channel.connection.task) :
      Waits d now written l' := by
    refine ⟨hfar ▸ hw.written, ?_⟩
    rw [hfar, hstory, htask]
    exact hw.attempt
  cases hd with
  | asked hconnection hemitted hfar =>
    exact same hfar (story_of_asked hconnection hemitted) (by rw [hconnection])
  | played => exact absurd rfl (hplay _)
  | started hs =>
    have ht := (hs.begun hcourse).1
    rcases hw.attempt with ⟨ht', -⟩ | ⟨-, ht', -⟩ <;> rw [ht'] at ht <;> cases ht
  | handled hs hemitted hfar =>
    obtain ⟨hstory, htask⟩ := story_of_handled h hs hemitted
    exact same hfar hstory htask
  | went hnext hs hemitted =>
    rcases hw.attempt with ⟨ht, hgate⟩ | ⟨-, ht, -⟩
    · -- at a gate that is held the task goes on with the timeout, or not at all
      obtain ⟨hfar, hunreported, hfinished⟩ := hs.answered ht hnext
      obtain ⟨hdue, htask⟩ := hfinished (FarEnd.Gate.outcome?_eq_none_iff.2 hgate)
      refine ⟨hfar ▸ hw.written, .inr ⟨hdue, htask, ?_⟩⟩
      have hnone := story_of_isEarly h (by rw [ht]; rfl)
      rw [story, hemitted, hunreported, FarEnd.Gate.outcome?_eq_none_iff.2 hgate,
        ← List.append_assoc]
      exact congrArg (· ++ [ConnectionEvent.failed .timeout]) hnone
    · simp [FarEnd.next?, ht] at hnext

/-- All that is emitted is the timeout. -/
theorem Waits.emitted_prefix (hw : Waits d now written l) (h : l.channel.OnCourse) :
    l.channel.emitted <+: [.failed .timeout] := by
  rcases hw.attempt with ⟨ht, -⟩ | ⟨-, -, hstory⟩
  · rw [(List.append_eq_nil_iff.1 (story_of_isEarly h (by rw [ht]; rfl))).1]
    exact List.nil_prefix
  · exact hstory ▸ List.prefix_append _ _

/-- Before the deadline the connection is connecting. -/
theorem Waits.early (hw : Waits d now written l) (h : l.channel.OnCourse) (hlt : now < d) :
    l.channel.connection.task = .connecting d ∧ l.channel.state = .connecting ∧
      l.channel.emitted = [] := by
  obtain ⟨reads, hcourse⟩ := h.course
  obtain ⟨ht, -⟩ := hw.attempt.resolve_right fun hexpired => (hexpired.1.trans_lt hlt).false
  have hnil := (List.append_eq_nil_iff.1 (story_of_isEarly h (by rw [ht]; rfl))).1
  have hreported := hcourse.reported (by simp [ht])
  rw [hnil] at hreported
  exact ⟨ht, (Option.some.inj hreported).symm, hnil⟩

/-! ## After the deadline -/

/-- The connection has failed with the timeout, and its actor has stopped. -/
structure Dead (written : List String) (l : Circuit) : Prop where
  stopped : l.channel.connection.stopped
  task : l.channel.connection.task = .finished
  state : l.channel.state = .errored
  emitted : l.channel.emitted = [.failed .timeout]
  written : l.far.written = written

/-- At the deadline, or later, this is what settling comes to. -/
theorem Waits.expire (hw : Waits d now written l) (h : l.channel.OnCourse) (hdue : d ≤ now) :
    (l.settle now).channel.OnCourse ∧ Dead written (l.settle now) := by
  obtain ⟨h', hw'⟩ := settle_keeps now (P := Waits d now written)
    (fun h hw hd => hw.does h (by simp) hd) h hw
  obtain ⟨reads, hcourse⟩ := h'.course
  have hrest := atRest_settle h now
  -- settled, the task cannot be waiting past its deadline
  have ht : (l.settle now).channel.connection.task = .finished := by
    rcases hw'.attempt with ⟨ht, -⟩ | ⟨-, ht, -⟩
    · exact absurd (hrest.waiting d ht).2 hdue.not_gt
    · exact ht
  have hne := hrest.emitted_ne_nil (by rw [ht]; rfl)
  have hemitted : (l.settle now).channel.emitted = [.failed .timeout] :=
    (Channel.eq_nil_or_eq_of_prefix (hw'.emitted_prefix h')).resolve_left hne
  have hreported := hcourse.reported_of_ne_nil hne
  rw [hemitted] at hreported
  have hstate : (l.settle now).channel.state = .errored := (Option.some.inj hreported).symm
  exact ⟨h', h'.halted.2 ⟨ht, by rw [← Channel.state, hstate]; rfl⟩, ht, hstate, hemitted,
    hw'.written⟩

theorem Dead.far (hdead : Dead written l) (m : FarEnd.Move) :
    Dead written { l with far := m.act l.far } :=
  ⟨hdead.stopped, hdead.task, hdead.state, hdead.emitted,
    (FarEnd.written_act m l.far).trans hdead.written⟩

/-- No deed brings it back. -/
theorem Dead.does (hdead : Dead written l) (h : l.channel.OnCourse) (hplay : ∀ g, deed ≠ .play g)
    (hd : Does now l deed l') : Dead written l' := by
  obtain ⟨reads, hcourse⟩ := h.course
  cases hd with
  | asked hconnection hemitted hfar =>
    refine ⟨?_, ?_, ?_, hemitted.trans hdead.emitted, hfar ▸ hdead.written⟩
    · rw [hconnection, ← hdead.stopped]
    · rw [hconnection, ← hdead.task]
    · rw [Channel.state, hconnection, ← hdead.state]
      rfl
  | played => exact absurd rfl (hplay _)
  | started hs =>
    have ht := (hs.begun hcourse).1
    rw [hdead.task] at ht
    cases ht
  | handled hs =>
    have hstopped := hs.stopped_eq_false
    rw [hdead.stopped] at hstopped
    cases hstopped
  | went hnext => simp [FarEnd.next?, hdead.task] at hnext

/-- Its actor and its task have nothing left to do. -/
theorem Dead.work_eq (hdead : Dead written l) (now : Nat) {w : Worker} (hw : w ≠ .hub) :
    l.work now w = l := by
  cases w with
  | hub => exact absurd rfl hw
  | starter => simp [work, act, Channel.act?, Connection.step?, hdead.task]
  | actor => simp [work, act, Channel.act?, Connection.step?, hdead.stopped]
  | task => simp [work, FarEnd.next?, hdead.task]

end Circuit

end PartyLine
