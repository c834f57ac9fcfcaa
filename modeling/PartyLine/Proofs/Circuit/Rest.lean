import PartyLine.Proofs.Circuit.Deeds

/-!
# Coming to rest

A channel that settles does its own work, piece by piece, and the pieces leave no attempt
half-way: either the task waits at a gate that is held, before its deadline, or the attempt has
been decided and the hub has taken the news of it. Two turns are enough for this, one in which the
task decides the attempt and one in which the actor tells the hub, whatever else the callbacks keep
the hub busy with.

Settling is defined by turns with fuel, and is read here as a list of small pieces of work
(`works`), each of which is a deed like any other. So whatever every piece keeps, settling keeps,
and how many pieces there are is of no account. That it comes to rest is another matter, as
callbacks may keep asking for more. But of the attempt and its news there is only so much: the
task decides the attempt in one turn or has to wait, and what the actor and the hub have to hear
of it they hear in the next.

* `Circuit.works`, `exists_works_settle`: settling is work;
* `settle_keeps`, `after_keeps`: an invariant of small steps is one of settling;
* `turn_eq_works`: the work of one turn;
* `Circuit.AtRest`, `atRest_of_isQuiet`: what is so when nothing is left to do;
* `atRest_settle`: what is so after settling.
-/

namespace PartyLine

namespace Circuit

/-- Pieces of work, one after the other at one time. -/
def works (now : Nat) (ws : List Worker) (l : Circuit) : Circuit :=
  ws.foldl (fun l w => l.work now w) l

variable {l l' : Circuit} {now : Nat} {w : Worker} {ws : List Worker}

theorem works_append (ws ws' : List Worker) (l : Circuit) :
    l.works now (ws ++ ws') = (l.works now ws).works now ws' :=
  List.foldl_append

/-- What every piece of work keeps, work keeps. -/
theorem works_keeps {P : Circuit → Prop} (ws : List Worker)
    (hwork : ∀ l w, w ∈ ws → P l → P (l.work now w)) (h : P l) : P (l.works now ws) := by
  induction ws generalizing l with
  | nil => exact h
  | cons w ws ih =>
    exact ih (fun l w hw => hwork l w (List.mem_cons_of_mem _ hw)) (hwork l w List.mem_cons_self h)

theorem onCourse_works (h : l.channel.OnCourse) (now : Nat) (ws : List Worker) :
    (l.works now ws).channel.OnCourse :=
  works_keeps (P := fun l => l.channel.OnCourse) ws (fun _ w _ h => (does_work h now w).2) h

/-! ## Settling is work -/

/-- The channel with what its connection has come to, and the far end with it. -/
def linked (c : Channel) (k : Link) : Circuit := ⟨c.withLink k, k.far⟩

theorem linked_perform (c : Channel) (k : Link) (a : Connection.Action) :
    linked c (k.perform a) = (linked c k).act a := by
  unfold Link.perform
  split
  · next connection es hstep => simp [linked, act, Channel.act?, Channel.withLink, hstep]
  · next hstep => simp [linked, act, Channel.act?, Channel.withLink, hstep]

theorem linked_takeMessages (c : Channel) (now n : Nat) (k : Link) :
    linked c (Link.takeMessages n k) = (linked c k).works now (.replicate n .actor) := by
  induction n generalizing k with
  | zero => rfl
  | succ n ih =>
    rw [Link.takeMessages, ih, linked_perform]
    rfl

theorem runTask_of_next?_eq_none {k : Link} (h : FarEnd.next? now k.connection k.far = none)
    (fuel : Nat) : Link.runTask now fuel k = k := by
  cases fuel with
  | zero => rfl
  | succ fuel => rw [Link.runTask, h]

theorem linked_runTask (c : Channel) (now fuel : Nat) (k : Link) :
    linked c (Link.runTask now fuel k) = (linked c k).works now (.replicate fuel .task) := by
  induction fuel generalizing k with
  | zero => rfl
  | succ fuel ih =>
    show linked c (Link.runTask now (fuel + 1) k) =
      ((linked c k).work now .task).works now (.replicate fuel .task)
    cases hnext : FarEnd.next? now k.connection k.far with
    | none =>
      have hidle : (linked c k).work now .task = linked c k := by
        simp [work, linked, Channel.withLink, hnext]
      rw [hidle, ← ih, runTask_of_next?_eq_none hnext, runTask_of_next?_eq_none hnext]
    | some p =>
      have hwork : (linked c k).work now .task = linked c ({ k with far := p.2 }.perform p.1) := by
        rw [linked_perform]
        simp [work, linked, Channel.withLink, hnext]
      rw [hwork, ← ih, Link.runTask, hnext]

theorem takeMessages_eq_works (now n : Nat) (l : Circuit) :
    { l with channel := takeMessages n l.channel } = l.works now (.replicate n .hub) := by
  induction n generalizing l with
  | zero => rfl
  | succ n ih => exact ih { l with channel := l.channel.takeMessage?.getD l.channel }

/-- The actor takes the messages that it has. -/
def actorTurn (now : Nat) (l : Circuit) : Circuit :=
  l.works now (.replicate l.channel.connection.inbox.length .actor)

/-- The hub takes the messages that it has. -/
def hubTurn (now : Nat) (l : Circuit) : Circuit :=
  l.works now (.replicate l.channel.inbox.length .hub)

/-- The work of a turn: the actor starts and has its turn, the task goes on, and the hub has its
    turn. -/
theorem turn_eq_works (now : Nat) (l : Circuit) : ∃ n, l.turn now =
    (((l.work now .starter).actorTurn now).works now (.replicate (n + 1) .task)).hubTurn now := by
  have hstart : linked l.channel l.link = l := by simp [linked, Channel.withLink, link]
  have hstarted : linked l.channel (l.link.perform (.start now)) = l.work now .starter := by
    rw [linked_perform, hstart]
    rfl
  have hturn (k : Link) : ∃ n, linked l.channel (Link.runTask now k.taskBound k) =
      (linked l.channel k).works now (.replicate (n + 1) .task) := ⟨_, linked_runTask ..⟩
  obtain ⟨n, hn⟩ := hturn (Link.takeMessages (l.link.perform (.start now)).connection.inbox.length
    (l.link.perform (.start now)))
  refine ⟨n, ?_⟩
  have hconnection : l.connectionTurn now =
      ((l.work now .starter).actorTurn now).works now (.replicate (n + 1) .task) := by
    rw [actorTurn, ← hstarted]
    refine hn.trans ?_
    rw [linked_takeMessages _ now]
    rfl
  rw [turn, takeMessages_eq_works now, hconnection, hubTurn]

/-- A turn is work. -/
theorem exists_works_turn (now : Nat) (l : Circuit) : ∃ ws, l.turn now = l.works now ws := by
  obtain ⟨n, hturn⟩ := turn_eq_works now l
  rw [hturn, hubTurn, ← works_append, actorTurn, ← works_append]
  exact ⟨.starter :: _, rfl⟩

theorem exists_works_turns (now fuel : Nat) (l : Circuit) :
    ∃ ws, turns now fuel l = l.works now ws := by
  induction fuel generalizing l with
  | zero => exact ⟨[], rfl⟩
  | succ fuel ih =>
    rw [turns]
    split
    · exact ⟨[], rfl⟩
    · obtain ⟨ws, hturn⟩ := exists_works_turn now l
      obtain ⟨ws', hturns⟩ := ih (l.turn now)
      exact ⟨ws ++ ws', by rw [hturns, hturn, works_append]⟩

/-- Settling is work. -/
theorem exists_works_settle (now : Nat) (l : Circuit) : ∃ ws, l.settle now = l.works now ws :=
  exists_works_turns now _ l

/-- What settling comes to, when two turns are enough for it. -/
theorem settle_induction {P Q : Circuit → Prop} (hwork : ∀ l w, Q l → Q (l.work now w))
    (hquiet : ∀ l, Q l → l.isQuiet now → P l) (hturns : ∀ l, Q l → P ((l.turn now).turn now))
    (hkeeps : ∀ l w, Q l → P l → P (l.work now w)) (h : Q l) : P (l.settle now) := by
  have turn {l : Circuit} (h : Q l) : Q (l.turn now) := by
    obtain ⟨ws, hturn⟩ := exists_works_turn now l
    rw [hturn]
    exact works_keeps ws (fun l w _ h => hwork l w h) h
  have turns (fuel : Nat) {l : Circuit} (h : Q l ∧ P l) : P (Circuit.turns now fuel l) := by
    obtain ⟨ws, hturns⟩ := exists_works_turns now fuel l
    rw [hturns]
    exact (works_keeps (P := fun l => Q l ∧ P l) ws
      (fun l w _ h => ⟨hwork l w h.1, hkeeps l w h.1 h.2⟩) h).2
  rw [settle]
  obtain ⟨fuel, hfuel⟩ : ∃ fuel, l.link.taskBound + 8 = fuel + 2 := ⟨_, rfl⟩
  rw [hfuel, Circuit.turns]
  split
  · next hq => exact hquiet l h hq
  · rw [Circuit.turns]
    split
    · next hq => exact hquiet _ (turn h) hq
    · exact turns fuel ⟨turn (turn h), hturns l h⟩

/-- What every piece of work keeps, settling keeps. -/
theorem settle_keeps (now : Nat) {P : Circuit → Prop}
    (hdoes : ∀ {l l' : Circuit} {w : Worker}, l.channel.OnCourse → P l → Does now l (.work w) l' →
      P l')
    (h : l.channel.OnCourse) (hP : P l) : (l.settle now).channel.OnCourse ∧ P (l.settle now) := by
  obtain ⟨ws, hsettle⟩ := exists_works_settle now l
  rw [hsettle]
  refine works_keeps (P := fun l => l.channel.OnCourse ∧ P l) ws (fun l w _ h => ?_) ⟨h, hP⟩
  obtain ⟨hwork, hc⟩ := does_work h.1 now w
  exact ⟨hc, hdoes h.1 h.2 hwork⟩

/-- What every deed but settling keeps, and so does settling. -/
theorem after_keeps (now : Nat) {P : Circuit → Prop}
    (hdoes : ∀ {l l' : Circuit} {d : Deed}, l.channel.OnCourse → P l → Does now l d l' → P l')
    (h : l.channel.OnCourse) (hP : P l) (d : Deed) : P (l.after now d) := by
  cases d with
  | settle => exact (settle_keeps now hdoes h hP).2
  | _ => exact hdoes h hP (does_after h now (by simp)).1

/-! ## Rest -/

/-- The attempt has got as far as it can: it is not still to be made, and while the task waits for
    it the gate is held and the deadline is not reached. -/
structure Arrived (now : Nat) (l : Circuit) : Prop where
  started : l.channel.connection.task ≠ .unstarted
  waiting : ∀ d, l.channel.connection.task = .connecting d → l.far.gate = .held ∧ now < d

/-- Nor does the hub have still to take the news of its outcome. -/
structure AtRest (now : Nat) (l : Circuit) : Prop extends Arrived now l where
  taken : l.channel.connection.task.isEarly = false → Channel.eventsTaken l.channel.journal ≠ []

/-- An attempt that has been decided has got there. -/
theorem arrived_of_isEarly_eq_false (hdecided : l.channel.connection.task.isEarly = false) :
    Arrived now l := by
  obtain ⟨hstarted, hconnecting⟩ := Connection.Task.isEarly_eq_false_iff.1 hdecided
  exact ⟨hstarted, fun d ht => absurd ht (hconnecting d)⟩

/-- Unless it waits, the attempt has been decided. -/
theorem Arrived.isEarly_eq_false (ha : Arrived now l)
    (hwaits : ∀ d, l.channel.connection.task = .connecting d → l.far.gate = .held → d ≤ now) :
    l.channel.connection.task.isEarly = false := by
  refine Connection.Task.isEarly_eq_false_iff.2 ⟨ha.started, fun d ht => ?_⟩
  obtain ⟨hgate, hlt⟩ := ha.waiting d ht
  exact absurd hlt (hwaits d ht hgate).not_gt

theorem AtRest.emitted_ne_nil (hr : AtRest now l)
    (hdecided : l.channel.connection.task.isEarly = false) : l.channel.emitted ≠ [] :=
  fun hnil => hr.taken hdecided (List.append_eq_nil_iff.1 hnil).1

/-- Work leaves the task where it is, or starts it, or goes on with an answer that is there. -/
theorem task_work (h : l.channel.OnCourse) (now : Nat) (w : Worker) :
    (l.work now w).far.gate = l.far.gate ∧
      ((l.work now w).channel.connection.task = l.channel.connection.task ∨
        l.channel.connection.task = .unstarted ∧
          (l.work now w).channel.connection.task ≠ .unstarted ∨
        (FarEnd.next? now l.channel.connection l.far).isSome ∧
          (l.work now w).channel.connection.task.isEarly = false) := by
  obtain ⟨reads, hcourse⟩ := h.course
  rcases (does_work h now w).1 with
    ⟨hconnection, -, hfar⟩ | - | ⟨hs, -, hfar⟩ | ⟨hs, -, hfar⟩ | ⟨hnext, hs, -⟩
  · rw [hfar, hconnection]
    exact ⟨rfl, .inl rfl⟩
  · obtain ⟨ht, -, htask, -⟩ := hs.begun hcourse
    rw [hfar, htask]
    exact ⟨rfl, .inr (.inl ⟨ht, by split <;> simp⟩)⟩
  · rw [hfar, (hs.handled hcourse).1]
    exact ⟨rfl, .inl rfl⟩
  · refine ⟨(FarEnd.answers_of_next? hnext).gate, ?_⟩
    rcases hs.task_cases hcourse with heq | hdecided | ⟨t, ha, -⟩
    · exact .inl heq
    · exact .inr (.inr ⟨by rw [hnext]; rfl, hdecided⟩)
    · exact absurd ha ((FarEnd.answers_of_next? hnext).isSome_step?.2.2 t)

/-- Work at the same time keeps what has arrived where it is. -/
theorem Arrived.work (ha : Arrived now l) (h : l.channel.OnCourse) (w : Worker) :
    Arrived now (l.work now w) ∧ (l.channel.connection.task.isEarly →
      (l.work now w).channel.connection.task.isEarly) := by
  obtain ⟨hgate, htask | ⟨ht, -⟩ | ⟨hnext, hdecided⟩⟩ := task_work h now w
  · exact ⟨⟨htask ▸ ha.started, fun d hd => hgate ▸ ha.waiting d (htask ▸ hd)⟩,
      fun hearly => htask ▸ hearly⟩
  · exact absurd ht ha.started
  · -- there is no answer while it waits, so the attempt has been decided before
    have hearly : l.channel.connection.task.isEarly = false := by
      refine Connection.Task.isEarly_eq_false_iff.2 ⟨ha.started, fun d ht => ?_⟩
      rw [(FarEnd.next?_eq_none_iff ht).2 (ha.waiting d ht)] at hnext
      cases hnext
    refine ⟨arrived_of_isEarly_eq_false hdecided, fun h => ?_⟩
    rw [h] at hearly
    cases hearly

/-- What the hub has taken stays in the journal. -/
theorem taken_work (h : l.channel.OnCourse) (now : Nat) (w : Worker) :
    Channel.eventsTaken l.channel.journal <+:
      Channel.eventsTaken (l.work now w).channel.journal := by
  have act (l : Circuit) (a : Connection.Action) :
      (l.act a).channel.journal = l.channel.journal := by
    rw [Circuit.act]
    cases hact : l.channel.act? a with
    | none => rfl
    | some c =>
      obtain ⟨p, -, rfl⟩ := Option.map_eq_some_iff.1 hact
      rfl
  cases w with
  | starter | actor =>
    rw [work, act]
  | task =>
    rw [work]
    split
    · rw [act]
    · exact List.prefix_rfl
  | hub =>
    rw [work]
    cases htake : l.channel.takeMessage? with
    | none => exact List.prefix_rfl
    | some c =>
      obtain ⟨m, rest, hinbox, -⟩ := Channel.takes_of_takeMessage? htake
      obtain ⟨-, -, -, htaken⟩ := h.taken hinbox htake
      show _ <+: Channel.eventsTaken c.journal
      rw [htaken]
      exact List.prefix_append _ _

/-- Work at the same time leaves at rest what is. -/
theorem AtRest.work (hr : AtRest now l) (h : l.channel.OnCourse) (w : Worker) :
    AtRest now (l.work now w) := by
  obtain ⟨harrived, hearly⟩ := hr.toArrived.work h w
  refine ⟨harrived, fun hdecided hnil => hr.taken ?_ ?_⟩
  · cases ht : l.channel.connection.task.isEarly with
    | false => rfl
    | true =>
      rw [hearly ht] at hdecided
      cases hdecided
  · have htaken := taken_work h now w
    rw [hnil] at htaken
    exact List.prefix_nil.1 htaken

/-- When nothing is left to do. -/
theorem atRest_of_isQuiet (h : l.channel.OnCourse) (hquiet : l.isQuiet now) : AtRest now l := by
  obtain ⟨reads, hcourse⟩ := h.course
  simp only [isQuiet, Link.isQuiet, link, Bool.and_eq_true, Bool.or_eq_true, List.isEmpty_iff,
    Option.isNone_iff_eq_none, bne_iff_ne, ne_eq] at hquiet
  obtain ⟨⟨⟨hactor, htask⟩, hstarter⟩, hhub⟩ := hquiet
  have hunreported : l.channel.connection.unreported = [] := by
    rcases hactor with hinbox | hstopped
    · rw [Connection.unreported, hinbox]
      rfl
    · exact hcourse.unreported_eq_nil (h.halted.1 hstopped).2
  refine ⟨⟨fun ht => ?_, fun d ht => (FarEnd.next?_eq_none_iff ht).1 htask⟩, fun hdecided => ?_⟩
  · rcases hstarter with hne | hstopped
    · exact hne ht
    · rw [(h.halted.1 hstopped).1] at ht
      cases ht
  · have hne := hcourse.story.ne_nil hdecided
    rwa [hunreported, List.append_nil, Channel.emitted, hhub, List.filterMap_nil,
      List.append_nil] at hne

/-! ## Turns -/

/-- The actor starts if it has not. -/
theorem started_work (h : l.channel.OnCourse) (now : Nat) :
    (l.work now .starter).channel.connection.task ≠ .unstarted := by
  obtain ⟨reads, hcourse⟩ := h.course
  rw [work]
  rcases act_cases h (.start now) with ⟨hnone, hact⟩ | ⟨es, hs, -⟩
  · rw [hact]
    intro ht
    have hstopped := h.halted.stopped_eq_false (.inl (by simp [ht]))
    simp [Connection.step?, ht, hstopped] at hnone
  · rw [(hs.begun hcourse).2.2.1]
    split <;> simp

/-- Once started, the task goes on as far as it can. -/
theorem arrived_work (h : l.channel.OnCourse) (ht : l.channel.connection.task ≠ .unstarted) :
    Arrived now (l.work now .task) := by
  rw [work]
  cases hnext : FarEnd.next? now l.channel.connection l.far with
  | none => exact ⟨ht, fun d hd => (FarEnd.next?_eq_none_iff hd).1 hnext⟩
  | some p =>
    obtain ⟨a, far⟩ := p
    obtain ⟨reads, hcourse⟩ := h.course
    obtain ⟨hpossible, hne, -⟩ := (FarEnd.answers_of_next? hnext).isSome_step?
    rcases act_cases (l := { l with far }) h a with ⟨hnone, -⟩ | ⟨es, hs, -, -, -⟩
    · rw [hnone] at hpossible
      cases hpossible
    · refine arrived_of_isEarly_eq_false ?_
      cases htask : l.channel.connection.task with
      | unstarted => exact absurd htask ht
      | connecting d => exact hs.decides htask hne
      | serving | disconnecting | finished =>
        exact hs.isEarly_eq_false hcourse (by rw [htask]; rfl)

/-- In its turn, the actor reports all that it has still to report. -/
theorem emitted_actorTurn (h : l.channel.OnCourse) (now : Nat) :
    (l.actorTurn now).channel.emitted =
      l.channel.emitted ++ l.channel.connection.unreported := by
  rw [actorTurn]
  generalize hn : l.channel.connection.inbox.length = n
  induction n generalizing l with
  | zero => simp [works, Connection.unreported, List.eq_nil_of_length_eq_zero hn]
  | succ n ih =>
    obtain ⟨reads, hcourse⟩ := h.course
    have hcons : l.works now (.replicate (n + 1) .actor) =
        (l.act .handle).works now (.replicate n .actor) := rfl
    rcases act_cases h .handle with ⟨hnone, hact⟩ | ⟨es, hs, hemitted, -, hc⟩
    · -- the actor has stopped, and there is nothing that it would report
      have hstopped : l.channel.connection.stopped := by
        cases hinbox : l.channel.connection.inbox with
        | nil => rw [hinbox] at hn; cases hn
        | cons m rest => simpa [Connection.step?, hinbox] using hnone
      have hsame : l.works now (.replicate (n + 1) .actor) = l :=
        works_keeps (P := (· = l)) _ (fun l' w hw hl' => by
          rw [hl', List.eq_of_mem_replicate hw]
          exact hact) rfl
      rw [hsame, hcourse.unreported_eq_nil (h.halted.1 hstopped).2, List.append_nil]
    · obtain ⟨-, -, hstory, m, hinbox⟩ := hs.handled hcourse
      have hlength : (l.act .handle).channel.connection.inbox.length = n := by
        rw [hinbox, List.length_cons] at hn
        exact Nat.succ.inj hn
      rw [hcons, ih hc hlength, hemitted, List.append_assoc, hstory]

/-- In its turn, the hub takes all that has been reported. -/
theorem taken_hubTurn (h : l.channel.OnCourse) (now : Nat) :
    Channel.eventsTaken (l.hubTurn now).channel.journal = l.channel.emitted := by
  have takes (ms rest : List Channel.Message) {l : Circuit} (h : l.channel.OnCourse)
      (hinbox : l.channel.inbox = ms ++ rest) :
      Channel.eventsTaken (l.works now (.replicate ms.length .hub)).channel.journal =
        Channel.eventsTaken l.channel.journal ++ ms.filterMap Channel.Message.event? := by
    induction ms generalizing l rest with
    | nil => simp [works]
    | cons m ms ih =>
      obtain ⟨c, htake⟩ : ∃ c, l.channel.takeMessage? = some c := by
        simp [Channel.takeMessage?, hinbox]
      obtain ⟨hc, -, ⟨ms', hrest⟩, htaken⟩ := h.taken hinbox htake
      have hcons : l.works now (.replicate (m :: ms).length .hub) =
          { l with channel := c }.works now (.replicate ms.length .hub) := by
        rw [List.length_cons, List.replicate_succ]
        show (l.work now .hub).works now _ = _
        rw [work, htake, Option.getD_some]
      rw [hcons, ih (rest ++ ms') hc (hrest.trans (List.append_assoc ms rest ms')), htaken]
      cases hm : m.event? <;> simp [hm]
  exact takes l.channel.inbox [] h (List.append_nil _).symm

variable (h : l.channel.OnCourse)

include h

/-- A turn brings the attempt as far as it can get. -/
theorem arrived_turn (now : Nat) : Arrived now (l.turn now) := by
  have keeps {l : Circuit} (ws : List Worker) (h : l.channel.OnCourse ∧ Arrived now l) :
      (l.works now ws).channel.OnCourse ∧ Arrived now (l.works now ws) :=
    works_keeps (P := fun l => l.channel.OnCourse ∧ Arrived now l) ws
      (fun _ w _ h => ⟨(does_work h.1 now w).2, (h.2.work h.1 w).1⟩) h
  have hstarter := (does_work h now .starter).2
  obtain ⟨hactor, ht⟩ : ((l.work now .starter).actorTurn now).channel.OnCourse ∧
      ((l.work now .starter).actorTurn now).channel.connection.task ≠ .unstarted := by
    refine works_keeps (P := fun l => l.channel.OnCourse ∧ l.channel.connection.task ≠ .unstarted) _
      (fun l w _ h => ⟨(does_work h.1 now w).2, ?_⟩) ⟨hstarter, started_work h now⟩
    obtain ⟨-, htask | ⟨ht, -⟩ | ⟨-, hdecided⟩⟩ := task_work h.1 now w
    · exact htask ▸ h.2
    · exact absurd ht h.2
    · intro ht
      rw [ht] at hdecided
      cases hdecided
  obtain ⟨n, hturn⟩ := turn_eq_works now l
  rw [hturn]
  exact (keeps _ (keeps (.replicate n .task)
    ⟨(does_work hactor now .task).2, arrived_work hactor ht⟩)).2

/-- In a turn the news of an attempt that has been decided get to the hub. -/
theorem taken_turn (hdecided : l.channel.connection.task.isEarly = false) (now : Nat) :
    Channel.eventsTaken (l.turn now).channel.journal ≠ [] := by
  obtain ⟨reads, hcourse⟩ := h.course
  have hstarter : l.work now .starter = l := by
    rw [work]
    rcases act_cases h (.start now) with ⟨-, hact⟩ | ⟨es, hs, -⟩
    · exact hact
    · rw [(hs.begun hcourse).1] at hdecided
      cases hdecided
  have hactor : (l.actorTurn now).channel.OnCourse := onCourse_works h now _
  have htasks : ∀ n, ((l.actorTurn now).works now (.replicate n .task)).channel.OnCourse ∧
      ((l.actorTurn now).works now (.replicate n .task)).channel.emitted ≠ [] := by
    intro n
    refine works_keeps (P := fun l => l.channel.OnCourse ∧ l.channel.emitted ≠ []) _
      (fun l w _ h => ⟨(does_work h.1 now w).2, ?_⟩) ⟨hactor, ?_⟩
    · rcases (does_work h.1 now w).1 with
        ⟨-, hemitted, -⟩ | - | ⟨-, hemitted, -⟩ | ⟨-, hemitted, -⟩ | ⟨-, -, hemitted⟩
      all_goals simp [hemitted, h.2]
    · rw [emitted_actorTurn h]
      exact hcourse.story.ne_nil hdecided
  obtain ⟨n, hturn⟩ := turn_eq_works now l
  rw [hturn, hstarter, taken_hubTurn (htasks _).1]
  exact (htasks _).2

/-- Two turns bring a channel to rest. -/
theorem atRest_turns (now : Nat) : AtRest now ((l.turn now).turn now) := by
  obtain ⟨ws, hturn⟩ := exists_works_turn now l
  have hl : (l.turn now).channel.OnCourse := by
    rw [hturn]
    exact onCourse_works h now ws
  have harrived := arrived_turn h now
  cases hearly : (l.turn now).channel.connection.task.isEarly with
  | false => exact ⟨arrived_turn hl now, fun _ => taken_turn hl hearly now⟩
  | true =>
    obtain ⟨ws', hturn'⟩ := exists_works_turn now (l.turn now)
    have hrest : AtRest now (l.turn now) := ⟨harrived, fun hdecided => by
      rw [hearly] at hdecided
      cases hdecided⟩
    rw [hturn']
    exact (works_keeps (P := fun l => l.channel.OnCourse ∧ AtRest now l) ws'
      (fun _ w _ h => ⟨(does_work h.1 now w).2, h.2.work h.1 w⟩) ⟨hl, hrest⟩).2

/-- So does settling. -/
theorem atRest_settle (now : Nat) : AtRest now (l.settle now) :=
  settle_induction (P := AtRest now) (Q := fun l => l.channel.OnCourse)
    (fun _ w h => (does_work h now w).2) (fun _ h hquiet => atRest_of_isQuiet h hquiet)
    (fun _ h => atRest_turns h now) (fun _ w h hr => hr.work h w) h

end Circuit

end PartyLine
