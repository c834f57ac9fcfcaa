import PartyLine.Proofs.Channel.Alike
import PartyLine.Proofs.Circuit.Attempt

/-!
# The connect timeout

An attempt to connect races the gate of the far end against a clock. Whatever the far end does
first decides it: letting the attempt through, or refusing it. If it does neither until the
deadline, the attempt is given up and the connection has failed; whatever the far end does then, and
whoever calls to send, nothing comes of it.

The task does not look at the clock alone. As long as it has not acted on the deadline, an answer of
the far end that is there comes first, even if it is late.

A schedule says what happens at a channel and how time passes, in any order and for as long as it
likes. Whether the far end decides the attempt in it is a matter of the schedule alone
(`Timed.Undecided`, by recursion over it), and each of the two cases has an invariant of the
channel that every tick keeps: the answer stands at the gate and will be the first thing emitted,
or the attempt waits with the gate held and nothing written or emitted. That nothing comes of what
is done after the failure is said of two schedules, one with it and one without, whose
channels stay alike for all subscribers (`Twins`).

* `Tick`, `Timed.run`: what happens at a channel, and the passing of time;
* `Timed.Undecided`: schedules in which the far end does not decide the attempt;
* `decided_run`, `waits_run`: an attempt that is decided, and one that is not;
* `Twins`: two connections that have failed for good, `Twins.run`;
* `timeout_sharp`: what the attempt comes to, in every schedule.
-/

namespace PartyLine

/-! ## Schedules -/

/-- What happens at a channel, and the passing of time. Work is done piece by piece. -/
inductive Tick where
  | pass (ms : Nat)
  | far (m : FarEnd.Move)
  | subscribe (s : Subscriber)
  | release (id : Nat)
  | send (e : Envelope)
  /-- A call to send that found the connection open some time ago. -/
  | handOver (e : Envelope)
  | arrange (a : Channel.Arrangement)
  | overtake (place : Nat)
  | work (w : Circuit.Worker)

namespace Tick

/-- How much time it takes. -/
def elapsed : Tick → Nat
  | pass ms => ms
  | _ => 0

/-- What is done at the channel. -/
def deed? : Tick → Option Circuit.Deed
  | pass _ => none
  | far m => some (.play m.act)
  | subscribe s => some (.subscribe s)
  | release id => some (.release id)
  | send e => some (.send e)
  | handOver e => some (.handOver e)
  | arrange a => some (.arrange a)
  | overtake place => some (.overtake place)
  | work w => some (.work w)

/-- What an attempt is to report that it decides. -/
def outcome? : Tick → Option ConnectionEvent
  | far m => m.outcome?
  | _ => none

/-- Whether it starts the actor. -/
def starts : Tick → Bool
  | work .starter => true
  | _ => false

/-- Whether the far end does it, or a consumer that sends. -/
def isFutile : Tick → Bool
  | far _ | send _ | handOver _ => true
  | _ => false

end Tick

/-- A channel with its far end, and a clock. -/
structure Timed where
  now : Nat
  circuit : Circuit

namespace Timed

/-- What a tick comes to. -/
def after (t : Timed) (k : Tick) : Timed where
  now := t.now + k.elapsed
  circuit := k.deed?.elim t.circuit (t.circuit.after t.now)

/-- What a schedule comes to. -/
def run (t : Timed) (w : List Tick) : Timed := w.foldl after t

/-- The work is done that is left to do. -/
def settle (t : Timed) : Timed := { t with circuit := t.circuit.settle t.now }

/-- A new channel at some time, with its far end. -/
def start (params : ConnectParams) (far : FarEnd) (now : Nat) : Timed :=
  ⟨now, ⟨.init params none, far⟩⟩

/-- The channel and its far end after it. -/
def channel (t : Timed) : Channel := t.circuit.channel

/-- Whether the attempt to connect is still to be made, or to be decided. -/
def isEarly (t : Timed) : Bool := t.channel.connection.task.isEarly

/-- The far end does nothing that would decide the attempt, until the attempt is over. -/
def Undecided : Timed → List Tick → Prop
  | _, [] => True
  | t, k :: w => (k.outcome?.isSome → t.isEarly = false) ∧ Undecided (t.after k) w

/-- The connection has failed with the timeout. -/
structure TimedOut (written : List String) (t : Timed) : Prop where
  state : t.channel.state = .errored
  emitted : t.channel.emitted = [.failed .timeout]
  written : t.circuit.far.written = written

/-! ## Runs -/

section Runs

open Circuit

variable {t t' : Timed} {d : Nat} {written : List String} {params : ConnectParams}
  {o : ConnectionEvent}

theorem run_append (t : Timed) (w w' : List Tick) : t.run (w ++ w') = (t.run w).run w' :=
  List.foldl_append

theorem undecided_append {w w' : List Tick} :
    t.Undecided (w ++ w') ↔ t.Undecided w ∧ (t.run w).Undecided w' := by
  induction w generalizing t with
  | nil => exact ⟨fun h => ⟨trivial, h⟩, And.right⟩
  | cons k w ih =>
    rw [List.cons_append, Undecided, Undecided, ih, and_assoc]
    rfl

/-- A tick is a move of the far end, or another deed, if it is any. -/
theorem after_cases (h : t.channel.OnCourse) (k : Tick) : (t.after k).channel.OnCourse ∧
    ((∃ m, k = .far m ∧
        (t.after k).circuit = { t.circuit with far := m.act t.circuit.far }) ∨
      ∃ deed, (∀ g, deed ≠ .play g) ∧ (k.starts = false → deed ≠ .work .starter) ∧
        Does t.now t.circuit deed (t.after k).circuit) := by
  have other (deed : Circuit.Deed) (hdeed : k.deed? = some deed) (hsettle : deed ≠ .settle)
      (hplay : ∀ g, deed ≠ .play g) (hstarts : k.starts = false → deed ≠ .work .starter) :
      (t.after k).channel.OnCourse ∧ ∃ deed, (∀ g, deed ≠ .play g) ∧
        (k.starts = false → deed ≠ .work .starter) ∧
        Does t.now t.circuit deed (t.after k).circuit := by
    obtain ⟨hdoes, hc⟩ := does_after h t.now hsettle
    have hafter : (t.after k).circuit = t.circuit.after t.now deed := by simp [after, hdeed]
    rw [channel, hafter]
    exact ⟨hc, deed, hplay, hstarts, hdoes⟩
  cases k with
  | far m => exact ⟨h, .inl ⟨m, rfl, rfl⟩⟩
  | pass ms => exact ⟨h, .inr ⟨.settle, by simp, by simp, does_nothing t.now t.circuit _⟩⟩
  | work w =>
    refine (other _ rfl (by simp) (by simp) fun hstarts => ?_).imp_right .inr
    rintro ⟨⟩
    cases hstarts
  | _ => exact (other _ rfl (by simp) (by simp) (by simp)).imp_right .inr

/-- What the moves of the far end keep, and every deed that is none, a schedule keeps. -/
theorem run_keeps {P : Circuit → Prop} (w : List Tick)
    (hfar : ∀ {l : Circuit} (m : FarEnd.Move), .far m ∈ w → P l →
      P { l with far := m.act l.far })
    (hdoes : ∀ {now : Nat} {l l' : Circuit} {deed : Circuit.Deed}, l.channel.OnCourse →
      (∀ g, deed ≠ .play g) → P l → Does now l deed l' → P l')
    (h : t.channel.OnCourse ∧ P t.circuit) : (t.run w).channel.OnCourse ∧ P (t.run w).circuit := by
  -- the course of the connection is kept along, as every deed asks for it
  induction w generalizing t with
  | nil => exact h
  | cons k w ih =>
    refine ih (fun m hm => hfar m (List.mem_cons_of_mem _ hm)) ?_
    obtain ⟨hc, ⟨m, rfl, hm⟩ | ⟨deed, hplay, -, hd⟩⟩ := after_cases h.1 k
    · exact ⟨hc, hm ▸ hfar m List.mem_cons_self h.2⟩
    · exact ⟨hc, hdoes h.1 hplay h.2 hd⟩

theorem onCourse_start (params : ConnectParams) (far : FarEnd) (now : Nat) :
    (start params far now).channel.OnCourse :=
  Channel.onCourse_init params none

theorem onCourse_run (h : t.channel.OnCourse) (w : List Tick) : (t.run w).channel.OnCourse :=
  (run_keeps (P := fun _ => True) w (fun _ _ h => h) (fun _ _ h _ => h) ⟨h, trivial⟩).1

/-- The far end has decided the attempt. -/
theorem bound_run (h : t.channel.OnCourse ∧ Bound o t.circuit) (w : List Tick) :
    (t.run w).channel.OnCourse ∧ Bound o (t.run w).circuit :=
  run_keeps w (fun m _ hb => hb.far m) (fun h hplay hb hd => hb.does h hplay hd) h

/-- Without the starter the attempt is not made, and unless the far end decides it beforehand the
    gate is held. -/
theorem untried_run {u : List Tick} (h : t.channel.OnCourse) (hu : Untried params t.circuit)
    (hstarts : ∀ k ∈ u, k.starts = false) : Untried params (t.run u).circuit ∧
      (t.circuit.far.gate = .held → t.Undecided u →
        (t.run u).circuit.far.gate = .held ∧
          (t.run u).circuit.far.written = t.circuit.far.written) := by
  induction u generalizing t with
  | nil => exact ⟨hu, fun hgate _ => ⟨hgate, rfl⟩⟩
  | cons k u ih =>
    have hstarts' : ∀ k ∈ u, k.starts = false := fun k hk => hstarts k (List.mem_cons_of_mem _ hk)
    obtain ⟨hc, ⟨m, rfl, hm⟩ | ⟨deed, hplay, hstarter, hd⟩⟩ := after_cases h k
    · obtain ⟨hrun, hheld⟩ := ih hc (hm ▸ hu.far m) hstarts'
      refine ⟨hrun, fun hgate hundecided => ?_⟩
      -- a move that decides would come before the attempt is over
      have hearly : t.circuit.channel.connection.task.isEarly := by rw [hu.task]; rfl
      obtain ⟨hgate', hwritten'⟩ :=
        hheld (hm ▸ held_far hgate hearly hundecided.1) hundecided.2
      exact ⟨hgate', hwritten'.trans (by rw [hm, FarEnd.written_act])⟩
    · obtain ⟨hu', hfar⟩ := hu.does h (hstarter (hstarts k List.mem_cons_self)) hplay hd
      obtain ⟨hrun, hheld⟩ := ih hc hu' hstarts'
      refine ⟨hrun, fun hgate hundecided => ?_⟩
      rw [hfar] at hheld
      exact hheld hgate hundecided.2

/-- The far end has not decided the attempt. -/
theorem waits_run {w : List Tick} (h : t.channel.OnCourse) (hw : Waits d t.now written t.circuit)
    (hundecided : t.Undecided w) :
    (t.run w).channel.OnCourse ∧ Waits d (t.run w).now written (t.run w).circuit := by
  induction w generalizing t with
  | nil => exact ⟨h, hw⟩
  | cons k w ih =>
    obtain ⟨hc, ⟨m, rfl, hm⟩ | ⟨deed, hplay, -, hd⟩⟩ := after_cases h k
    · exact ih hc (hm ▸ hw.far hundecided.1) hundecided.2
    · exact ih hc ((hw.does h hplay hd).mono (Nat.le_add_right _ _)) hundecided.2

end Runs

/-! ## After the timeout -/

/-- Two connections that have failed for good, at channels alike. -/
structure Twins (written : List String) (t t' : Timed) : Prop where
  left : t.channel.OnCourse ∧ Circuit.Dead written t.circuit
  right : t'.channel.OnCourse ∧ Circuit.Dead written t'.circuit
  alike : t.channel.Alike t'.channel

section Twins

variable {t t' : Timed} {written : List String}

theorem dead_run (h : t.channel.OnCourse ∧ Circuit.Dead written t.circuit) (w : List Tick) :
    (t.run w).channel.OnCourse ∧ Circuit.Dead written (t.run w).circuit :=
  run_keeps w (fun m _ hdead => hdead.far m) (fun h hplay hdead hd => hdead.does h hplay hd) h

/-- What the far end does, or a consumer that sends, makes no difference. -/
theorem Twins.futile (h : Twins written t t') {k : Tick} (hk : k.isFutile) :
    Twins written (t.after k) t' := by
  refine ⟨dead_run h.left [k], h.right, ?_⟩
  cases k with
  | far m => exact h.alike
  | send e => exact h.alike.send_left e
  | handOver e => exact h.alike.handOver_left e
  | pass | subscribe | release | arrange | overtake | work => cases hk

/-- All else makes the same difference to both. -/
theorem Twins.after (h : Twins written t t') {k : Tick} (hk : k.isFutile = false) :
    Twins written (t.after k) (t'.after k) := by
  refine ⟨dead_run h.left [k], dead_run h.right [k], ?_⟩
  -- at what has failed for good, all work is that of the hub
  cases k with
  | pass ms => exact h.alike
  | subscribe s => exact h.alike.subscribe s
  | release id => exact h.alike.release id none
  | arrange a => exact h.alike.arrange a
  | overtake place => exact h.alike.overtake place
  | work w =>
    show ((t.circuit.work t.now w).channel).Alike (t'.circuit.work t'.now w).channel
    by_cases hw : w = .hub
    · rw [hw]
      exact h.alike.takeMessage
    · rw [h.left.2.work_eq t.now hw, h.right.2.work_eq t'.now hw]
      exact h.alike
  | far | send | handOver => cases hk

/-- A schedule comes to the same without what makes no difference. -/
theorem Twins.run (h : Twins written t t') (w : List Tick) :
    Twins written (t.run w) (t'.run (w.filter (!·.isFutile))) := by
  induction w generalizing t t' with
  | nil => exact h
  | cons k w ih =>
    cases hk : k.isFutile with
    | true =>
      rw [List.filter_cons_of_neg (by simp [hk])]
      exact ih (h.futile hk)
    | false =>
      rw [List.filter_cons_of_pos (by simp [hk])]
      exact ih (h.after hk)

end Twins

/-! ## The timeout -/

section Timeout

open Circuit

variable {params : ConnectParams} {far : FarEnd} {now : Nat} {u v w : List Tick}

/-- The starter makes the attempt, with a deadline that lasts. -/
theorem since_run (hstarts : ∀ k ∈ u, k.starts = false) (v : List Tick) :
    Since (((start params far now).run u).now + params.connectTimeout)
      ((start params far now).run (u ++ .work .starter :: v)).circuit := by
  have hc := onCourse_run (onCourse_start params far now) u
  obtain ⟨hu, -⟩ := untried_run (onCourse_start params far now) (untried_init params far) hstarts
  obtain ⟨ht, -⟩ := hu.begin hc ((start params far now).run u).now
  have hsince : Since (((start params far now).run u).now + params.connectTimeout)
      (((start params far now).run u).after (.work .starter)).circuit :=
    ⟨by simp [after, Tick.deed?, Circuit.after, ht],
      fun d hd => (Connection.Task.connecting.inj (ht.symm.trans hd)).symm⟩
  rw [run_append]
  exact (run_keeps v (fun m _ hs => hs.far m) (fun h hplay hs hd => hs.does h hplay hd)
    ⟨(after_cases hc _).1, hsince⟩).2

/-- The far end decides the attempt. -/
theorem decided_run {m : FarEnd.Move} {o : ConnectionEvent}
    (hearly : ((start params far now).run w).isEarly)
    (hanswer : ((start params far now).run w).circuit.far.gate.outcome?.or m.outcome? = some o)
    (w' : List Tick) :
    (((start params far now).run (w ++ .far m :: w')).channel.emitted = [] ∨
      ((start params far now).run (w ++ .far m :: w')).circuit.Decided o) ∧
      ((start params far now).run (w ++ .far m :: w')).settle.circuit.Decided o := by
  obtain ⟨hc, hfault⟩ := run_keeps (P := fun l => l.channel.connection.fault = none) w
    (fun _ _ h => h) (fun h _ hf hd => (does_frame h hd).2.trans hf)
    ⟨onCourse_start params far now, rfl⟩
  obtain ⟨hc', hb⟩ := bound_run (t := ((start params far now).run w).after (.far m))
    ⟨hc, bound_far hfault hearly hanswer⟩ w'
  rw [run_append]
  exact ⟨hb.decided hc', hb.settle hc' _⟩

/-- No timeout is reported then, unless it comes of the far end. -/
theorem timely_run {m : FarEnd.Move} {o : ConnectionEvent}
    (hearly : ((start params far now).run w).isEarly)
    (hanswer : ((start params far now).run w).circuit.far.gate.outcome?.or m.outcome? = some o)
    {w' : List Tick} (ho : o ≠ .failed .timeout) (htimely : far.Timely)
    (hsend : .far (.send (.failed .timeout)) ∉ w ++ .far m :: w') :
    .failed .timeout ∉ ((start params far now).run (w ++ .far m :: w')).channel.emitted := by
  have act {r : FarEnd} (hr : r.Timely) {m' : FarEnd.Move} (hm : .far m' ∈ w ++ .far m :: w') :
      (m'.act r).Timely := hr.act fun heq => hsend (heq ▸ hm)
  obtain ⟨hc, hfault, hr⟩ :=
    run_keeps (P := fun l => l.channel.connection.fault = none ∧ l.far.Timely) w
      (fun _ hm h => ⟨h.1, act h.2 (List.mem_append_left _ hm)⟩)
      (fun h hplay hl hd => ⟨(does_frame h hd).2.trans hl.1, timely_does hplay hd hl.2⟩)
      ⟨onCourse_start params far now, rfl, htimely⟩
  -- from the answer on, the timeliness of the far end is kept along with the answer
  have hstory : ((start params far now).run w).circuit.story = [] := story_of_isEarly hc hearly
  obtain ⟨-, -, -, hnone⟩ := run_keeps (t := ((start params far now).run w).after (.far m))
    (P := fun l => Bound o l ∧ l.far.Timely ∧ .failed .timeout ∉ l.story) w'
    (fun m' hm h => ⟨h.1.far m', act h.2.1 (by simp [hm]), h.2.2⟩)
    (fun h hplay hl hd => ⟨hl.1.does h hplay hd, timely_does hplay hd hl.2.1,
      hl.1.timely ho h hplay hd hl.2.1 hl.2.2⟩)
    ⟨hc, bound_far hfault hearly hanswer, act hr (by simp), hstory ▸ List.not_mem_nil⟩
  rw [run_append]
  exact fun hmem => hnone (List.mem_append_left _ hmem)

/-- The far end does not decide the attempt, which waits for its deadline. -/
theorem waits_start (hstarts : ∀ k ∈ u, k.starts = false) (hgate : far.gate = .held)
    (hundecided : (start params far now).Undecided (u ++ .work .starter :: v)) :
    ((start params far now).run (u ++ .work .starter :: v)).channel.OnCourse ∧
      Waits (((start params far now).run u).now + params.connectTimeout)
        ((start params far now).run (u ++ .work .starter :: v)).now far.written
        ((start params far now).run (u ++ .work .starter :: v)).circuit := by
  have hc := onCourse_run (onCourse_start params far now) u
  obtain ⟨hbefore, -, hafter⟩ := undecided_append.1 hundecided
  obtain ⟨hu, hheld⟩ :=
    untried_run (onCourse_start params far now) (untried_init params far) hstarts
  obtain ⟨hgate', hwritten⟩ := hheld hgate hbefore
  obtain ⟨ht, hfar⟩ := hu.begin hc ((start params far now).run u).now
  rw [run_append]
  refine waits_run (t := ((start params far now).run u).after (.work .starter))
    (onCourse_run hc [.work .starter]) ⟨?_, .inl ⟨ht, ?_⟩⟩ hafter
  · exact (congrArg FarEnd.written hfar).trans hwritten
  · exact (congrArg FarEnd.gate hfar).trans hgate'

/-- At the deadline the attempt is given up. -/
theorem twins_settle {t : Timed} {d : Nat} {written : List String} (h : t.channel.OnCourse)
    (hw : Waits d t.now written t.circuit) (hdue : d ≤ t.now) :
    Twins written t.settle t.settle := by
  have hdead := hw.expire h hdue
  have hclosed : t.settle.channel.state.isOpen = false := by
    rw [show t.settle.channel.state = .errored from hdead.2.state]
    rfl
  exact ⟨hdead, hdead, hclosed, hclosed, rfl, rfl, rfl⟩

/-- The connect timeout is sharp and final.

    The first answer that the far end has before the task acts on the deadline decides the attempt,
    be it just in time: it is the first that the connection emits, and if it is no opening it is all
    that it emits. A timeout is not reported then, unless the far end itself comes with one. If
    there is no answer, the connection is connecting until the deadline; from then on, when it has
    settled, it has failed, and the timeout is all that it ever emits. Whatever comes after that,
    nothing is written, and what the far end does and whoever calls to send makes no difference to
    the subscribers. And in no case is it connecting at the deadline, or later, when it has
    settled. -/
theorem timeout_sharp (params : ConnectParams) (far : FarEnd) (now : Nat) :
    (∀ (w w' : List Tick) (m : FarEnd.Move) (o : ConnectionEvent),
      ((start params far now).run w).isEarly →
      ((start params far now).run w).circuit.far.gate.outcome?.or m.outcome? = some o →
      let t := (start params far now).run (w ++ .far m :: w')
      (t.channel.emitted = [] ∨ t.circuit.Decided o) ∧ t.settle.circuit.Decided o ∧
      (o ≠ .failed .timeout → far.Timely → .far (.send (.failed .timeout)) ∉ w ++ .far m :: w' →
        .failed .timeout ∉ t.channel.emitted)) ∧
    ∀ u v : List Tick, (∀ k ∈ u, k.starts = false) →
      let deadline := ((start params far now).run u).now + params.connectTimeout
      let t := (start params far now).run (u ++ .work .starter :: v)
      (far.gate = .held → (start params far now).Undecided (u ++ .work .starter :: v) →
        t.channel.emitted <+: [.failed .timeout] ∧
        (t.now < deadline → t.isEarly ∧ t.channel.state = .connecting ∧ t.channel.emitted = []) ∧
        (deadline ≤ t.now → ∀ w, TimedOut far.written (t.settle.run w) ∧
          (t.settle.run w).channel.listeners =
            (t.settle.run (w.filter (!·.isFutile))).channel.listeners ∧
          (t.settle.run w).channel.fanout =
            (t.settle.run (w.filter (!·.isFutile))).channel.fanout)) ∧
      (deadline ≤ t.now → t.settle.channel.state ≠ .connecting) := by
  refine ⟨fun w w' m o hearly hanswer => ?_, fun u v hstarts =>
    ⟨fun hgate hundecided => ?_, fun hdue => ?_⟩⟩
  · obtain ⟨hdecided, hsettled⟩ := decided_run hearly hanswer w'
    exact ⟨hdecided, hsettled, timely_run hearly hanswer⟩
  · obtain ⟨hc, hwaits⟩ := waits_start hstarts hgate hundecided
    refine ⟨hwaits.emitted_prefix hc, fun hlt => ?_, fun hdue w => ?_⟩
    · obtain ⟨ht, hstate, hnil⟩ := hwaits.early hc hlt
      exact ⟨by rw [isEarly, channel, ht]; rfl, hstate, hnil⟩
    · have htwins := (twins_settle hc hwaits hdue).run w
      obtain ⟨-, hdead⟩ := htwins.left
      exact ⟨⟨hdead.state, hdead.emitted, hdead.written⟩, htwins.alike.listeners,
        htwins.alike.fanout⟩
  · exact (since_run hstarts v).not_connecting (onCourse_run (onCourse_start params far now) _) hdue

/-- At its deadline an attempt can still be let through; once it is given up, it is too late for
    that, for frames and for sending. -/
theorem timeout_sharp_at_deadline :
    let s := start { url := "ws://host", connectTimeout := 5 }
      { url := "ws://host", gate := .held } 0
    let w : List Tick := [.far .letThrough, .far (.send (.frame "late")), .subscribe {},
      .send ⟨"late", .null⟩, .work .task, .work .actor, .work .hub]
    (s.run [.work .starter, .pass 5, .far .letThrough]).settle.circuit.Decided .opened ∧
      .failed .timeout ∉ (s.run [.work .starter, .pass 5, .far .letThrough]).channel.emitted ∧
      (s.run [.work .starter, .pass 4]).channel.state = .connecting ∧
      TimedOut [] ((s.run [.work .starter, .pass 5]).settle.run w) ∧
      ((s.run [.work .starter, .pass 5]).settle.run w).channel.listeners =
        ((s.run [.work .starter, .pass 5]).settle.run
          [.subscribe {}, .work .task, .work .actor, .work .hub]).channel.listeners ∧
      (s.run [.work .starter, .pass 5]).settle.channel.state ≠ .connecting := by
  intro s w
  have hundecided (n : Nat) : s.Undecided ([] ++ .work .starter :: [.pass n]) :=
    ⟨by rintro ⟨⟩, by rintro ⟨⟩, trivial⟩
  have htimely : FarEnd.Timely { url := "ws://host", gate := .held } := ⟨by simp, by simp⟩
  obtain ⟨hanswered, hwaiting⟩ := timeout_sharp { url := "ws://host", connectTimeout := 5 }
    { url := "ws://host", gate := .held } 0
  obtain ⟨-, hdecided, hnone⟩ :=
    hanswered [.work .starter, .pass 5] [] .letThrough .opened rfl rfl
  obtain ⟨-, hearly, -⟩ := (hwaiting [] [.pass 4] (by simp)).1 rfl (hundecided 4)
  obtain ⟨hlate, hsettled⟩ := hwaiting [] [.pass 5] (by simp)
  obtain ⟨htimedOut, hlisteners, -⟩ := (hlate rfl (hundecided 5)).2.2 (Nat.le_refl 5) w
  exact ⟨hdecided, hnone (by simp) htimely (by simp), (hearly (Nat.lt_succ_self 4)).2.1, htimedOut,
    hlisteners, hsettled (Nat.le_refl 5)⟩

end Timeout

end Timed

end PartyLine
