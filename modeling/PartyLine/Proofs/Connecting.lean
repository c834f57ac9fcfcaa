import PartyLine.Proofs.Circuit.Rest

/-!
# Connecting that fails

A call to connect fails for want of a URL, or if a channel would have to be opened where no actor
can be started; it is then as if it had not been made. What goes wrong later is no error of the
call. For want of a transport, the channel is opened all the same and fails with the error that the
factory gave.

That a failing call leaves no trace is first a matter of one call, which gives the client back as
it was, and then of runs: leaving out all calls that fail, of which the client at that time
decides, leaves the run where it was and its other answers as they were (`run_effective`,
`outcomes_effective`). That a channel without a transport fails with the error of the factory, and
with nothing else, is an invariant of that channel in all runs (`Channel.Faulty`): it follows the
story from the attempt that was not made to the report of the failure.

* `Session.effective`, `Session.outcomes`: the deeds without the calls that fail, and what the calls
  to connect come to;
* `run_effective`, `outcomes_effective`: calls that fail leave no trace;
* `Session.Lapsed`: whether a channel would have to be opened;
* `Channel.Faulty`: a channel for want of a transport, `Faulty.does` for what is done at it;
* `connect_atomic`: when connecting fails, and what comes of it.
-/

namespace PartyLine

/-! ## Channels without a transport -/

namespace Channel

/-- A channel without a transport, before its start and after it: it reports the error and nothing
    else. -/
structure Faulty (e : TransportError) (c : Channel) : Prop where
  fault : c.connection.fault = some e
  story : c.connection.task = .unstarted ∨
    c.connection.task = .finished ∧ c.emitted ++ c.connection.unreported = [.failed e]

variable {e : TransportError} {c : Channel}

theorem faulty_init (params : ConnectParams) (e : TransportError) :
    Faulty e (init params (some e)) :=
  ⟨rfl, .inl rfl⟩

/-- All that it emits is the error. -/
theorem Faulty.emitted_prefix (hf : Faulty e c) (h : c.OnCourse) : c.emitted <+: [.failed e] := by
  obtain ⟨reads, hcourse⟩ := h.course
  rcases hf.story with ht | ⟨-, hstory⟩
  · rw [(List.append_eq_nil_iff.1 (hcourse.story.of_undecided (.inl ht)).2).1]
    exact List.nil_prefix
  · exact hstory ▸ List.prefix_append _ _

/-- The end is latched when the hub has taken it. -/
theorem Faulty.termination (hf : Faulty e c) (h : c.OnCourse) :
    c.fanout.termination = if eventsTaken c.journal = [] then none else some (.failed e) := by
  have htaken : eventsTaken c.journal <+: [.failed e] :=
    (List.prefix_append _ _).trans (hf.emitted_prefix h)
  rw [h.latched, ended]
  rcases eq_nil_or_eq_of_prefix htaken with hnil | hone
  · rw [hnil]
    rfl
  · rw [hone]
    rfl

theorem Faulty.state (hf : Faulty e c) (h : c.OnCourse) :
    c.state = .idle ∨ c.state = .connecting ∧ c.emitted = [] ∨
      c.state = .errored ∧ c.emitted = [.failed e] := by
  obtain ⟨reads, hcourse⟩ := h.course
  rcases hf.story with ht | ⟨ht, -⟩
  · exact .inl (hcourse.idle ht)
  · have hreported := hcourse.reported (by simp [ht])
    rcases eq_nil_or_eq_of_prefix (hf.emitted_prefix h) with hnil | hone
    · rw [hnil] at hreported
      exact .inr (.inl ⟨(Option.some.inj hreported).symm, hnil⟩)
    · rw [hone] at hreported
      exact .inr (.inr ⟨(Option.some.inj hreported).symm, hone⟩)

end Channel

namespace Circuit

variable {l l' : Circuit} {now : Nat} {d : Deed} {e : TransportError}

/-- Whatever is done at a channel without a transport, the error is all that comes of it. -/
theorem faulty_does (h : l.channel.OnCourse) (hf : l.channel.Faulty e) (hd : Does now l d l') :
    l'.channel.Faulty e := by
  obtain ⟨reads, hcourse⟩ := h.course
  refine ⟨(does_frame h hd).2.trans hf.fault, ?_⟩
  cases hd with
  | asked hconnection hemitted =>
    rw [Connection.unreported_of_asked hconnection, hemitted, hconnection]
    exact hf.story
  | played => exact hf.story
  | started hs hemitted =>
    -- the start ends the task, with the error for the actor to report
    obtain ⟨ht, -, htask, hinbox⟩ := hs.begun hcourse
    have hstory := (hcourse.story.of_undecided (.inl ht)).2
    refine .inr ⟨by rw [htask, hf.fault]; rfl, ?_⟩
    rw [hemitted, Connection.unreported, hinbox, hf.fault, List.filterMap_append,
      ← List.append_assoc]
    exact congrArg (· ++ [ConnectionEvent.failed e]) hstory
  | handled hs hemitted =>
    obtain ⟨htask, -, hstory, -⟩ := hs.handled hcourse
    rw [htask, hemitted, List.append_assoc, hstory]
    exact hf.story
  | went hnext =>
    -- there is no task that would go on
    rcases hf.story with ht | ⟨ht, -⟩ <;> simp [FarEnd.next?, ht] at hnext

end Circuit

namespace Session

variable {s s' : Session} {url : String} {i : Nat} {l : Circuit} {e : TransportError}

/-- A channel without a transport, at its place in a client. -/
def Lacks (i : Nat) (e : TransportError) (s : Session) : Prop :=
  ∃ l, s.circuit? i = some l ∧ l.channel.OnCourse ∧ l.channel.Faulty e

/-- Whatever is done to the client, it is one. -/
theorem Lacks.perform (h : Lacks i e s) (d : Deed) : Lacks i e (s.perform d) := by
  obtain ⟨l, hl, hcourse, hf⟩ := h
  refine ⟨_, circuit?_perform_of_circuit? d hl, ?_⟩
  cases s.own? i l d with
  | none => exact ⟨hcourse, hf⟩
  | some own =>
    exact ⟨Circuit.onCourse_after hcourse s.now own,
      Circuit.after_keeps s.now (P := fun l => l.channel.Faulty e) Circuit.faulty_does hcourse
        hf own⟩

theorem Lacks.run (h : Lacks i e s) (w : List Deed) : Lacks i e (s.run w) := by
  induction w generalizing s with
  | nil => exact h
  | cons d w ih => exact ih (h.perform d)

/-- When the client has settled, the channel has failed with the error. -/
theorem Lacks.settle (h : Lacks i e s) : ∃ c, s.settle.channel? i = some c ∧ c.state = .errored ∧
    c.emitted = [.failed e] ∧ c.fanout.termination = some (.failed e) := by
  obtain ⟨l, hl, hcourse, hf⟩ := h
  have hl' := circuit?_settle hl
  obtain ⟨t, ht, htl⟩ := Option.map_eq_some_iff.1 hl'
  have hcourse' := Circuit.onCourse_after hcourse s.now .settle
  have hf' : (l.settle s.now).channel.Faulty e :=
    Circuit.after_keeps s.now (P := fun l => l.channel.Faulty e) Circuit.faulty_does
      hcourse hf .settle
  have hrest := Circuit.atRest_settle hcourse s.now
  have hdecided : (l.settle s.now).channel.connection.task.isEarly = false := by
    rcases hf'.story with ht | ⟨ht, -⟩
    · exact absurd ht hrest.started
    · rw [ht]
      rfl
  have hemitted := hrest.emitted_ne_nil hdecided
  obtain ⟨reads, hreads⟩ := hcourse'.course
  refine ⟨(l.settle s.now).channel, by rw [channel?, ht, Option.map_some, htl], ?_⟩
  rw [hf'.termination hcourse', if_neg (hrest.taken hdecided)]
  rcases hf'.state hcourse' with hidle | ⟨-, hnil⟩ | ⟨herrored, hone⟩
  · exact absurd (.inl hidle) (hreads.not_early hemitted)
  · exact absurd hnil hemitted
  · exact ⟨herrored, hone, rfl⟩

/-! ## Calls that fail -/

/-- What a call to connect comes to. -/
def outcome? (s : Session) : Deed → Option (Except ConnectError Nat)
  | .connect url => some (s.connect url).1
  | _ => none

/-- What the calls to connect come to in a run. -/
def outcomes : Session → List Deed → List (Except ConnectError Nat)
  | _, [] => []
  | s, d :: w => (s.outcome? d).toList ++ outcomes (s.perform d) w

/-- A run without the calls to connect that fail in it. -/
def effective : Session → List Deed → List Deed
  | _, [] => []
  | s, d :: w => (if (s.outcome? d).all (·.isOk) then [d] else []) ++ effective (s.perform d) w

/-- A call that fails changes nothing. -/
theorem perform_of_fails {d : Deed} (h : (s.outcome? d).all (·.isOk) = false) :
    s.perform d = s := by
  cases d with
  | connect url =>
    rcases hconnect : s.connect url with ⟨_ | i, s'⟩
    · rw [perform, hconnect]
      exact connect_error hconnect
    · simp [outcome?, hconnect, Except.isOk, Except.toBool] at h
  | _ => simp [outcome?] at h

/-- Calls that fail leave no trace. -/
theorem run_effective (s : Session) (w : List Deed) : s.run (effective s w) = s.run w := by
  induction w generalizing s with
  | nil => rfl
  | cons d w ih =>
    rw [effective]
    cases h : (s.outcome? d).all (·.isOk) with
    | true => exact ih (s.perform d)
    | false =>
      show s.run (effective (s.perform d) w) = (s.perform d).run w
      rw [← ih, perform_of_fails h]

/-- Those that do not fail come to the same without them. -/
theorem outcomes_effective (s : Session) (w : List Deed) :
    outcomes s (effective s w) = (outcomes s w).filter (·.isOk) := by
  induction w generalizing s with
  | nil => rfl
  | cons d w ih =>
    rw [effective, outcomes, List.filter_append, ← ih]
    cases h : (s.outcome? d).all (·.isOk) with
    | true =>
      have hok : (s.outcome? d).toList.filter (·.isOk) = (s.outcome? d).toList := by
        cases ho : s.outcome? d with
        | none => rfl
        | some o => simpa [ho] using h
      rw [hok]
      rfl
    | false =>
      have hfailed : (s.outcome? d).toList.filter (·.isOk) = [] := by
        cases ho : s.outcome? d with
        | none => rfl
        | some o => simpa [ho] using h
      show outcomes s (effective (s.perform d) w) = _ ++ outcomes (s.perform d) _
      rw [hfailed, perform_of_fails h]
      rfl

/-! ## Connecting -/

theorem fst_connect_eq_error_iff {e : ConnectError} : (s.connect url).1 = .error e ↔
    s.registry.decision url s.hasEnded s.hasSystem = .error e := by
  unfold connect
  split
  · next hdecision => simp [hdecision]
  · next hdecision => simp [hdecision]
  · next hdecision => simp [hdecision]

/-- A channel is opened for want of a transport, too. -/
theorem lacks_connect (hcreate : s.factory.create url = .error e)
    (hdecision : s.registry.decision url s.hasEnded s.hasSystem = .ok .create) :
    (s.connect url).1 = .ok s.stations.length ∧
      Lacks s.stations.length e (s.connect url).2 := by
  rw [connect, hdecision]
  refine ⟨rfl, ⟨.init (ConnectParams.ofSettings url s.settings.transport) (some e), { url }⟩, ?_,
    Channel.onCourse_init _ _, Channel.faulty_init _ e⟩
  simp [circuit?, openChannel, hcreate]

/-- Whether a channel would have to be opened for a URL: none is registered for it, or the one that
    is has ended and is to be replaced. -/
def Lapsed (s : Session) (url : String) : Prop :=
  ∀ i, s.registry.find? url = some i → s.hasEnded i ∧ s.registry.policy = .replace

/-- Without an actor system connecting fails, unless there is a channel to hand back. -/
theorem fst_connect_eq_noActorSystem_iff : (s.connect url).1 = .error .noActorSystem ↔
    url ≠ "" ∧ s.hasSystem = false ∧ s.Lapsed url :=
  fst_connect_eq_error_iff.trans Registry.decision_eq_noActorSystem_iff

theorem fst_connect_eq_emptyUrl_iff : (s.connect url).1 = .error .emptyUrl ↔ url = "" :=
  fst_connect_eq_error_iff.trans Registry.decision_eq_emptyUrl_iff

/-- In all other cases it does not fail. -/
theorem exists_fst_connect_eq_ok_iff : (∃ i, (s.connect url).1 = .ok i) ↔
    url ≠ "" ∧ (s.hasSystem ∨ ¬s.Lapsed url) := by
  have hurl : (s.connect url).1 = .error .emptyUrl ↔ _ := fst_connect_eq_emptyUrl_iff
  have hsystem : (s.connect url).1 = .error .noActorSystem ↔ _ := fst_connect_eq_noActorSystem_iff
  cases hconnect : (s.connect url).1 with
  | ok i =>
    simp only [hconnect, reduceCtorEq, false_iff] at hurl hsystem
    refine iff_of_true ⟨i, rfl⟩ ⟨hurl, ?_⟩
    by_contra hneither
    rw [not_or, not_not, Bool.not_eq_true] at hneither
    exact hsystem ⟨hurl, hneither⟩
  | error e =>
    refine iff_of_false (by simp) ?_
    rintro ⟨hne, hnone⟩
    cases e with
    | emptyUrl => exact hne (hurl.1 hconnect)
    | noActorSystem =>
      obtain ⟨-, hsystem, hlapsed⟩ := hsystem.1 hconnect
      exact hnone.elim (by simp [hsystem]) (absurd hlapsed)

/-- Connecting fails exactly when it must, and then nothing has happened: the client is as before,
    its registry, its channels and what its factory was asked for, so that a run with calls that
    fail among others is one without them. That there is no transport is never an error of
    connecting. The channel is opened, and whatever is done to the client then, its connection
    emits nothing but the error; it has failed with it once the client has settled. -/
theorem connect_atomic (s : Session) (url : String) :
    ((s.connect url).1 = .error .emptyUrl ↔ url = "") ∧
    ((s.connect url).1 = .error .noActorSystem ↔
      url ≠ "" ∧ s.hasSystem = false ∧ s.Lapsed url) ∧
    ((∃ i, (s.connect url).1 = .ok i) ↔ url ≠ "" ∧ (s.hasSystem ∨ ¬s.Lapsed url)) ∧
    (∀ e, (s.connect url).1 = .error e → (s.connect url).2 = s) ∧
    (∀ w, s.run (effective s w) = s.run w ∧
      outcomes s (effective s w) = (outcomes s w).filter (·.isOk)) ∧
    ∀ e, s.factory.create url = .error e → url ≠ "" → s.hasSystem → s.Lapsed url →
      (s.connect url).1 = .ok s.stations.length ∧
      ∀ w, (∃ c, ((s.connect url).2.run w).channel? s.stations.length = some c ∧
          c.emitted <+: [.failed e] ∧ (c.isTerminated → c.state = .errored) ∧
          (c.fanout.termination = none ∨ c.fanout.termination = some (.failed e))) ∧
        ∃ c, ((s.connect url).2.run w).settle.channel? s.stations.length = some c ∧
          c.emitted = [.failed e] ∧ c.state = .errored ∧
          c.fanout.termination = some (.failed e) := by
  refine ⟨fst_connect_eq_emptyUrl_iff, fst_connect_eq_noActorSystem_iff,
    exists_fst_connect_eq_ok_iff, fun e he => ?_,
    fun w => ⟨run_effective s w, outcomes_effective s w⟩, fun e hcreate hurl hsystem hlapsed => ?_⟩
  · exact connect_error (Prod.ext he rfl)
  · obtain ⟨hok, hlacks⟩ := lacks_connect hcreate
      (Registry.decision_eq_create_iff.2 ⟨hurl, hsystem, hlapsed⟩)
    -- `Faulty` holds of the channel from the start and in every run
    refine ⟨hok, fun w => ⟨?_, ?_⟩⟩
    · obtain ⟨l, hl, hcourse, hf⟩ := hlacks.run w
      obtain ⟨t, ht, rfl⟩ := Option.map_eq_some_iff.1 hl
      refine ⟨t.circuit.channel, by rw [channel?, ht, Option.map_some],
        hf.emitted_prefix hcourse, fun hended => ?_, ?_⟩
      · -- of the states that it can be in, only one is terminal
        rcases hf.state hcourse with hstate | ⟨hstate, -⟩ | ⟨hstate, -⟩
        · rw [Channel.isTerminated, hstate] at hended
          cases hended
        · rw [Channel.isTerminated, hstate] at hended
          cases hended
        · exact hstate
      · rw [hf.termination hcourse]
        split
        · exact .inl rfl
        · exact .inr rfl
    · obtain ⟨c, hc, hstate, hemitted, htermination⟩ := (hlacks.run w).settle
      exact ⟨c, hc, hemitted, hstate, htermination⟩

/-- A channel that has failed is to be replaced, which is tried in vain where there is no actor
    system, and again where there is one. -/
def insistent : List Deed :=
  [.connect "ws://host", .settle, .surround failing.factory false, .connect "ws://host",
    .connect "", .surround failing.factory true, .connect "ws://host"]

theorem connect_atomic_insistent :
    outcomes failing insistent =
      [.ok 0, .error .noActorSystem, .error .emptyUrl, .ok 1] ∧
    outcomes failing (effective failing insistent) = [.ok 0, .ok 1] ∧
    failing.run (effective failing insistent) = failing.run insistent ∧
    ∃ c, ((failing.connect "ws://host").2.run []).settle.channel? 0 = some c ∧
      c.emitted = [.failed .timeout] ∧ c.state = .errored ∧
      c.fanout.termination = some (.failed .timeout) := by
  obtain ⟨-, -, -, -, hruns, hlacking⟩ := connect_atomic failing "ws://host"
  obtain ⟨hrun, houtcomes⟩ := hruns insistent
  have hlapsed : failing.Lapsed "ws://host" := fun i hi => by cases hi
  obtain ⟨-, hall⟩ := hlacking .timeout rfl (by decide) rfl hlapsed
  exact ⟨rfl, houtcomes.trans rfl, hrun, (hall []).2⟩

end Session

end PartyLine
