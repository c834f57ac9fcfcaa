import PartyLine.Proofs.Channel.Deeds
import PartyLine.Proofs.Channel.Inbound
import PartyLine.Proofs.Channel.Replies
import PartyLine.Proofs.Connection.Stopping

/-!
# Statistics

A channel counts what it is asked to send and what it is brought. Four counters only grow,
each by one at one place, and what they say can be checked against what has happened: the
calls of consumers and of callbacks, the messages posted to the actor of the connection, the
frames that the transport was given and has handed out, and those that the hub has taken.

Runs are booked with all that was posted to the actor of the connection, in its order
(`Scene.Booked`). Each deed then adds to the counters what it adds to the things they count, and
the laws follow by induction. Two of these need more than one deed at a time. The calls that
callbacks make are not deeds of their own; they are found in the journal, by what the callbacks
have been told (`PartyLine.Proofs.Channel.Replies`). And a call to send that has found the
connection open and has not yet handed its envelope over is not counted yet; such calls are under
way, and stand in the law as a number of their own.

* `Counts`: what consumers, callbacks and the hub's turns change of the counters;
* `Scene.Booked`: the runs of a new channel, with all that was posted to its connection;
* `Scene.Tallied`, `tallied`: what one deed adds to the counters, and to what they count;
* `Scene.Balanced`: the counters and what they count, by induction over the run;
* `statistics_account`: the laws of the counters, in every use of a channel.
-/

namespace PartyLine

namespace Channel

variable {c c' c'' : Channel} {m : Message}

/-! ## What is counted -/

/-- Whether a frame holds an envelope. -/
def decodes (f : String) : Bool := (Envelope.decode f).isOk

/-- What is counted while a channel comes to another: an envelope is counted as sent when it is
    posted to the connection, and so many frames are counted, with an envelope and without. -/
structure Counts (c c' : Channel) (good bad : Nat) : Prop where
  sent : ∃ fs : List String, c'.connection =
      { c.connection with inbox := c.connection.inbox ++ fs.map .send } ∧
    c'.statistics.sent = c.statistics.sent + fs.length
  droppedSends : c.statistics.droppedSends ≤ c'.statistics.droppedSends
  delivered : c'.statistics.delivered = c.statistics.delivered + good
  malformed : c'.statistics.malformed = c.statistics.malformed + bad

theorem Counts.refl (c : Channel) : Counts c c 0 0 where
  sent := ⟨[], by simp, rfl⟩
  droppedSends := Nat.le_refl _
  delivered := rfl
  malformed := rfl

theorem Counts.trans {good bad good' bad' : Nat} (h : Counts c c' good bad)
    (h' : Counts c' c'' good' bad') : Counts c c'' (good + good') (bad + bad') := by
  obtain ⟨⟨fs, hconnection, hsent⟩, hdropped, hdelivered, hmalformed⟩ := h
  obtain ⟨⟨fs', hconnection', hsent'⟩, hdropped', hdelivered', hmalformed'⟩ := h'
  refine ⟨⟨fs ++ fs', by simp [hconnection', hconnection], ?_⟩,
    Nat.le_trans hdropped hdropped', ?_, ?_⟩
  · rw [hsent', hsent, List.length_append, Nat.add_assoc]
  · rw [hdelivered', hdelivered, Nat.add_assoc]
  · rw [hmalformed', hmalformed, Nat.add_assoc]

/-- Nothing is counted where the connection and these counters are left alone. -/
theorem Counts.of_eq (hconnection : c'.connection = c.connection)
    (hsent : c'.statistics.sent = c.statistics.sent)
    (hdropped : c'.statistics.droppedSends = c.statistics.droppedSends)
    (hdelivered : c'.statistics.delivered = c.statistics.delivered)
    (hmalformed : c'.statistics.malformed = c.statistics.malformed) : Counts c c' 0 0 :=
  ⟨⟨[], by simp [hconnection], hsent⟩, Nat.le_of_eq hdropped.symm, hdelivered, hmalformed⟩

theorem Extends.counts {i : Nat} {xs : List Happening} {ms : List Message}
    (h : Extends c i xs ms c') : Counts c c' 0 0 :=
  .of_eq h.connection (by rw [h.statistics]) (by rw [h.statistics]) (by rw [h.statistics])
    (by rw [h.statistics])

theorem counts_delivered (c : Channel) :
    Counts c (c.count fun s => { s with delivered := s.delivered + 1 }) 1 0 :=
  { Counts.refl c with delivered := rfl }

theorem counts_malformed (c : Channel) :
    Counts c (c.count fun s => { s with malformed := s.malformed + 1 }) 0 1 :=
  { Counts.refl c with malformed := rfl }

theorem counts_handOver (c : Channel) (e : Envelope) : Counts c (c.handOver e) 0 0 :=
  ⟨⟨[e.encode], rfl, rfl⟩, Nat.le_refl _, rfl, rfl⟩

theorem counts_send (c : Channel) (e : Envelope) : Counts c (c.send e) 0 0 := by
  unfold Channel.send
  split
  · exact counts_handOver c e
  · exact { Counts.refl c with droppedSends := Nat.le_succ _ }

theorem counts_subscribe (c : Channel) (s : Subscriber) : Counts c (c.subscribe s).2 0 0 :=
  .of_eq rfl rfl rfl rfl rfl

theorem counts_release (c : Channel) (id : Nat) (caller : Option Nat) :
    Counts c (c.release id caller) 0 0 := by
  obtain ⟨xs, ms, hextends, -⟩ := extends_release c id caller
  exact hextends.counts

/-- What a subscriber asks for is counted. -/
theorem counts_grant (c : Channel) (id : Nat) (q : Request) : Counts c (c.grant id q) 0 0 := by
  cases q with
  | leave => exact counts_release c id _
  | release other => exact counts_release c other _
  | send e => exact counts_send c e
  | subscribe s => exact counts_subscribe c s

theorem counts_tell (c : Channel) (id : Nat) (s : Subscriber) (n : Note) :
    Counts c (host.tell id s n c) 0 0 := by
  refine tell_keeps (P := fun d => Counts c d 0 0) (fun h => ?_) (fun d q h => ?_) (.refl c)
  · exact h.trans (extends_hear c id n).counts
  · exact h.trans (counts_grant d id q)

theorem counts_tellAll (n : Note) (es : List Fanout.Entry) (c : Channel) :
    Counts c (Fanout.tellAll host n es c).2 0 0 :=
  tellAll_keeps (P := fun d => Counts c d 0 0) (fun d _ _ _ h => h.trans (counts_tell d _ _ _))
    (.refl c)

theorem counts_finishAll (t : Termination) (es : List Fanout.Entry) (c : Channel) :
    Counts c (Fanout.finishAll host t es c).2 0 0 := by
  refine finishAll_keeps (P := fun d => Counts c d 0 0) (fun d e _ _ h => ?_) (.refl c)
  exact h.trans ((extends_dismiss d e.listener).counts.trans (counts_tell _ _ _ _))

/-- What consumers and callbacks do is none of the frames that the hub takes. -/
theorem framesTaken_of_served (h : Served c c') :
    framesTaken c'.journal = framesTaken c.journal := by
  obtain ⟨xs, hjournal, hxs⟩ := h.journal
  rw [hjournal, framesTaken_append, framesTaken, framesTaken, eventsTaken_of_not_took hxs]
  exact List.append_nil _

/-- The hub counts each frame that it handles, in one way or the other. -/
theorem counts_handle (h : c.fanout.Emptied) (m : Message) : Counts c (c.handle m)
    ((framesTaken [.took m]).countP decodes) ((framesTaken [.took m]).countP (!decodes ·)) := by
  have hhandling := handling h m
  generalize c.handle m = c' at hhandling
  cases hhandling with
  | drop | absent | opened => exact .refl c
  | store | remove => exact .of_eq rfl rfl rfl rfl rfl
  | @late id s t => exact (extends_dismiss c id).counts.trans (counts_tell _ id s t.note)
  | @decoded f e he =>
    have hdecodes : decodes f := by rw [decodes, he]; rfl
    have hcount := (counts_tellAll (.message e) c.fanout.entries c).trans (counts_delivered _)
    simpa [hdecodes] using hcount
  | @malformed f e he =>
    have hdecodes : decodes f = false := by rw [decodes, he]; rfl
    have hcount := (counts_malformed c).trans
      (counts_tellAll (.error (.malformed e)) c.fanout.entries _)
    simpa [hdecodes] using hcount
  | @ended e t he =>
    have hframe : framesTaken [.took (.event e)] = [] := by
      cases e <;> first | rfl | cases he
    rw [hframe]
    show Counts c _ (0 + 0) (0 + 0)
    exact (counts_finishAll t c.fanout.entries c).trans (.of_eq rfl rfl rfl rfl rfl)

end Channel

namespace Scene

open Channel

/-! ## What one deed adds -/

/-- Whether a deed is a call to send, or the beginning of one. -/
def Deed.isCall : Deed → Bool
  | send _ | check _ => true
  | _ => false

/-- Whether a deed gives the transport a frame to write, with or without success. -/
def Deed.isWrite : Deed → Bool
  | connection a => a.isWrite
  | _ => false

/-- What is posted to the actor of the connection by a deed that leads to another scene. -/
def posting (s s' : Scene) : Deed → List Connection.Message
  | .connection a => s.channel.connection.posting s'.channel.connection a
  | _ => s'.channel.connection.inbox.drop s.channel.connection.inbox.length

/-- The frames that messages posted to the connection ask to write. -/
def askedIn (posted : List Connection.Message) : List String :=
  posted.filterMap Connection.Message.request?

/-- What a deed adds to the counters, and to what they count. -/
structure Tallied (s : Scene) (d : Deed) (s' : Scene) : Prop where
  sent : s'.channel.statistics.sent =
    s.channel.statistics.sent + (askedIn (s.posting s' d)).length
  droppedSends : s.channel.statistics.droppedSends ≤ s'.channel.statistics.droppedSends
  called : s'.channel.unasked + s'.calls.length =
    s.channel.unasked + s.calls.length + if d.isCall then 1 else 0
  load : (if d.isWrite then 1 else 0) + s'.channel.connection.queue.length +
      s'.channel.connection.requested.length ≤
    s.channel.connection.queue.length + s.channel.connection.requested.length +
      (askedIn (s.posting s' d)).length
  frames : ∃ fs, framesTaken s'.channel.journal = framesTaken s.channel.journal ++ fs ∧
    s'.channel.statistics.delivered = s.channel.statistics.delivered + fs.countP decodes ∧
    s'.channel.statistics.malformed = s.channel.statistics.malformed + fs.countP (!decodes ·)

variable {params : ConnectParams} {fault : Option TransportError} {s s' : Scene} {d : Deed}

/-- What consumers and the hub do is tallied by what is counted. -/
theorem Tallied.of_counts (fs : List String) (hposting : s.posting s' d =
      s'.channel.connection.inbox.drop s.channel.connection.inbox.length)
    (hwrite : d.isWrite = false)
    (hcounts : Counts s.channel s'.channel (fs.countP decodes) (fs.countP (!decodes ·)))
    (hframes : framesTaken s'.channel.journal = framesTaken s.channel.journal ++ fs)
    (hcalled : s'.channel.unasked + s'.calls.length =
      s.channel.unasked + s.calls.length + if d.isCall then 1 else 0) : Tallied s d s' := by
  obtain ⟨⟨asked, hconnection, hsent⟩, hdropped, hdelivered, hmalformed⟩ := hcounts
  have hrequested : askedIn (s.posting s' d) = asked := by
    have hasked : (asked.map Connection.Message.send).filterMap Connection.Message.request? =
        asked := by
      simp [List.filterMap_map, Function.comp_def, Connection.Message.request?]
    rw [hposting, hconnection, List.drop_left, askedIn, hasked]
  refine ⟨by rw [hrequested, hsent], hdropped, hcalled, ?_, fs, hframes, hdelivered, hmalformed⟩
  rw [hwrite, hrequested, hconnection]
  simp [Connection.requested, Connection.Message.request?, List.filterMap_map, Function.comp_def,
    Nat.add_assoc]

/-- The actor of the connection and its task count nothing. -/
theorem tallied_connection {t : Trace} {a : Connection.Action} {connection : Connection}
    {es : List ConnectionEvent} (h : Sound t (.idle s.channel) s.channel)
    (hs : s.channel.connection.step? a = some (connection, es)) :
    Tallied s (.connection a) { s with
      channel := { s.channel with connection, inbox := s.channel.inbox ++ es.map .event }
      trace := s.observe (.connection a) } := by
  have hstep := Connection.step_of_step? hs
  refine ⟨?_, Nat.le_refl _, (Int.add_zero _).symm, ?_, [], (List.append_nil _).symm, rfl, rfl⟩
  · simp only [posting, askedIn, hstep.filterMap_posting h.course, List.length_nil, Nat.add_zero]
  · simp only [posting, askedIn, hstep.filterMap_posting h.course, List.length_nil, Nat.add_zero]
    exact hstep.load_le h.course

/-- The hub's turns count the frames that they take, and the calls that callbacks make. -/
theorem tallied_take {m : Message} {rest : List Message} (h : Invariant s)
    (hemptied : s.channel.fanout.Emptied) (hinbox : s.channel.inbox = m :: rest) :
    Tallied s (.take m) { s with
      channel := ({ s.channel with inbox := rest }.record (.took m)).handle m } := by
  have hcounts := counts_handle (c := s.channel.taking m rest s.channel.fanout) hemptied m
  obtain ⟨c', f, hhandle, hserved, -⟩ :=
    served_handle (s.channel.taking m rest s.channel.fanout) m
  refine .of_counts (framesTaken [.took m]) rfl rfl ?_ ?_ ?_
  · exact ⟨hcounts.sent, hcounts.droppedSends, hcounts.delivered, hcounts.malformed⟩
  · show framesTaken ((s.channel.taking m rest s.channel.fanout).handle m).journal = _
    rw [hhandle]
    exact (framesTaken_of_served hserved).trans (framesTaken_append _ _)
  · have hunasked := h.sound.unasked_take hemptied hinbox
    show ((s.channel.taking m rest s.channel.fanout).handle m).unasked + _ = _
    rw [hunasked]
    exact (Int.add_zero _).symm

/-- Every deed adds to the counters what they count. -/
theorem tallied (h : Invariant s) (hemptied : s.channel.fanout.Emptied) (hd : Does s d s') :
    Tallied s d s' := by
  cases hd with
  | connection hstep => exact tallied_connection h.sound hstep
  | take hinbox => exact tallied_take h hemptied hinbox
  | subscribe subscriber =>
    refine .of_counts [] rfl rfl (counts_subscribe ..) ?_ ?_
    · rw [framesTaken_of_served (served_subscribe ..), List.append_nil]
    · rw [unasked_subscribe]
      exact (Int.add_zero _).symm
  | release id =>
    refine .of_counts [] rfl rfl (counts_release ..) ?_ ?_
    · rw [framesTaken_of_served (served_release ..), List.append_nil]
    · rw [unasked_release]
      exact (Int.add_zero _).symm
  | send e =>
    refine .of_counts [] rfl rfl (counts_send ..) ?_ ?_
    · rw [framesTaken_of_served (served_send ..), List.append_nil]
    · rw [unasked_send, Deed.isCall, if_pos rfl]
      exact Int.add_right_comm _ _ _
  | check =>
    refine .of_counts [] rfl rfl (.refl _) (List.append_nil _).symm ?_
    rw [List.length_append, Deed.isCall, if_pos rfl]
    simp [Int.add_assoc]
  | handOver hperm =>
    have hlength := hperm.length_eq
    refine .of_counts [] rfl rfl (counts_handOver ..) ?_ ?_
    · rw [framesTaken_of_served (served_handOver ..), List.append_nil]
    · have hcall (e : Envelope) : (Deed.handOver e).isCall = false := rfl
      rw [unasked_handOver, ← hlength, List.length_cons, hcall]
      simp only [Bool.false_eq_true, if_false]
      omega
  | rearrange | overtake =>
    exact .of_counts [] rfl rfl (.of_eq rfl rfl rfl rfl rfl) (List.append_nil _).symm
      (Int.add_zero _).symm

/-! ## Runs -/

/-- The runs of a new channel: what is done, and all that was posted to the actor of its
    connection. -/
inductive Booked (params : ConnectParams) (fault : Option TransportError) :
    List Deed → List Connection.Message → Scene → Prop
  | start : Booked params fault [] [] (start params fault)
  | step {w : List Deed} {posted : List Connection.Message} {s s' : Scene} {d : Deed} :
      Booked params fault w posted s → Does s d s' →
      Booked params fault (w ++ [d]) (posted ++ s.posting s' d) s'

/-- All uses of a channel are booked. -/
theorem nexts_iff_booked :
    Nexts (start params fault) s ↔ ∃ w posted, Booked params fault w posted s := by
  constructor
  · intro h
    induction h with
    | refl => exact ⟨_, _, .start⟩
    | tail _ hnext ih =>
      obtain ⟨w, posted, hbooked⟩ := ih
      obtain ⟨d, hd⟩ := next_iff_does.1 hnext
      exact ⟨_, _, hbooked.step hd⟩
  · rintro ⟨w, posted, h⟩
    induction h with
    | start => exact .refl
    | step _ hd ih => exact ih.tail (next_iff_does.2 ⟨_, hd⟩)

variable {w : List Deed} {posted : List Connection.Message}

/-- The counters of a channel and what they count. -/
structure Balanced (w : List Deed) (posted : List Connection.Message) (s : Scene) : Prop where
  called : s.channel.unasked + s.calls.length = w.countP (·.isCall)
  sent : s.channel.statistics.sent = (askedIn posted).length
  written : w.countP (·.isWrite) + s.channel.connection.queue.length +
    s.channel.connection.requested.length ≤ s.channel.statistics.sent
  delivered : s.channel.statistics.delivered = (framesTaken s.channel.journal).countP decodes
  malformed : s.channel.statistics.malformed =
    (framesTaken s.channel.journal).countP (!decodes ·)

/-- What is tallied stays balanced. -/
theorem Balanced.step (h : Balanced w posted s) (hd : Tallied s d s') :
    Balanced (w ++ [d]) (posted ++ s.posting s' d) s' := by
  obtain ⟨hsent, -, hcalled, hload, fs, hframes, hdelivered, hmalformed⟩ := hd
  have hasked : askedIn (posted ++ s.posting s' d) = askedIn posted ++ askedIn (s.posting s' d) :=
    List.filterMap_append
  refine ⟨?_, ?_, ?_, ?_, ?_⟩
  · rw [hcalled, h.called, List.countP_append, List.countP_singleton]
    split <;> rfl
  · rw [hsent, h.sent, hasked, List.length_append]
  · have hwritten := h.written
    rw [List.countP_append, List.countP_singleton]
    omega
  · rw [hdelivered, h.delivered, hframes, List.countP_append]
  · rw [hmalformed, h.malformed, hframes, List.countP_append]

/-- The counters are balanced in every run. -/
theorem Booked.balanced (h : Booked params fault w posted s) : Balanced w posted s := by
  induction h with
  | start => exact ⟨rfl, rfl, Nat.le_refl _, rfl, rfl⟩
  | step hbooked hd ih =>
    have hnexts := nexts_iff_booked.2 ⟨_, _, hbooked⟩
    exact ih.step (tallied ((invariant_init params fault).nexts hnexts)
      (emptied_nexts (fun _ => rfl) hnexts) hd)

/-- What has been counted is not taken back. -/
theorem counters_le (h : Invariant s) (hemptied : s.channel.fanout.Emptied) (hs : Nexts s s') :
    s.channel.statistics.sent ≤ s'.channel.statistics.sent ∧
    s.channel.statistics.droppedSends ≤ s'.channel.statistics.droppedSends ∧
    s.channel.statistics.delivered ≤ s'.channel.statistics.delivered ∧
    s.channel.statistics.malformed ≤ s'.channel.statistics.malformed := by
  induction hs with
  | refl => exact ⟨Nat.le_refl _, Nat.le_refl _, Nat.le_refl _, Nat.le_refl _⟩
  | tail hs hnext ih =>
    obtain ⟨d, hd⟩ := next_iff_does.1 hnext
    obtain ⟨hsent, hdropped, -, -, fs, -, hdelivered, hmalformed⟩ :=
      tallied (h.nexts hs) (emptied_nexts hemptied hs) hd
    obtain ⟨hsent', hdropped', hdelivered', hmalformed'⟩ := ih
    exact ⟨by omega, by omega, by omega, by omega⟩

/-! ## When nothing waits -/

/-- A deed is a step of the connection, or at most asks it to write. -/
theorem connection_of_does (hd : Does s d s') :
    (∃ a es, s.channel.connection.step? a = some (s'.channel.connection, es)) ∨
    ∃ fs : List String, s'.channel.connection = { s.channel.connection with
      inbox := s.channel.connection.inbox ++ fs.map .send } := by
  cases hd with
  | connection hstep => exact .inl ⟨_, _, hstep⟩
  | @take m rest =>
    obtain ⟨c', f, hhandle, hserved, -⟩ :=
      served_handle ({ s.channel with inbox := rest }.record (.took m)) m
    rw [hhandle]
    exact .inr hserved.connection
  | subscribe subscriber => exact .inr (served_subscribe s.channel subscriber).connection
  | release id => exact .inr (served_release s.channel id none).connection
  | send e => exact .inr (served_send s.channel e).connection
  | handOver => exact .inr (served_handOver s.channel _).connection
  | check | rearrange | overtake => exact .inr ⟨[], by simp⟩

/-- The actor of the connection stops in a terminal state only, whatever its channel does. -/
theorem halted_nexts (h : Nexts (start params fault) s) : s.channel.connection.Halted := by
  induction h with
  | refl => simp [Connection.Halted, start, Channel.init]
  | tail hs hnext ih =>
    obtain ⟨d, hd⟩ := next_iff_does.1 hnext
    have hcourse := ((invariant_init params fault).nexts hs).sound.course
    rcases connection_of_does hd with ⟨a, es, hstep⟩ | ⟨fs, hconnection⟩
    · exact ih.step hcourse (Connection.step_of_step? hstep)
    · rw [hconnection]
      exact ih

/-- When nothing waits for the hub or the actor of the connection, the hub has taken all the
    frames that have been read. -/
theorem framesTaken_of_quiet (h : Nexts (start params fault) s) (hhub : s.channel.inbox = [])
    (hactor : s.channel.connection.inbox = [] ∨ s.channel.connection.stopped) :
    framesTaken s.channel.journal = s.trace.reads.filterMap Received.frame? := by
  have hsound := ((invariant_init params fault).nexts h).sound
  have hunreported : s.channel.connection.unreported = [] := by
    rcases hactor with hinbox | hstopped
    · rw [Connection.unreported, hinbox]
      rfl
    · exact hsound.course.unreported_eq_nil ((halted_nexts h).1 hstopped).2
  rw [framesRead_eq hsound, hhub, hunreported]
  simp [framesOf]

/-- The counters of a channel account for everything, in every use of it. Of the calls to send
    that consumers have made and callbacks have asked for, each is counted once, except those
    that are still under way; for each that is counted as sent the connection has been asked to
    write one frame, and the transport was given no more. Each frame that the hub has taken is
    counted once, by whether it holds an envelope, and when nothing waits for the hub or the
    actor of the connection, these are all the frames that the transport has handed out. And
    what has been counted is never taken back. -/
theorem statistics_account (h : Booked params fault w posted s) :
    s.channel.statistics.sent + s.channel.statistics.droppedSends + s.calls.length =
      w.countP (·.isCall) + (requestsIn s.channel.journal).countP (·.isSend) ∧
    s.channel.statistics.sent = (posted.filterMap Connection.Message.request?).length ∧
    w.countP (·.isWrite) ≤ s.channel.statistics.sent ∧
    s.channel.statistics.delivered = (framesTaken s.channel.journal).countP decodes ∧
    s.channel.statistics.malformed = (framesTaken s.channel.journal).countP (!decodes ·) ∧
    (s.channel.inbox = [] → s.channel.connection.inbox = [] ∨ s.channel.connection.stopped →
      s.channel.statistics.delivered + s.channel.statistics.malformed =
        (s.trace.reads.filterMap Received.frame?).length) ∧
    ∀ s', Nexts s s' →
      s.channel.statistics.sent ≤ s'.channel.statistics.sent ∧
      s.channel.statistics.droppedSends ≤ s'.channel.statistics.droppedSends ∧
      s.channel.statistics.delivered ≤ s'.channel.statistics.delivered ∧
      s.channel.statistics.malformed ≤ s'.channel.statistics.malformed := by
  have hnexts := nexts_iff_booked.2 ⟨w, posted, h⟩
  obtain ⟨hcalled, hsent, hwritten, hdelivered, hmalformed⟩ := h.balanced
  refine ⟨?_, hsent, by omega, hdelivered, hmalformed, fun hhub hactor => ?_, fun s' hs => ?_⟩
  · rw [unasked] at hcalled
    omega
  · rw [← framesTaken_of_quiet hnexts hhub hactor, hdelivered, hmalformed]
    simpa using (List.length_eq_countP_add_countP decodes).symm
  · exact counters_le ((invariant_init params fault).nexts hnexts)
      (emptied_nexts (fun _ => rfl) hnexts) hs

/-- A consumer that answers all it is told. -/
def talkative : Subscriber where
  respond _ := [.send { kind := "re" }]

/-- A call finds the connection open and hands its envelope over when it has closed; another
    comes too late, and so does the answer to the end. -/
theorem statistics_account_late : ∃ w posted s, Booked { url := "ws://host" } none w posted s ∧
    s.channel.statistics.sent = 2 ∧ s.channel.statistics.droppedSends = 2 ∧
    s.channel.statistics.sent + s.channel.statistics.droppedSends + s.calls.length =
      w.countP (·.isCall) + (requestsIn s.channel.journal).countP (·.isSend) ∧
    s.channel.statistics.delivered + s.channel.statistics.malformed =
      (s.trace.reads.filterMap Received.frame?).length := by
  have hsubscribed : Booked { url := "ws://host" } none _ _ _ :=
    Booked.start.step (.subscribe talkative)
  have hstarted := hsubscribed.step (.connection (a := .start 0) rfl)
  have hserving := hstarted.step (.connection (a := .connected none) rfl)
  have hopened := hserving.step (.connection (a := .handle) rfl)
  have hchecked := hopened.step (.check (e := { kind := "late" }) rfl)
  have hread := hchecked.step (.connection (a := .received 0 (.frame "x")) rfl)
  have hreported := hread.step (.connection (a := .handle) rfl)
  have hheard := ((hreported.step (.take rfl)).step (.take rfl)).step (.take rfl)
  have hended := hheard.step (.connection (a := .received 0 .ended) rfl)
  have hqueued := hended.step (.connection (a := .handle) rfl)
  have hclosed := hqueued.step (.connection (a := .handle) rfl)
  have hhanded := hclosed.step (.handOver (.refl _))
  have hdropped := hhanded.step (.send { kind := "later" })
  have hstopped := hdropped.step (.connection (a := .disconnected) rfl)
  have hover := hstopped.step (.take rfl)
  obtain ⟨hcalled, -, -, -, -, hquiet, -⟩ := statistics_account hover
  exact ⟨_, _, _, hover, rfl, rfl, hcalled, hquiet rfl (.inr rfl)⟩

end Scene

end PartyLine
