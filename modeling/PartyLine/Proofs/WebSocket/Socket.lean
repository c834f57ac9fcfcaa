import PartyLine.WebSocket.Client

/-!
# What sockets consume

All that a socket yields of what its peer has sent is made of frames, and a frame takes some
bytes. So a socket does not go on yielding for ever without more coming in.

* `Frame.length_of_read`: reading a frame leaves less than there was;
* `Socket.accept_inbound`: what a frame comes to leaves the rest as it is;
* `Socket.next?_inbound`: an item that is neither a failure nor the end leaves less than there
  was.
-/

namespace PartyLine

namespace WebSocket

/-! ## Frames -/

theorem Frame.length_of_split? {count : Nat} {bytes front back : List UInt8}
    (h : split? count bytes = some (front, back)) : back.length ≤ bytes.length := by
  unfold split? at h
  dsimp only at h
  split at h
  · obtain ⟨-, rfl⟩ := Prod.mk.inj (Option.some.inj h)
    exact (List.drop_sublist _ _).length_le
  · cases h

/-- A frame takes some bytes: those of its header at least. -/
theorem Frame.length_of_read {limit : Nat} {bytes rest : List UInt8} {f : Frame}
    (h : Frame.read limit bytes = .frame f rest) : rest.length < bytes.length := by
  unfold Frame.read at h
  dsimp only at h
  split at h
  · next second bytes =>
    split at h
    · cases h
    · next long bytes hlong =>
      split at h
      · cases h
      · next hmask =>
        -- the length that the header gives is of no account
        generalize (if long.isEmpty then second.toNat % 128 else natural long) = length at h
        split at h
        · cases h
        · split at h
          · cases h
          · split at h
            · cases h
            · next hpayload =>
              obtain ⟨-, rfl⟩ := Frame.Reading.frame.inj h
              have := length_of_split? hlong
              have := length_of_split? hmask
              have := length_of_split? hpayload
              simp only [List.length_cons]
              omega
  · cases h

namespace Socket

variable {s s' : Socket} {f : Frame} {o : Option Item}

/-! ## What a frame comes to -/

/-- Both parts of what goes well do. -/
theorem of_bind {α β : Type} {x : Except Failure α} {k : α → Except Failure β} {b : β}
    (h : x >>= k = .ok b) : ∃ a, x = .ok a ∧ k a = .ok b := by
  cases x with
  | error e => cases h
  | ok a => exact ⟨a, rfl, h⟩

/-- What goes well has passed its guard. -/
theorem of_guard {β : Type} {p : Prop} [Decidable p] {e : Failure} {k : PUnit → Except Failure β}
    {b : β} (h : (if p then (throw e : Except Failure PUnit) >>= k else k ⟨⟩) = .ok b) :
    k ⟨⟩ = .ok b := by
  by_cases hp : p
  · rw [if_pos hp] at h
    cases h
  · rwa [if_neg hp] at h

theorem collect_inbound {d : Draft} (h : s.collect d f = .ok (o, s')) :
    s'.inbound = s.inbound := by
  unfold collect at h
  obtain ⟨d', -, h⟩ := of_bind h
  split at h
  · obtain ⟨item, -, h⟩ := of_bind h
    cases h
    rfl
  · cases h
    rfl

theorem prepare_inbound (s : Socket) (f : Frame) : (s.prepare f).inbound = s.inbound := by
  unfold prepare
  split <;> rfl

theorem acceptClose_inbound (s : Socket) (status : Option (Nat × List UInt8)) :
    (s.acceptClose status).2.inbound = s.inbound := by
  unfold acceptClose
  split
  · exact prepare_inbound _ _
  · rfl
  · rfl

/-- What a frame comes to leaves the rest as it is. -/
theorem accept_inbound (h : s.accept f = .ok (o, s')) : s'.inbound = s.inbound := by
  unfold accept at h
  iterate 5 replace h := of_guard h
  split at h
  · -- a close
    obtain ⟨status, -, h⟩ := of_bind h
    rw [← acceptClose_inbound s status, Except.ok.inj h]
  · -- a ping, with its answer
    obtain ⟨-, rfl⟩ := Prod.mk.inj (Except.ok.inj h)
    split
    · exact prepare_inbound _ _
    · rfl
  · -- a pong
    obtain ⟨-, rfl⟩ := Prod.mk.inj (Except.ok.inj h)
    rfl
  -- pieces of messages
  · exact collect_inbound h
  · cases h
  · cases h
  · cases h
  · exact collect_inbound h
  · exact collect_inbound h

/-! ## What is yielded -/

/-- An item that is read takes a frame at least. -/
theorem read?_inbound {fuel : Nat} {i : Item} (h : read? fuel s = some (.ok i, s')) :
    s'.inbound.length < s.inbound.length := by
  induction fuel generalizing s with
  | zero => cases h
  | succ fuel ih =>
    unfold read? at h
    dsimp only at h
    split at h
    · split at h
      · cases h
      · cases h
    · cases h
    · next f rest hread =>
      have hrest : rest.length < s.inbound.length := Frame.length_of_read hread
      split at h
      · cases h
      · next haccept =>
        cases h
        rw [accept_inbound haccept]
        exact hrest
      · next t haccept =>
        have hinbound : t.inbound = rest := accept_inbound haccept
        have hless := ih h
        rw [hinbound] at hless
        exact Nat.lt_trans hless hrest

/-- An item that is neither a failure nor the end leaves less than there was. -/
theorem next?_inbound {i : Item} (h : s.next? = some (i, s')) (hended : i ≠ .ended)
    (hfailed : ∀ e, i ≠ .failed e) : s'.inbound.length < s.inbound.length := by
  unfold next? at h
  split at h
  · cases h
    exact absurd rfl hended
  split at h
  · cases h
    exact absurd rfl hended
  obtain ⟨p, hread, h⟩ := Option.map_eq_some_iff.1 h
  split at h
  · cases h
    exact read?_inbound hread
  · cases h
    exact absurd rfl hended
  · cases h
    exact absurd rfl (hfailed _)

end Socket

end WebSocket

end PartyLine
