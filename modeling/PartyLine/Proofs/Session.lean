import Mathlib.Data.Finset.Card
import Mathlib.Data.List.Induction
import PartyLine.Proofs.Channel.Lasting
import PartyLine.Proofs.Registry
import PartyLine.Session

/-!
# One live connection per URL

A client hands out channels on connecting, while those that it has opened go on at their
own pace, ends included. What keeps it from opening a second socket beside a live one is
that a connection which has ended stays ended: when a channel is replaced it is dead for
good, so that of all channels ever opened for a URL only the last can be alive, and that
is the registered one.

A use of a client is told by its *visits*, the calls to connect that have been given a
channel, each with its URL, the channel and whether it was opened for it. Between visits
anything may happen to the channels, to the factory, to the clock and to the place where the
client connects. The invariant relates the registry, the channels and the list of visits:

* what is registered for a URL is the last channel that the factory was asked for, and all
  earlier ones of the URL have ended;
* the registry names the channel of a visit exactly if no later visit of its URL opened
  one, and two visits have been given the same channel exactly if none between them, nor
  the second, did.

A visit that finds its channel adds to the list alone (`Kept.reuse`); one that opens a
channel puts a new one at the end of all, for which the registered one must have ended
(`Kept.openChannel`); everything else leaves URLs and ends in place (`Kept.progress`), as
every small step of a channel does.

* `Circuit.fresh`, `openChannel_eq`: a channel as it is opened;
* `Session.Used`: the uses of a client, with the visits that have been given a channel;
* `Session.Kept`: the invariant, `Used.kept` by induction over a use;
* `Used.settle`: a session that settles is used so;
* `one_live_channel`: the law of connecting, in every use of a client.
-/

namespace PartyLine

namespace Circuit

/-- A new channel with its far end, or with the error for want of a transport. Nothing goes into
    it but its URL, the limits of its connection and what the factory has made for it. -/
def fresh (url : String) (transport : TransportSettings) (made : Except TransportError FarEnd) :
    Circuit :=
  let params := ConnectParams.ofSettings url transport
  match made with
  | .ok far => ⟨.init params none, far⟩
  | .error e => ⟨.init params (some e), { url }⟩

@[simp] theorem url_fresh (url : String) (transport : TransportSettings)
    (made : Except TransportError FarEnd) : (fresh url transport made).channel.url = url := by
  cases made <;> rfl

end Circuit

namespace Session

/-- A call to connect that has been given a channel. -/
structure Visit where
  url : String
  channel : Nat
  /-- Whether the factory was asked for a transport. -/
  opened : Bool
  deriving DecidableEq

/-- The uses of a new client, and the visits so far, in their order. Between visits the
    channels take their small steps in any order; the factory, the place where the client
    connects, the clock and the far ends are as they like at any time. -/
inductive Used (settings : Settings) : Session → List Visit → Prop
  | new (factory : Factory) : Used settings { settings, factory } []
  | connect {s s' : Session} {visits : List Visit} {url : String} {i : Nat} :
      Used settings s visits → s.connect url = (.ok i, s') →
      Used settings s' (visits ++ [⟨url, i, decide (s'.requested ≠ s.requested)⟩])
  | refused {s s' : Session} {visits : List Visit} {url : String} {e : ConnectError} :
      Used settings s visits → s.connect url = (.error e, s') → Used settings s' visits
  | progress {s : Session} {visits : List Visit} {i : Nat} {c c' : Channel} {a : Channel.Action} :
      Used settings s visits → s.channel? i = some c → c.step? a = some c' →
      Used settings (s.updateChannel i fun _ => c') visits
  | around {s : Session} {visits : List Visit} {factory : Factory} {hasSystem : Bool} {now : Nat}
      {stations : List Station} : Used settings s visits →
      stations.map (·.circuit.channel) = s.stations.map (·.circuit.channel) →
      Used settings { s with factory, hasSystem, now, stations } visits

/-! ## Connecting -/

variable {settings : Settings} {s s' : Session} {visits : List Visit} {url : String} {i : Nat}

/-- Opening a channel puts a fresh one behind all others, whichever there are. -/
theorem openChannel_eq (s : Session) (url : String) : ∃ station : Station,
    station.circuit = .fresh url s.settings.transport (s.factory.create url) ∧
      s.openChannel url = (s.stations.length, { s with
        registry := s.registry.insert url s.stations.length
        stations := s.stations ++ [station]
        requested := s.requested ++ [url] }) := by
  refine ⟨_, ?_, rfl⟩
  cases s.factory.create url <;> rfl

/-- Connecting hands back the registered channel, or opens one. -/
theorem connect_cases (h : s.connect url = (.ok i, s')) :
    (s' = s ∧ s.registry.find? url = some i ∧
      ¬(s.hasEnded i ∧ s.registry.policy = .replace)) ∨
    ((i, s') = s.openChannel url ∧
      ∀ j, s.registry.find? url = some j → s.hasEnded j ∧ s.registry.policy = .replace) := by
  unfold connect at h
  split at h
  · cases h
  · next j hdecision =>
    cases h
    obtain ⟨-, hfind, hkept⟩ := Registry.decision_eq_reuse_iff.1 hdecision
    exact .inl ⟨rfl, hfind, hkept⟩
  · next hdecision =>
    obtain ⟨-, -, hreplaced⟩ := Registry.decision_eq_create_iff.1 hdecision
    generalize s.openChannel url = opened at h ⊢
    cases h
    exact .inr ⟨rfl, hreplaced⟩

/-- A call that fails changes nothing. -/
theorem connect_error {e : ConnectError} (h : s.connect url = (.error e, s')) : s' = s := by
  unfold connect at h
  split at h
  · cases h
    rfl
  · cases h
  · cases h

/-! ## What is kept -/

/-- No visit of a URL among these opened a channel. -/
def Quiet (url : String) (visits : List Visit) : Prop :=
  ∀ v ∈ visits, v.url = url → v.opened = false

@[simp] theorem quiet_nil (url : String) : Quiet url [] := by simp [Quiet]

@[simp] theorem quiet_append (url : String) (vs ws : List Visit) :
    Quiet url (vs ++ ws) ↔ Quiet url vs ∧ Quiet url ws := by
  simp only [Quiet, List.mem_append]
  exact ⟨fun h => ⟨fun v hv => h v (.inl hv), fun v hv => h v (.inr hv)⟩,
    fun h v hv => hv.elim (h.1 v) (h.2 v)⟩

@[simp] theorem quiet_singleton (url : String) (v : Visit) :
    Quiet url [v] ↔ (v.url = url → v.opened = false) := by
  simp [Quiet]

/-- What is so in every use of a client. -/
structure Kept (settings : Settings) (s : Session) (visits : List Visit) : Prop where
  policy : s.registry.policy = settings.onTerminated
  distinct : s.registry.Distinct
  /-- The factory was asked once for every channel, in their order. -/
  requested : s.requested = s.stations.map (·.circuit.channel.url)
  known : ∀ url, (s.registry.find? url).isSome ↔ url ∈ s.requested
  latest : ∀ url j, s.registry.find? url = some j →
    s.requested[j]? = some url ∧ ∀ k, s.requested[k]? = some url → k ≤ j
  /-- All channels of a URL but the last have ended, and were replaced. -/
  earlier : ∀ url j k, s.requested[j]? = some url → s.requested[k]? = some url → j < k →
    s.hasEnded j ∧ settings.onTerminated = .replace
  handed : ∀ url k, s.requested[k]? = some url ↔ ∃ v ∈ visits, v.url = url ∧ v.channel = k
  /-- A channel that was handed out is registered as long as none is opened. -/
  registered : ∀ before v after, visits = before ++ v :: after →
    (s.registry.find? v.url = some v.channel ↔ Quiet v.url after)
  same : ∀ before v mid w after, visits = before ++ v :: (mid ++ w :: after) → v.url = w.url →
    (v.channel = w.channel ↔ Quiet v.url (mid ++ [w]))

/-- A visit is followed by one more, or is the last itself. -/
theorem split_append_singleton {before after : List Visit} {v w : Visit}
    (h : visits ++ [w] = before ++ v :: after) : (after = [] ∧ v = w ∧ before = visits) ∨
      ∃ after', after = after' ++ [w] ∧ visits = before ++ v :: after' := by
  rcases List.eq_nil_or_concat' after with rfl | ⟨after', u, rfl⟩
  · obtain ⟨hvisits, hw⟩ := List.append_inj' h rfl
    exact .inl ⟨rfl, (List.singleton_inj.1 hw).symm, hvisits.symm⟩
  · rw [← List.cons_append, ← List.append_assoc] at h
    obtain ⟨hvisits, hw⟩ := List.append_inj' h rfl
    exact .inr ⟨after', by rw [List.singleton_inj.1 hw], hvisits⟩

/-- The pairs of visits with one more at the end: the pairs before, or the last visit is the
    second. -/
theorem same_append {w : Visit}
    (hsame : ∀ before v mid w after, visits = before ++ v :: (mid ++ w :: after) → v.url = w.url →
      (v.channel = w.channel ↔ Quiet v.url (mid ++ [w])))
    (hlast : ∀ before v mid, visits = before ++ v :: mid → v.url = w.url →
      (v.channel = w.channel ↔ Quiet v.url (mid ++ [w])))
    (before : List Visit) (v : Visit) (mid : List Visit) (w' : Visit) (after : List Visit)
    (h : visits ++ [w] = before ++ v :: (mid ++ w' :: after)) (hurl : v.url = w'.url) :
    v.channel = w'.channel ↔ Quiet v.url (mid ++ [w']) := by
  rw [← List.cons_append, ← List.append_assoc] at h
  rcases split_append_singleton h with ⟨-, rfl, hvisits⟩ | ⟨after', -, hvisits⟩
  · exact hlast before v mid hvisits.symm hurl
  · exact hsame before v mid w' after' (by simp [hvisits]) hurl

/-- A new client. -/
theorem kept_new (settings : Settings) (factory : Factory) :
    Kept settings { settings, factory } [] where
  policy := rfl
  distinct := List.nodup_nil
  requested := rfl
  known url := by simp [Registry.find?]
  latest url j h := by simp [Registry.find?] at h
  earlier url j k h := by simp at h
  handed url k := by simp
  registered before v after h := by simp at h
  same before v mid w after h := by simp at h

/-- A visit that is handed the registered channel. -/
theorem Kept.reuse (h : Kept settings s visits) (hfind : s.registry.find? url = some i) :
    Kept settings s (visits ++ [⟨url, i, false⟩]) := by
  have hregistered (before : List Visit) (v : Visit) (after : List Visit)
      (hvisits : visits ++ [⟨url, i, false⟩] = before ++ v :: after) :
      s.registry.find? v.url = some v.channel ↔ Quiet v.url after := by
    rcases split_append_singleton hvisits with ⟨rfl, rfl, -⟩ | ⟨after', rfl, hbefore⟩
    · simpa using hfind
    · simpa using h.registered before v after' hbefore
  refine { h with
    handed := ?handed
    registered := hregistered
    same := same_append h.same ?same }
  case handed =>
    intro url' k
    rw [h.handed]
    simp only [List.mem_append, List.mem_singleton]
    constructor
    · rintro ⟨v, hv, hurl⟩
      exact ⟨v, .inl hv, hurl⟩
    · rintro ⟨v, hv | rfl, hurl, hchannel⟩
      · exact ⟨v, hv, hurl, hchannel⟩
      · rw [← h.handed, ← hurl, ← hchannel]
        exact (h.latest url i hfind).1
  case same =>
    rintro before v mid hvisits hurl
    have hv := hregistered before v (mid ++ [⟨url, i, false⟩]) (by simp [hvisits])
    rw [← hv]
    simp only at hurl ⊢
    rw [hurl, hfind, Option.some.injEq, eq_comm]

/-- Every request of the factory has come to a channel. -/
theorem Kept.lt_length (h : Kept settings s visits) (hi : s.requested[i]? = some url) :
    i < s.stations.length := by
  rw [h.requested, List.getElem?_map] at hi
  obtain ⟨t, ht, -⟩ := Option.map_eq_some_iff.1 hi
  exact (List.getElem?_eq_some_iff.1 ht).1

/-- The channel registered for a URL is no earlier than any that was opened for it. -/
theorem Kept.exists_registered (h : Kept settings s visits) (hi : s.requested[i]? = some url) :
    ∃ m, s.registry.find? url = some m ∧ s.requested[m]? = some url ∧ i ≤ m := by
  obtain ⟨m, hm⟩ := Option.isSome_iff_exists.1 ((h.known url).2 (List.mem_of_getElem? hi))
  obtain ⟨hlast, hlatest⟩ := h.latest url m hm
  exact ⟨m, hm, hlast, hlatest i hi⟩

/-- If the registered channel of a URL is to be replaced, they have all ended. -/
theorem Kept.hasEnded_of_replaced (h : Kept settings s visits)
    (hreplaced : ∀ j, s.registry.find? url = some j →
      s.hasEnded j ∧ s.registry.policy = .replace) (hi : s.requested[i]? = some url) :
    s.hasEnded i ∧ settings.onTerminated = .replace := by
  obtain ⟨m, hm, hlast, hle⟩ := h.exists_registered hi
  obtain ⟨hmended, hpolicy⟩ := hreplaced m hm
  rcases Nat.lt_or_eq_of_le hle with hlt | rfl
  · exact h.earlier url i m hi hlast hlt
  · exact ⟨hmended, h.policy ▸ hpolicy⟩

theorem getElem?_append_singleton_eq_some_iff {l : List String} {u v : String} {k : Nat} :
    (l ++ [u])[k]? = some v ↔ l[k]? = some v ∨ k = l.length ∧ u = v := by
  rcases Nat.lt_trichotomy k l.length with hk | rfl | hk
  · rw [List.getElem?_append_left hk]
    simp [Nat.ne_of_lt hk]
  · simp
  · have hnone : l[k]? = none := List.getElem?_eq_none (Nat.le_of_lt hk)
    have hlength : (l ++ [u]).length ≤ k := by
      rw [List.length_append]
      exact hk
    simp [hnone, List.getElem?_eq_none hlength, Nat.ne_of_gt hk]

/-- The channels so far end by themselves, whichever is put behind them. -/
theorem hasEnded_append {registry : Registry} {station : Station} {requested : List String}
    {k : Nat} (hk : k < s.stations.length) :
    hasEnded { s with registry, stations := s.stations ++ [station], requested } k =
      s.hasEnded k := by
  simp [hasEnded, channel?, List.getElem?_append_left hk]

/-- Registering a new channel drops the earlier one of its URL, at the very visit that is no longer
    quiet for it; of other URLs all is as before. -/
theorem Kept.registered_insert (h : Kept settings s visits) {before : List Visit} {v : Visit}
    {after : List Visit}
    (hvisits : visits ++ [⟨url, s.stations.length, true⟩] = before ++ v :: after) :
    (s.registry.insert url s.stations.length).find? v.url = some v.channel ↔
      Quiet v.url after := by
  rw [Registry.find?_insert]
  rcases split_append_singleton hvisits with ⟨rfl, rfl, -⟩ | ⟨after', rfl, hbefore⟩
  · simp
  · -- the channel of an earlier visit is not the new one
    have hv : v.channel < s.stations.length :=
      h.lt_length ((h.handed v.url v.channel).2 ⟨v, by simp [hbefore], rfl, rfl⟩)
    by_cases hurl : v.url = url
    · simp [hurl, Nat.ne_of_gt hv]
    · simpa [hurl, Ne.symm hurl] using h.registered before v after' hbefore

/-- A visit for which a channel is opened: the last of its URL, and the registered one. -/
theorem Kept.openChannel (h : Kept settings s visits) (hopened : (i, s') = s.openChannel url)
    (hreplaced : ∀ j, s.registry.find? url = some j →
      s.hasEnded j ∧ s.registry.policy = .replace) :
    Kept settings s' (visits ++ [⟨url, i, true⟩]) := by
  obtain ⟨station, hfresh, hs'⟩ := openChannel_eq s url
  rw [hs'] at hopened
  cases hopened
  have hlength : s.requested.length = s.stations.length := by simp [h.requested]
  -- what the factory was asked for are the channels so far, and the new one
  have hrequested (k : Nat) (url' : String) : (s.requested ++ [url])[k]? = some url' ↔
      s.requested[k]? = some url' ∨ k = s.stations.length ∧ url = url' := by
    rw [getElem?_append_singleton_eq_some_iff, hlength]
  refine
    { policy := h.policy
      distinct := h.distinct.insert url _
      requested := by simp [h.requested, hfresh]
      known := ?known
      latest := ?latest
      earlier := ?earlier
      handed := ?handed
      registered := fun _ _ _ => h.registered_insert
      same := same_append h.same ?same }
  case known =>
    intro url'
    rw [Registry.find?_insert]
    split
    · next hurl => simp [hurl]
    · next hurl => simp [h.known, hurl]
  case latest =>
    intro url' j hj
    simp only [hrequested]
    rw [Registry.find?_insert] at hj
    split at hj
    · next hurl =>
      cases hj
      -- it stands behind all others
      refine ⟨.inr ⟨rfl, hurl.symm⟩, ?_⟩
      rintro k (hk | ⟨rfl, -⟩)
      · exact Nat.le_of_lt (h.lt_length hk)
      · exact Nat.le_refl _
    · next hurl =>
      obtain ⟨hj, hlatest⟩ := h.latest url' j hj
      refine ⟨.inl hj, ?_⟩
      rintro k (hk | ⟨-, rfl⟩)
      · exact hlatest k hk
      · exact absurd rfl hurl
  case earlier =>
    intro url' j k
    simp only [hrequested]
    rintro hj (hk | ⟨rfl, rfl⟩) hlt
    · -- neither of the two is the new one
      have hj := hj.resolve_right fun ⟨hj, _⟩ => by
        have := h.lt_length hk
        omega
      rw [hasEnded_append (h.lt_length hj)]
      exact h.earlier url' j k hj hk hlt
    · -- the later one is new, and was opened because the registered one had ended
      have hj := hj.resolve_right fun ⟨hj, _⟩ => absurd hj (Nat.ne_of_lt hlt)
      rw [hasEnded_append (h.lt_length hj)]
      exact h.hasEnded_of_replaced hreplaced hj
  case handed =>
    intro url' k
    rw [hrequested, h.handed]
    simp only [List.mem_append, List.mem_singleton, or_and_right, exists_or, exists_eq_left]
    exact or_congr_right (and_comm.trans (and_congr_right fun _ => eq_comm))
  case same =>
    intro before v mid hvisits hurl
    -- the new channel is the registered one, so that an earlier visit was given it exactly if
    -- its own channel is registered still
    have hlater : visits ++ [⟨url, s.stations.length, true⟩] =
        before ++ v :: (mid ++ [⟨url, s.stations.length, true⟩]) := by simp [hvisits]
    rw [← h.registered_insert hlater, Registry.find?_insert, if_pos hurl, Option.some.injEq,
      eq_comm]

/-- The channels may go on, as long as each keeps its URL and its end. -/
theorem Kept.progress {stations : List Station} {factory : Factory} {hasSystem : Bool} {now : Nat}
    (h : Kept settings s visits) (hlength : stations.length = s.stations.length)
    (hlasting : ∀ (k : Nat) (t t' : Station), s.stations[k]? = some t → stations[k]? = some t' →
      t'.circuit.channel.url = t.circuit.channel.url ∧
        (t.circuit.channel.isTerminated → t'.circuit.channel.isTerminated)) :
    Kept settings { s with factory, hasSystem, now, stations } visits := by
  have hstation {k : Nat} {t : Station} (ht : s.stations[k]? = some t) :
      ∃ t', stations[k]? = some t' := by
    refine ⟨_, List.getElem?_eq_getElem ?_⟩
    rw [hlength]
    exact (List.getElem?_eq_some_iff.1 ht).1
  refine { h with
    requested := h.requested.trans (List.ext_getElem (by simp [hlength]) fun k hk hk' => ?_)
    earlier := fun url j k hj hk hlt => (h.earlier url j k hj hk hlt).imp_left fun hended => ?_ }
  · simp only [List.length_map] at hk hk'
    simpa using (hlasting k _ _ (List.getElem?_eq_getElem hk) (List.getElem?_eq_getElem hk')).1.symm
  · simp only [hasEnded, channel?] at hended ⊢
    cases ht : s.stations[j]? with
    | none => simp [ht] at hended
    | some t =>
      obtain ⟨t', ht'⟩ := hstation ht
      rw [ht] at hended
      rw [ht']
      exact (hlasting j t t' ht ht').2 hended

/-- All this is so in every use of a client. -/
theorem Used.kept (h : Used settings s visits) : Kept settings s visits := by
  induction h with
  | new factory => exact kept_new settings factory
  | @connect s s' visits url i _ hconnect ih =>
    rcases connect_cases hconnect with ⟨rfl, hfind, -⟩ | ⟨hopened, hreplaced⟩
    · simpa using ih.reuse hfind
    · have hkept := ih.openChannel hopened hreplaced
      obtain ⟨station, -, hs'⟩ := openChannel_eq s url
      rw [hs'] at hopened
      cases hopened
      simpa using hkept
  | refused _ hconnect ih =>
    rw [connect_error hconnect]
    exact ih
  | @progress s visits i c c' a _ hc hstep ih =>
    refine ih.progress (by simp) fun k t t' ht ht' => ?_
    rw [List.getElem?_modify, ht] at ht'
    cases ht'
    split
    · next hik =>
      obtain ⟨t'', ht'', rfl⟩ := Option.map_eq_some_iff.1 hc
      obtain rfl := Option.some.inj (ht''.symm.trans (hik ▸ ht))
      exact Channel.step_lasting hstep
    · exact ⟨rfl, id⟩
  | @around s visits factory hasSystem now stations _ hstations ih =>
    refine ih.progress (by simpa using congrArg List.length hstations) fun k t t' ht ht' => ?_
    have hk := congrArg (·[k]?) hstations
    simp only [List.getElem?_map, ht, ht', Option.map_some, Option.some.injEq] at hk
    rw [hk]
    exact ⟨rfl, id⟩

/-! ## Settling -/

/-- A channel may take any number of small steps. -/
theorem Used.steps {c c' : Channel} (h : Used settings s visits) (hc : s.channel? i = some c)
    (hsteps : Channel.Steps c c') : Used settings (s.updateChannel i fun _ => c') visits := by
  obtain ⟨t, ht, rfl⟩ := Option.map_eq_some_iff.1 hc
  induction hsteps with
  | refl =>
    refine h.around (List.ext_getElem? fun k => ?_)
    rw [List.getElem?_map, List.getElem?_map, List.getElem?_modify]
    by_cases hik : i = k
    · subst hik
      simp [ht]
    · simp [hik]
  | @tail c c' _ hstep ih =>
    obtain ⟨a, hstep⟩ := hstep
    have hi : (s.updateChannel i fun _ => c).channel? i = some c := by
      simp [channel?, updateChannel, ht]
    have hlast := ih.progress hi hstep
    simpa [updateChannel, List.modify_modify_eq, Function.comp_def] using hlast

/-- Settling is one of the ways in which the channels can go on. -/
theorem Used.settle (h : Used settings s visits) : Used settings s.settle visits := by
  have settled (before after : List Station) (h : Used settings { s with
      stations := before ++ after } visits) : Used settings { s with
        stations := before ++ after.map fun t =>
          { t with circuit := t.circuit.settle s.now } } visits := by
    -- one station after the other
    induction after generalizing before with
    | nil => exact h
    | cons t after ih =>
      have hchannel : channel? { s with stations := before ++ t :: after } before.length =
          some t.circuit.channel := by simp [channel?]
      have hsteps := h.steps hchannel (Channel.steps_settle s.now t.circuit)
      have hnext := ih (before ++ [{ t with circuit := t.circuit.settle s.now }])
        (hsteps.around (by simp [updateChannel, List.modify_eq_take_drop]))
      simpa using hnext
  exact settled [] s.stations h

/-! ## The law of connecting -/

/-- The number of times that a URL is in a list is that of its places. -/
theorem count_eq_card (l : List String) (url : String) :
    l.count url = ((Finset.range l.length).filter fun k => l[k]? = some url).card := by
  induction l using List.reverseRecOn with
  | nil => rfl
  | append_singleton l u ih =>
    have hplaces : ((Finset.range l.length).filter fun k => (l ++ [u])[k]? = some url) =
        (Finset.range l.length).filter fun k => l[k]? = some url := by
      refine Finset.filter_congr fun k hk => ?_
      rw [List.getElem?_append_left (Finset.mem_range.1 hk)]
    have hlast : (l ++ [u])[l.length]? = some u := by simp
    rw [List.count_append, ih, List.length_append, List.length_singleton, Finset.range_add_one,
      Finset.filter_insert, hplaces, hlast]
    by_cases hu : u = url
    · subst hu
      rw [if_pos rfl, Finset.card_insert_of_notMem (by simp), List.count_singleton_self]
    · rw [if_neg (by simpa using hu), List.count_singleton, if_neg (by simpa using hu),
        Nat.add_zero]

/-- The channel of a visit is one of its URL. -/
theorem Kept.exists_channel (h : Kept settings s visits) {v : Visit} (hv : v ∈ visits) :
    ∃ c, s.channel? v.channel = some c ∧ c.url = v.url := by
  have hrequested := (h.handed v.url v.channel).2 ⟨v, hv, rfl, rfl⟩
  rw [h.requested, List.getElem?_map] at hrequested
  obtain ⟨t, ht, hurl⟩ := Option.map_eq_some_iff.1 hrequested
  exact ⟨t.circuit.channel, by simp [channel?, ht], hurl⟩

/-- The registered channel is the last that was opened. -/
theorem Kept.find?_eq_some_iff (h : Kept settings s visits) (url : String) (j : Nat) :
    s.registry.find? url = some j ↔
      s.requested[j]? = some url ∧ ∀ k, s.requested[k]? = some url → k ≤ j := by
  refine ⟨h.latest url j, ?_⟩
  rintro ⟨hj, hmax⟩
  obtain ⟨m, hm, hlast, hle⟩ := h.exists_registered hj
  rw [hm, Nat.le_antisymm (hmax m hlast) hle]

/-- A channel that has not ended is the registered one. -/
theorem Kept.find?_of_not_hasEnded (h : Kept settings s visits)
    (hi : s.requested[i]? = some url) (halive : s.hasEnded i = false) :
    s.registry.find? url = some i := by
  rw [h.find?_eq_some_iff]
  refine ⟨hi, fun k hk => Nat.le_of_not_lt fun hlt => ?_⟩
  obtain ⟨hended, -⟩ := h.earlier url i k hi hk hlt
  rw [halive] at hended
  cases hended

/-- The factory was asked for a URL once for every channel that was handed out for it. -/
theorem Kept.count_requested (h : Kept settings s visits) (url : String) : s.requested.count url =
    ((visits.filter (·.url = url)).map (·.channel)).toFinset.card := by
  rw [count_eq_card]
  congr 1
  ext k
  simp only [Finset.mem_filter, Finset.mem_range, List.mem_toFinset, List.mem_map,
    List.mem_filter, decide_eq_true_eq, and_assoc]
  rw [← h.handed, and_iff_right_iff_imp]
  exact fun hk => (List.getElem?_eq_some_iff.1 hk).1

/-- A client that hands back ended channels asks once. -/
theorem Kept.count_requested_le_one (h : Kept settings s visits)
    (hreuse : settings.onTerminated = .reuse) (url : String) : s.requested.count url ≤ 1 := by
  have hreplaced {j k : Nat} (hj : s.requested[j]? = some url) (hk : s.requested[k]? = some url) :
      ¬j < k := fun hlt => by
    obtain ⟨-, hpolicy⟩ := h.earlier url j k hj hk hlt
    rw [hreuse] at hpolicy
    cases hpolicy
  rw [count_eq_card, Finset.card_le_one]
  intro j hj k hk
  have hj := (Finset.mem_filter.1 hj).2
  have hk := (Finset.mem_filter.1 hk).2
  exact Nat.le_antisymm (Nat.le_of_not_lt (hreplaced hk hj)) (Nat.le_of_not_lt (hreplaced hj hk))

/-- Connecting asks the factory at most once, and if so hands out the channel it opens. -/
theorem connect_requested (h : s.connect url = (.ok i, s')) :
    (s'.requested = s.requested ∧ s.registry.find? url = some i) ∨
    (s'.requested = s.requested ++ [url] ∧ i = s.stations.length ∧
      ∀ j, s.registry.find? url = some j → s.hasEnded j ∧ s.registry.policy = .replace) := by
  rcases connect_cases h with ⟨rfl, hfind, -⟩ | ⟨hopened, hreplaced⟩
  · exact .inl ⟨rfl, hfind⟩
  · obtain ⟨station, -, hs'⟩ := openChannel_eq s url
    rw [hs'] at hopened
    cases hopened
    exact .inr ⟨rfl, rfl, hreplaced⟩

/-- In every use of a client, a channel that was handed out for a URL and has not ended is the
    one registered for it, so that there is at most one of these. The factory was asked once
    for every channel there is, and for a URL as often as there are channels that were handed
    out for it: once at most if ended channels are handed back. Connecting hands out the
    registered channel, or asks the factory, and this only if none is registered or if the one
    that is has ended and is to be replaced. Two visits of a URL have been given the same channel
    exactly if the second did not open one, nor any visit between them. The URLs are listed in
    strictly increasing order, and are those for which a channel was opened; the channel
    registered for a URL is the last that was opened. -/
theorem one_live_channel (h : Used settings s visits) :
    (∀ v ∈ visits, ∃ c, s.channel? v.channel = some c ∧ c.url = v.url ∧
      (c.isTerminated = false → s.registry.find? v.url = some v.channel)) ∧
    (s.requested = s.stations.map (·.circuit.channel.url) ∧ ∀ url, s.requested.count url =
      ((visits.filter (·.url = url)).map (·.channel)).toFinset.card) ∧
    (settings.onTerminated = .reuse → ∀ url, s.requested.count url ≤ 1) ∧
    (∀ url i s', s.connect url = (.ok i, s') →
      (s'.requested = s.requested ∧ s.registry.find? url = some i) ∨
      (s'.requested = s.requested ++ [url] ∧ i = s.stations.length ∧
        ∀ j, s.registry.find? url = some j →
          s.hasEnded j ∧ settings.onTerminated = .replace)) ∧
    (∀ before v mid w after, visits = before ++ v :: (mid ++ w :: after) → v.url = w.url →
      (v.channel = w.channel ↔ ∀ u ∈ mid ++ [w], u.url = v.url → u.opened = false)) ∧
    (s.registry.urls.Pairwise (· < ·) ∧ ∀ url, url ∈ s.registry.urls ↔ url ∈ s.requested) ∧
    (∀ url j, s.registry.find? url = some j ↔
      s.requested[j]? = some url ∧ ∀ k, s.requested[k]? = some url → k ≤ j) := by
  have hkept := h.kept
  refine ⟨fun v hv => ?alive, ⟨hkept.requested, hkept.count_requested⟩,
    hkept.count_requested_le_one, fun url i s' hconnect => ?connect, hkept.same,
    ⟨hkept.distinct.pairwise_urls, fun url => ?urls⟩, hkept.find?_eq_some_iff⟩
  case alive =>
    obtain ⟨c, hc, hurl⟩ := hkept.exists_channel hv
    refine ⟨c, hc, hurl, fun halive => hkept.find?_of_not_hasEnded ?_ ?_⟩
    · exact (hkept.handed v.url v.channel).2 ⟨v, hv, rfl, rfl⟩
    · simpa [hasEnded, hc] using halive
  case connect =>
    rw [← hkept.policy]
    exact connect_requested hconnect
  case urls => rw [Registry.mem_urls, hkept.known]

/-- A client that replaces ended channels, where every attempt fails at once. -/
def failing : Session :=
  { settings := { onTerminated := .replace }
    factory := .scripted (fun _ => false) [("ws://host", .timeout)] {} }

/-- Its first channel has failed before the second visit. -/
def replaced : Session := ((failing.connect "ws://host").2.settle.connect "ws://host").2

theorem used_replaced : Used { onTerminated := .replace } replaced
    [⟨"ws://host", 0, true⟩, ⟨"ws://host", 1, true⟩] := by
  have hnew : Used { onTerminated := .replace } failing [] := .new _
  have hfirst := (hnew.connect (show failing.connect "ws://host" = (.ok 0, _) from rfl)).settle
  exact hfirst.connect (show Session.connect _ "ws://host" = (.ok 1, _) from rfl)

theorem one_live_channel_replaced : replaced.hasEnded 0 ∧ replaced.hasEnded 1 = false ∧
    replaced.registry.find? "ws://host" = some 1 ∧ replaced.requested.count "ws://host" = 2 ∧
    replaced.registry.urls.Pairwise (· < ·) ∧ "ws://host" ∈ replaced.registry.urls := by
  obtain ⟨hlive, ⟨-, hcount⟩, -, -, -, ⟨hincreasing, hurls⟩, -⟩ := one_live_channel used_replaced
  obtain ⟨c, hc, -, hregistered⟩ := hlive ⟨"ws://host", 1, true⟩ (by simp)
  have halive : replaced.hasEnded 1 = false := rfl
  refine ⟨rfl, halive, hregistered ?_, hcount "ws://host", hincreasing, (hurls _).2 ?_⟩
  · simpa [hasEnded, hc] using halive
  · rw [show replaced.requested = ["ws://host", "ws://host"] from rfl]
    exact List.mem_cons_self

end Session

end PartyLine
