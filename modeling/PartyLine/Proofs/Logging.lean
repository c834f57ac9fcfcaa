import PartyLine.Logging

/-!
# Modules of a fixed level

Holding a module at `INFO` makes a logger say less of it where it was to say more, and more
where it was to say less. So the modules of fixed level make a logger quieter everywhere if the
filter that was asked for lets their `INFO` records pass, and only then.

About a target the directive with the longest name decides, of those whose names begin the target,
and of two with one name the last. A module that is held puts one more directive into the filter, or
sets the level of the one with its name. So about a target the filter with it decides as before,
unless the module's name is the longest that begins the target; then the target is decided like
the module itself (`Filter.deciding_of_covers`). With several modules this is used one after the
other, and what is accepted is what was accepted before or what one of the modules decides.

* `Filter.strongest`: the directive that a filter itself has for a target;
* `Filter.strongest_insert`: what one more directive does, by the length of its name;
* `Filter.strongest_hold`: what directives of a fixed level do, one after the other;
* `Filter.deciding_of_covers`: a module decides for whatever has no longer name of its own;
* `setup_quietens`: when the installed filter accepts no more than the one asked for, and
  exactly what it accepts if nothing but a level was asked for.
-/

namespace PartyLine

namespace Logging

/-! ## Directives about one target -/

namespace Directive

variable {d e : Directive} {name other target : String}

theorem exists_append_of_isPrefix (h : name.toList <+: target.toList) :
    ∃ more, target = name ++ more := by
  obtain ⟨more, hmore⟩ := h
  refine ⟨String.ofList more, ?_⟩
  rw [← String.toList_inj, String.toList_append, String.toList_ofList, hmore]

/-- Of two beginnings of one text that of fewer bytes begins the other. -/
theorem isPrefix_of_size_le (h : name.toList <+: target.toList)
    (hother : other.toList <+: target.toList) (hle : name.utf8ByteSize ≤ other.utf8ByteSize) :
    name.toList <+: other.toList := by
  rcases List.prefix_or_prefix_of_prefix h hother with hpre | hpre
  · exact hpre
  · -- the name is the other one and more, of which there are no bytes left
    obtain ⟨more, rfl⟩ := exists_append_of_isPrefix hpre
    have hempty : more = "" := by
      rw [String.utf8ByteSize_append] at hle
      exact String.utf8ByteSize_eq_zero_iff.1 (by omega)
    simp [hempty]

theorem covers_some {l : Level} :
    (Directive.mk (some name) l).covers target ↔ name.toList <+: target.toList :=
  List.isPrefixOf_iff_prefix

/-- What is about a target is about all that begins with it. -/
theorem covers_of_isPrefix (h : d.covers name) (hname : name.toList <+: target.toList) :
    d.covers target := by
  obtain ⟨_ | own, l⟩ := d
  · rfl
  · exact covers_some.2 ((covers_some.1 h).trans hname)

/-- A directive about a target is also about a beginning of it, unless its own name is longer. -/
theorem covers_of_size_le (h : d.covers target) (hname : name.toList <+: target.toList)
    (hle : d.size ≤ name.utf8ByteSize) : d.covers name := by
  obtain ⟨_ | own, l⟩ := d
  · rfl
  · exact covers_some.2 (isPrefix_of_size_le (covers_some.1 h) hname hle)

/-- No directive about a target has a longer name than the target. -/
theorem size_le_of_covers (h : d.covers target) : d.size ≤ target.utf8ByteSize := by
  obtain ⟨_ | name, l⟩ := d
  · exact Nat.zero_le _
  · obtain ⟨more, rfl⟩ := exists_append_of_isPrefix (covers_some.1 h)
    rw [String.utf8ByteSize_append]
    exact Nat.le_add_right _ _

/-- Two directives about one target have one name if their names are of one length. -/
theorem target_eq_of_size_eq (hd : d.covers target) (he : e.covers target) (hpos : 0 < d.size)
    (hsize : d.size = e.size) : d.target = e.target := by
  obtain ⟨_ | name, l⟩ := d
  · cases hpos
  · obtain ⟨_ | other, l'⟩ := e
    · rw [hsize] at hpos
      cases hpos
    · have hname := isPrefix_of_size_le (covers_some.1 hd) (covers_some.1 he) (Nat.le_of_eq hsize)
      have hother :=
        isPrefix_of_size_le (covers_some.1 he) (covers_some.1 hd) (Nat.le_of_eq hsize.symm)
      exact congrArg some (String.toList_inj.1
        (hname.eq_of_length_le hother.length_le))

/-- Which of two directives decides, the new one coming last. -/
def overrule (d : Directive) (old : Option Directive) : Directive :=
  old.elim d fun e => if d.size < e.size then e else d

end Directive

/-! ## The directive with the longest name -/

namespace Filter

variable {ds : List Directive} {d e : Directive} {f : Filter} {target : String}

theorem longest_cons (d : Directive) (ds : List Directive) : longest (d :: ds) =
    some ((longest ds).elim d fun e => if e.size < d.size then d else e) := by
  rw [longest]
  cases longest ds with
  | none => rfl
  | some e => exact (apply_ite some _ d e).symm

theorem longest_map {g : Directive → Directive} (hg : ∀ d, (g d).size = d.size)
    (ds : List Directive) : longest (ds.map g) = (longest ds).map g := by
  induction ds with
  | nil => rfl
  | cons d ds ih =>
    rw [List.map_cons, longest_cons, longest_cons, ih]
    cases longest ds with
    | none => rfl
    | some e => simp [hg, apply_ite g]

theorem longest_append_singleton (ds : List Directive) (d : Directive) :
    longest (ds ++ [d]) = some (d.overrule (longest ds)) := by
  induction ds with
  | nil => rfl
  | cons x ds ih =>
    rw [List.cons_append, longest_cons, longest_cons, ih]
    cases longest ds with
    | none => rfl
    | some e =>
      simp only [Directive.overrule, Option.elim_some]
      grind

/-- The longest is one of the directives, and none is longer. -/
theorem longest_spec (h : longest ds = some d) : d ∈ ds ∧ ∀ e ∈ ds, e.size ≤ d.size := by
  induction ds generalizing d with
  | nil => cases h
  | cons x ds ih =>
    rw [longest_cons] at h
    obtain rfl := Option.some.inj h
    cases hrest : longest ds with
    | none =>
      have hnil : ds = [] := by
        cases ds with
        | nil => rfl
        | cons y ys => rw [longest_cons] at hrest; cases hrest
      simp [hnil]
    | some y =>
      obtain ⟨hmem, hle⟩ := ih hrest
      simp only [Option.elim_some]
      split
      · refine ⟨List.mem_cons_self, List.forall_mem_cons.2 ⟨Nat.le_refl _, fun e he => ?_⟩⟩
        have := hle e he
        omega
      · exact ⟨List.mem_cons_of_mem _ hmem, List.forall_mem_cons.2 ⟨by omega, hle⟩⟩

theorem exists_longest (h : d ∈ ds) : ∃ e, longest ds = some e ∧ d.size ≤ e.size := by
  obtain ⟨x, ds, rfl⟩ := List.exists_cons_of_ne_nil (List.ne_nil_of_mem h)
  exact ⟨_, longest_cons x ds, (longest_spec (longest_cons x ds)).2 d h⟩

/-- The directive that a filter itself has for a target. -/
def strongest (f : Filter) (target : String) : Option Directive :=
  longest (f.directives.filter (·.covers target))

theorem exists_strongest (hmem : d ∈ f.directives) (hcovers : d.covers target) :
    ∃ e, f.strongest target = some e ∧ d.size ≤ e.size :=
  exists_longest (List.mem_filter.2 ⟨hmem, hcovers⟩)

theorem covers_of_strongest (h : f.strongest target = some d) : d.covers target :=
  (List.mem_filter.1 (longest_spec h).1).2

theorem deciding_eq_strongest (hf : f.directives ≠ []) (target : String) :
    f.deciding target = f.strongest target := by
  rw [deciding, effective, if_neg (by simpa using hf), strongest]

theorem directives_insert_ne_nil (f : Filter) (d : Directive) : (f.insert d).directives ≠ [] := by
  rw [insert]
  split
  · next h =>
    obtain ⟨old, hold, -⟩ := List.any_eq_true.1 h
    simpa using List.ne_nil_of_mem hold
  · simp

/-- Directives keep their places if only their levels change. -/
theorem strongest_map {g : Directive → Directive} (hg : ∀ d, (g d).target = d.target)
    (ds : List Directive) (target : String) :
    (Filter.mk (ds.map g)).strongest target = ((Filter.mk ds).strongest target).map g := by
  have hcovers : (fun d : Directive => d.covers target) ∘ g = (·.covers target) := by
    funext d
    simp only [Function.comp, Directive.covers, hg]
  have hsize (d : Directive) : (g d).size = d.size := by simp only [Directive.size, hg]
  rw [strongest, strongest, List.filter_map, hcovers, longest_map hsize]

/-- One more directive decides about its targets, unless one with a longer name does. -/
theorem strongest_insert (f : Filter) (hpos : 0 < d.size) (target : String) :
    (f.insert d).strongest target =
      if d.covers target then some (d.overrule (f.strongest target))
      else f.strongest target := by
  rw [insert]
  split
  · next h =>
    -- the directive is put in the place of those of its name
    rw [strongest_map (fun e => by by_cases heq : e.target = d.target <;> simp [heq])]
    obtain ⟨old, hmem, heq⟩ := List.any_eq_true.1 h
    rw [beq_iff_eq] at heq
    split
    · next hd =>
      obtain ⟨e, he, hle⟩ := exists_strongest hmem (by rwa [Directive.covers, heq])
      have hsize : d.size = old.size := by simp only [Directive.size, heq]
      rw [he]
      by_cases hname : e.target = d.target
      · simp [hname, Directive.overrule, Directive.size]
      · have hne : d.size ≠ e.size := fun hsize =>
          hname (Directive.target_eq_of_size_eq hd (covers_of_strongest he) hpos hsize).symm
        have hlt : d.size < e.size := by omega
        simp [hname, hlt, Directive.overrule]
    · next hd =>
      cases he : f.strongest target with
      | none => rfl
      | some e =>
        have hname : e.target ≠ d.target := fun hname =>
          hd (by simpa only [Directive.covers, hname] using covers_of_strongest he)
        simp [hname]
  · rw [strongest, List.filter_append]
    split
    · next hd => simp only [List.filter_cons, hd, if_true, List.filter_nil,
        longest_append_singleton, strongest]
    · next hd => simp [hd, strongest]

/-! ## Directives of a fixed level -/

/-- The directive that holds a module at `INFO`. -/
def held (module : String) : Directive := ⟨some module, .info⟩

/-- The filter with some modules held at `INFO`. -/
def hold (f : Filter) (modules : List String) : Filter :=
  modules.foldl (fun f m => f.insert (held m)) f

variable {modules : List String} {m : String}

theorem held_size_pos (hm : m ≠ "") : 0 < (held m).size :=
  Nat.pos_of_ne_zero fun h => hm (String.utf8ByteSize_eq_zero_iff.1 h)

theorem directives_hold_ne_nil (hne : modules ≠ []) (f : Filter) :
    (f.hold modules).directives ≠ [] := by
  induction modules generalizing f with
  | nil => exact absurd rfl hne
  | cons m modules ih =>
    cases modules with
    | nil => exact directives_insert_ne_nil f (held m)
    | cons m' modules => exact ih (by simp) (f.insert (held m))

/-- About a target a filter that holds modules decides as before, or one of the modules decides
    and no directive from before has a longer name. -/
theorem strongest_hold (hmodules : ∀ m ∈ modules, m ≠ "")
    (h : (f.hold modules).strongest target = some d) :
    f.strongest target = some d ∨ ∃ m ∈ modules, d = held m ∧ d.covers target ∧
      ∀ e, f.strongest target = some e → e.size ≤ d.size := by
  induction modules generalizing f with
  | nil => exact .inl h
  | cons m modules ih =>
    obtain ⟨hm, hrest⟩ := List.forall_mem_cons.1 hmodules
    have hinsert := strongest_insert f (held_size_pos hm) target
    rcases ih (f := f.insert (held m)) hrest h with hd | ⟨m', hm', rfl, hcovers, hle⟩
    · rw [hinsert] at hd
      split at hd
      · next hcovers =>
        cases he : f.strongest target with
        | none =>
          rw [he] at hd
          exact .inr ⟨m, List.mem_cons_self, (Option.some.inj hd).symm,
            Option.some.inj hd ▸ hcovers, fun _ h => nomatch h⟩
        | some e =>
          simp only [he, Directive.overrule, Option.elim_some, Option.some.injEq] at hd
          split at hd
          · exact .inl (congrArg some hd)
          · subst hd
            refine .inr ⟨m, List.mem_cons_self, rfl, hcovers, ?_⟩
            rintro _ ⟨⟩
            omega
      · exact .inl hd
    · refine .inr ⟨m', List.mem_cons_of_mem _ hm', rfl, hcovers, fun e he => ?_⟩
      -- what was the strongest before the first module is no longer than what is after it
      rw [hinsert] at hle
      split at hle
      · have := hle _ rfl
        rw [he, Directive.overrule, Option.elim_some] at this
        split at this <;> omega
      · exact hle e he

/-- A module that is held stays so. -/
theorem strongest_hold_of_held (hmodules : ∀ m ∈ modules, m ≠ "")
    (h : f.strongest m = some (held m)) : (f.hold modules).strongest m = some (held m) := by
  induction modules generalizing f with
  | nil => exact h
  | cons m' modules ih =>
    obtain ⟨hm', hrest⟩ := List.forall_mem_cons.1 hmodules
    refine ih (f := f.insert (held m')) hrest ?_
    rw [strongest_insert f (held_size_pos hm'), h]
    split
    · next hcovers =>
      simp only [Directive.overrule, Option.elim_some]
      split
      · rfl
      · next hlt =>
        have hle : (held m').size ≤ (held m).size := Directive.size_le_of_covers hcovers
        have hname := Directive.target_eq_of_size_eq hcovers (covers_of_strongest h)
          (held_size_pos hm') (Nat.le_antisymm hle (Nat.le_of_not_lt hlt))
        rw [show m' = m from Option.some.inj hname]
    · rfl

/-- A module that is held decides about itself. -/
theorem strongest_hold_self (hmodules : ∀ m ∈ modules, m ≠ "") (hm : m ∈ modules) (f : Filter) :
    (f.hold modules).strongest m = some (held m) := by
  induction modules generalizing f with
  | nil => cases hm
  | cons m' modules ih =>
    obtain ⟨hm', hrest⟩ := List.forall_mem_cons.1 hmodules
    rcases List.mem_cons.1 hm with rfl | hm
    · refine strongest_hold_of_held (f := f.insert (held m)) hrest ?_
      have hself : (held m).covers m := Directive.covers_some.2 List.prefix_rfl
      rw [strongest_insert f (held_size_pos hm'), if_pos hself]
      cases he : f.strongest m with
      | none => rfl
      | some e =>
        have hle : e.size ≤ (held m).size := Directive.size_le_of_covers (covers_of_strongest he)
        simp [Directive.overrule, Nat.not_lt.2 hle]
    · exact ih hrest hm _

/-- Where one directive is for all targets, those about modules only set their levels. -/
theorem level_strongest_hold (hmodules : ∀ m ∈ modules, m ≠ "")
    (h : f.strongest target = some e) (he : e.size = 0 ∨ e.level = .info) :
    ∃ d, (f.hold modules).strongest target = some d ∧
      d.level = if modules.any fun m => m.toList.isPrefixOf target.toList then .info
        else e.level := by
  induction modules generalizing f e with
  | nil => exact ⟨e, h, rfl⟩
  | cons m modules ih =>
    obtain ⟨hm, hrest⟩ := List.forall_mem_cons.1 hmodules
    have hpos := held_size_pos hm
    have hinsert := strongest_insert f hpos target
    rw [h] at hinsert
    split at hinsert
    · next hcovers =>
      have hlevel : ((held m).overrule (some e)).level = .info := by
        simp only [Directive.overrule, Option.elim_some]
        split
        · exact he.resolve_left (by omega)
        · rfl
      obtain ⟨d, hd, hdlevel⟩ := ih (f := f.insert (held m)) hrest hinsert (.inr hlevel)
      have hbegins : m.toList.isPrefixOf target.toList := hcovers
      exact ⟨d, hd, by simpa [hlevel, hbegins] using hdlevel⟩
    · next hcovers =>
      obtain ⟨d, hd, hdlevel⟩ := ih (f := f.insert (held m)) hrest hinsert he
      have hbegins : m.toList.isPrefixOf target.toList = false := Bool.not_eq_true _ ▸ hcovers
      exact ⟨d, hd, by simpa [hbegins] using hdlevel⟩

/-! ## What is accepted -/

theorem accepts_iff {level : Level} : f.accepts target level ↔
    ∃ d, f.deciding target = some d ∧ level.rank ≤ d.level.rank := by
  rw [accepts]
  cases f.deciding target <;> simp

/-- A target about which nothing longer is said than the name of its module is decided like the
    module. -/
theorem deciding_of_covers (hm : m.toList <+: target.toList)
    (hle : ∀ e, f.deciding target = some e → e.size ≤ m.utf8ByteSize) :
    f.deciding target = f.deciding m := by
  refine congrArg longest
    (List.filter_congr fun d hd => Bool.eq_iff_iff.2 ⟨fun h => ?_, fun h => ?_⟩)
  · have hmem : d ∈ f.effective.filter (·.covers target) := List.mem_filter.2 ⟨hd, h⟩
    obtain ⟨e, he, hde⟩ := exists_longest hmem
    exact Directive.covers_of_size_le h hm (Nat.le_trans hde (hle e he))
  · exact Directive.covers_of_isPrefix h hm

/-- A filter of its own directives decides by them; one without any has none for its targets. -/
theorem deciding_or_strongest_none (f : Filter) (target : String) :
    f.deciding target = f.strongest target ∨
      f.deciding target = some ⟨none, .error⟩ ∧ f.strongest target = none := by
  by_cases hf : f.directives = []
  · refine .inr ⟨?_, ?_⟩
    · rw [deciding, effective, hf]
      rfl
    · rw [strongest, hf]
      rfl
  · exact .inl (deciding_eq_strongest hf target)

/-- A filter that holds modules accepts a record if the filter did before, or one of the
    modules decides about it as it decides about itself. -/
theorem accepts_hold {level : Level} (hne : modules ≠ []) (hmodules : ∀ m ∈ modules, m ≠ "")
    (h : (f.hold modules).accepts target level) :
    f.accepts target level ∨
      ∃ m ∈ modules, level.rank ≤ Level.info.rank ∧ f.deciding target = f.deciding m := by
  obtain ⟨d, hd, hlevel⟩ := accepts_iff.1 h
  rw [deciding_eq_strongest (directives_hold_ne_nil hne f)] at hd
  have hdefault := deciding_or_strongest_none f target
  rcases strongest_hold hmodules hd with hf | ⟨m, hm, rfl, hcovers, hle⟩
  · rcases hdefault with heq | ⟨-, hnone⟩
    · exact .inl (accepts_iff.2 ⟨d, heq.trans hf, hlevel⟩)
    · cases hnone.symm.trans hf
  · refine .inr ⟨m, hm, hlevel, deciding_of_covers (Directive.covers_some.1 hcovers) fun e he => ?_⟩
    rcases hdefault with heq | ⟨hdefault, -⟩
    · exact hle e (heq ▸ he)
    · obtain rfl := Option.some.inj (hdefault.symm.trans he)
      exact Nat.zero_le _

/-- To hold modules makes a filter accept no more than before if it accepted their `INFO`
    records before, and otherwise it makes it accept these. -/
theorem accepts_hold_iff (hne : modules ≠ []) (hmodules : ∀ m ∈ modules, m ≠ "") (f : Filter) :
    (∀ target level, (f.hold modules).accepts target level → f.accepts target level) ↔
      ∀ m ∈ modules, f.accepts m .info := by
  constructor
  · intro h m hm
    refine h m .info (accepts_iff.2 ⟨held m, ?_, Nat.le_refl _⟩)
    rw [deciding_eq_strongest (directives_hold_ne_nil hne f)]
    exact strongest_hold_self hmodules hm f
  · intro h target level haccepts
    rcases accepts_hold hne hmodules haccepts with hf | ⟨m, hm, hlevel, hdeciding⟩
    · exact hf
    · obtain ⟨d, hd, hinfo⟩ := accepts_iff.1 (h m hm)
      exact accepts_iff.2 ⟨d, hdeciding.trans hd, Nat.le_trans hlevel hinfo⟩

/-! ## The greatest level -/

theorem rank_max (a b : Level) : (a.max b).rank = Max.max a.rank b.rank := by
  rw [Level.max]
  split <;> omega

theorem rank_maxLevel_le {n : Nat} :
    f.maxLevel.rank ≤ n ↔ ∀ d ∈ f.effective, d.level.rank ≤ n := by
  have hfold (ds : List Directive) (l : Level) :
      (ds.foldl (fun l d => l.max d.level) l).rank ≤ n ↔
        l.rank ≤ n ∧ ∀ d ∈ ds, d.level.rank ≤ n := by
    induction ds generalizing l with
    | nil => simp
    | cons d ds ih =>
      rw [List.foldl_cons, ih, rank_max, List.forall_mem_cons, Nat.max_le, and_assoc]
  rw [maxLevel, hfold]
  simp [Level.rank]

theorem mem_insert (h : e ∈ (f.insert d).directives) : e = d ∨ e ∈ f.directives := by
  rw [insert] at h
  split at h
  · obtain ⟨old, hold, rfl⟩ := List.mem_map.1 h
    split
    · exact .inl rfl
    · exact .inr hold
  · simpa [or_comm] using h

theorem mem_hold (h : e ∈ (f.hold modules).directives) :
    (∃ m ∈ modules, e = held m) ∨ e ∈ f.directives := by
  induction modules generalizing f with
  | nil => exact .inr h
  | cons m modules ih =>
    rcases ih (f := f.insert (held m)) h with ⟨m', hm', rfl⟩ | hmem
    · exact .inl ⟨m', List.mem_cons_of_mem _ hm', rfl⟩
    · exact (mem_insert hmem).imp_left fun h => ⟨m, List.mem_cons_self, h⟩

theorem rank_maxLevel_hold_le (hne : modules ≠ []) (h : ∀ m ∈ modules, f.accepts m .info) :
    (f.hold modules).maxLevel.rank ≤ f.maxLevel.rank := by
  have hle := rank_maxLevel_le.1 (Nat.le_refl f.maxLevel.rank)
  refine rank_maxLevel_le.2 fun d hd => ?_
  rw [effective, if_neg (by simpa using directives_hold_ne_nil hne f)] at hd
  rcases mem_hold hd with ⟨m, hm, rfl⟩ | hmem
  · obtain ⟨e, he, hinfo⟩ := accepts_iff.1 (h m hm)
    exact Nat.le_trans hinfo (hle e (List.mem_filter.1 (longest_spec he).1).1)
  · refine hle d ?_
    rw [effective, if_neg (by simpa using List.ne_nil_of_mem hmem)]
    exact hmem

end Filter

/-! ## The installed filter -/

/-- The level that a text asks for. -/
def asked (level : String) : Level := (Level.ofName? level).getD .info

theorem requested_none (level : String) : requested level none = ⟨[⟨none, asked level⟩]⟩ := by
  show Filter.parse (asked level).name = _
  cases asked level <;> decide +kernel

theorem setup_eq_hold (level : String) (override : Option String) :
    setup level override = (requested level override).hold fixedModules := rfl

/-- The level of a target if nothing but a level was asked for. -/
def levelOf (level target : String) : Level :=
  if fixedModules.any fun m => m.toList.isPrefixOf target.toList then .info else asked level

theorem fixedModules_ne_empty : ∀ m ∈ fixedModules, m ≠ "" := by decide

/-- Without a text of directives the fixed modules are at `INFO` and all else at the level that
    was asked for. -/
theorem accepts_setup_none (level target : String) (record : Level) :
    (setup level none).accepts target record ↔ record.rank ≤ (levelOf level target).rank := by
  have hasked : (requested level none).strongest target = some ⟨none, asked level⟩ := by
    rw [requested_none]
    rfl
  obtain ⟨d, hd, hlevel⟩ := Filter.level_strongest_hold fixedModules_ne_empty hasked (.inl rfl)
  rw [← Filter.deciding_eq_strongest (Filter.directives_hold_ne_nil (by decide) _)] at hd
  rw [setup_eq_hold, Filter.accepts_iff, levelOf, ← hlevel, hd]
  simp

theorem maxLevel_setup_none (level : String) :
    (setup level none).maxLevel = (asked level).max .info := by
  rw [setup_eq_hold, requested_none]
  cases asked level <;> rfl

theorem levelOf_rank_le {level : String} (h : Level.info.rank ≤ (asked level).rank)
    (target : String) : (levelOf level target).rank ≤ (asked level).rank := by
  rw [levelOf]
  split
  · exact h
  · exact Nat.le_refl _

/-- The installed filter accepts only what the one that was asked for accepts if that one lets
    the `INFO` records of the fixed modules pass, and only then; its greatest level is then no
    greater. Without a text of directives the fixed modules are at `INFO` and all else at the
    level asked for, so that from `INFO` on nothing above that level is accepted. -/
theorem setup_quietens (level : String) (override : Option String) :
    ((∀ target record, (setup level override).accepts target record →
        (requested level override).accepts target record) ↔
      ∀ m ∈ fixedModules, (requested level override).accepts m .info) ∧
    ((∀ m ∈ fixedModules, (requested level override).accepts m .info) →
      (setup level override).maxLevel.rank ≤ (requested level override).maxLevel.rank) ∧
    (∀ target record, (setup level none).accepts target record ↔
      record.rank ≤ (levelOf level target).rank) ∧
    (setup level none).maxLevel = (asked level).max .info ∧
    (Level.info.rank ≤ (asked level).rank →
      (∀ target record, (setup level none).accepts target record →
        record.rank ≤ (asked level).rank) ∧
      (setup level none).maxLevel.rank ≤ (asked level).rank) := by
  have hne : fixedModules ≠ [] := by decide
  refine ⟨Filter.accepts_hold_iff hne fixedModules_ne_empty _, Filter.rank_maxLevel_hold_le hne,
    accepts_setup_none level, maxLevel_setup_none level, fun hinfo => ⟨?_, ?_⟩⟩
  · intro target record haccepts
    exact Nat.le_trans ((accepts_setup_none level target record).1 haccepts)
      (levelOf_rank_le hinfo target)
  · rw [maxLevel_setup_none, Filter.rank_max]
    exact Nat.max_le.2 ⟨Nat.le_refl _, hinfo⟩

/-- Directives that let the `INFO` records of the fixed modules pass, and of one of them more,
    while all else is at `WARN`. -/
def selective : Option String := some "warn,tungstenite=debug,tokio_tungstenite=info,rustls=info"

theorem setup_quietens_selective :
    (∀ m ∈ fixedModules, (requested "error" selective).accepts m .info) ∧
    (∀ target record, (setup "error" selective).accepts target record →
      (requested "error" selective).accepts target record) ∧
    (setup "error" selective).maxLevel.rank ≤ (requested "error" selective).maxLevel.rank ∧
    Level.info.rank ≤ (asked "Debug").rank ∧ (setup "Debug" none).maxLevel.rank ≤ 4 := by
  have hinfo : ∀ m ∈ fixedModules, (requested "error" selective).accepts m .info := by
    decide +kernel
  have hasked : Level.info.rank ≤ (asked "Debug").rank := by decide +kernel
  obtain ⟨haccepts, hmax, -⟩ := setup_quietens "error" selective
  obtain ⟨-, -, -, -, hlevel⟩ := setup_quietens "Debug" none
  exact ⟨hinfo, haccepts.2 hinfo, hmax hinfo, hasked, (hlevel hasked).2⟩

/-- A level below `INFO` is raised to it for the fixed modules. -/
theorem not_setup_quietens : ¬∀ level override target record,
    (setup level override).accepts target record →
      (requested level override).accepts target record := by
  intro h
  have hwarn : (setup "warn" none).accepts "tungstenite" .info := by decide +kernel
  exact absurd (h "warn" none "tungstenite" .info hwarn) (by decide +kernel)

end Logging

end PartyLine
