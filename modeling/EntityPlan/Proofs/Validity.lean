import EntityPlan.Proofs.Building
import EntityPlan.Proofs.PackageNames
import EntityPlan.Run

/-! # Validity — the settings that a run can rely on

    Four conditions make settings valid, and each is stated of the texts alone: a level
    is named, the base package is written in segments, and neither the default module nor
    the target of an override is blank.  Validation looks at them in this order, and fails
    with the fault of the first that does not hold; of several overrides that is the least
    in byte order of the types (`Settings.validate_accepts_valid`). -/

namespace EntityPlan

/-! ## Names of levels -/

namespace LogLevel

/-- The characters are the same, or they are one letter of ASCII in its two cases. -/
def SameLetter (c d : Char) : Prop :=
  c = d ∨ c.isUpper = true ∧ d.toNat = c.toNat + 32 ∨ d.isUpper = true ∧ c.toNat = d.toNat + 32

/-- The names of levels, of which one has two. -/
def names : List String := ["trace", "debug", "info", "warn", "warning", "error", "off"]

/-- The text is a name of a level, from its first to its last character, in any case. -/
def Named (s : String) : Prop :=
  ∃ name ∈ names, List.Forall₂ SameLetter s.toList name.toList

variable {c d : Char} {cs ds : List Char} {s name : String}

theorem toLower_eq_iff (hd : d.isUpper = false) : c.toLower = d ↔ SameLetter c d := by
  unfold SameLetter
  rw [hd]
  cases hc : c.isUpper with
  | false =>
      rw [Char.toLower_eq_of_not_isUpper (Bool.eq_false_iff.mp hc)]
      simp
  | true =>
      have hcode := Text.isUpper_iff.mp hc
      have hvalid : (c.toNat + 32).isValidChar := Or.inl (by omega)
      have himage : c.toLower.toNat = c.toNat + 32 := by
        rw [Char.toLower_eq_of_isUpper hc, Char.toNat_ofNat, if_pos hvalid]
      have hne : c ≠ d := by
        rintro rfl
        exact nomatch hc.symm.trans hd
      rw [← Char.toNat_inj, himage]
      simp [hne, eq_comm]

/-- Against a text without capitals, lowering decides whether only the case is different. -/
theorem map_toLower_eq_iff (h : ∀ d ∈ ds, d.isUpper = false) :
    cs.map Char.toLower = ds ↔ List.Forall₂ SameLetter cs ds := by
  induction cs generalizing ds with
  | nil => rw [List.map_nil, List.forall₂_nil_left_iff, eq_comm]
  | cons c rest ih =>
      cases ds with
      | nil =>
          constructor
          · intro h
            exact nomatch h
          · intro h
            exact nomatch h
      | cons d ds =>
          obtain ⟨hd, hds⟩ := List.forall_mem_cons.mp h
          rw [List.map_cons, List.cons.injEq, List.forall₂_cons, toLower_eq_iff hd, ih hds]

theorem asciiLower_mem_names : asciiLower s ∈ names ↔ Named s := by
  have hsmall : ∀ name ∈ names, ∀ d ∈ name.toList, d.isUpper = false := by simp [names]
  constructor
  · intro h
    refine ⟨asciiLower s, h, (map_toLower_eq_iff (hsmall _ h)).mp ?_⟩
    rw [asciiLower, String.toList_ofList]
  · rintro ⟨name, hname, hsame⟩
    have hlower : asciiLower s = name := by
      rw [asciiLower, (map_toLower_eq_iff (hsmall name hname)).mpr hsame, String.ofList_toList]
    rwa [hlower]

/-- A text that names no level is a fault, told with the text in lower case. -/
theorem ofName_eq_error_iff {f : Failure} :
    ofName s = .error f ↔ ¬ Named s ∧ .settings (.unknownLevel (asciiLower s)) = f := by
  have hnames : spellings.map (·.1) = names := rfl
  rw [← asciiLower_mem_names, ← hnames]
  unfold ofName
  cases h : spellings.lookup (asciiLower s) with
  | some level =>
      obtain ⟨before, after, hrows, -⟩ := List.lookup_eq_some_iff.mp h
      have hmem : asciiLower s ∈ spellings.map (·.1) := by
        rw [hrows]
        simp
      constructor
      · intro h
        exact nomatch h
      · intro h
        exact absurd hmem h.1
  | none =>
      have hmem : asciiLower s ∉ spellings.map (·.1) := by
        intro hmem
        obtain ⟨r, hr, hname⟩ := List.mem_map.mp hmem
        have hne := List.lookup_eq_none_iff.mp h r hr
        rw [hname] at hne
        simp at hne
      show Except.error _ = Except.error f ↔ _
      rw [Except.error.injEq, and_iff_right hmem]

end LogLevel

/-! ## The least of some rows -/

namespace SortedMap

variable {α : Type}

/-- The first row that has a property is the least of those that have it. -/
theorem find?_eq_some_iff_least {m : SortedMap α} {p : String × α → Bool} {r : String × α} :
    m.rows.find? p = some r ↔
      r ∈ m.rows ∧ p r = true ∧ ∀ q ∈ m.rows, p q = true → q = r ∨ Text.Before r.1 q.1 := by
  -- what is found is the least one, and there is no other
  have hleast : ∀ {r}, m.rows.find? p = some r →
      ∀ q ∈ m.rows, p q = true → q = r ∨ Text.Before r.1 q.1 := by
    intro r h q hq hp
    obtain ⟨-, before, after, hrows, hbefore⟩ := List.find?_eq_some_iff_append.mp h
    have hascending : Ascending (before ++ r :: after) := hrows ▸ m.ascending
    rw [hrows] at hq
    rcases List.mem_append.mp hq with hq | hq
    · have hnot := hbefore q hq
      rw [hp] at hnot
      exact nomatch hnot
    · rcases List.mem_cons.mp hq with rfl | hq
      · exact Or.inl rfl
      · obtain ⟨-, hrest, -⟩ := List.pairwise_append.mp hascending
        exact Or.inr ((List.pairwise_cons.mp hrest).1 q hq)
  constructor
  · intro h
    exact ⟨List.mem_of_find?_eq_some h, List.find?_some h, hleast h⟩
  · rintro ⟨hr, hp, hfirst⟩
    cases h : m.rows.find? p with
    | none => exact absurd hp (List.find?_eq_none.mp h r hr)
    | some q =>
        rcases hfirst q (List.mem_of_find?_eq_some h) (List.find?_some h) with rfl | hrq
        · rfl
        · rcases hleast h r hr hp with rfl | hqr
          · rfl
          · exact absurd hqr (Text.before_asymm hrq)

end SortedMap

/-! ## Conditions -/

namespace Settings

/-- Every character of the text is a blank one, if it has any. -/
def Blank (text : String) : Prop := ∀ c ∈ text.toList, Text.isBlank c = true

/-- The conditions on settings. -/
structure Valid (s : Settings) : Prop where
  level : LogLevel.Named s.logLevel
  basePackage : ∃ parts, Segments s.generation.basePackage parts
  defaultModule : ∃ c ∈ s.generation.defaultModule.toList, Text.isBlank c = false
  targets : ∀ type o, (type, o) ∈ s.types.rows → ∃ c ∈ o.target.toList, Text.isBlank c = false

/-- `Breaks s n f` says that condition `n` does not hold and that this is the failure `f`. -/
inductive Breaks (s : Settings) : Nat → Failure → Prop
  | level : ¬ LogLevel.Named s.logLevel →
      Breaks s 1 (.settings (.unknownLevel (LogLevel.asciiLower s.logLevel)))
  | basePackage : (¬ ∃ parts, Segments s.generation.basePackage parts) →
      Breaks s 2 (.settings (.packageName s.generation.basePackage))
  | defaultModule : Blank s.generation.defaultModule → Breaks s 3 (.settings .noDefaultModule)
  /-- of the overrides without a target it is the one with the least type -/
  | target {type : String} {o : TypeOverride} : (type, o) ∈ s.types.rows → Blank o.target →
      (∀ type' o', (type', o') ∈ s.types.rows → Blank o'.target →
        type' = type ∨ Text.Before type type') →
      Breaks s 4 (.settings (.noTarget type))

variable {s : Settings} {n : Nat} {f : Failure}

theorem Breaks.bounds (h : s.Breaks n f) : 1 ≤ n ∧ n < 5 := by
  cases h <;> decide

theorem allBlank_iff {text : String} : Text.allBlank text = true ↔ Blank text :=
  List.all_eq_true

theorem not_blank_iff {text : String} :
    ¬ Blank text ↔ ∃ c ∈ text.toList, Text.isBlank c = false := by
  simp only [Blank, not_forall, exists_prop, Bool.not_eq_true]

theorem blankTarget?_eq_some_iff {type : String} :
    s.blankTarget? = some type ↔
      ∃ o, (type, o) ∈ s.types.rows ∧ Blank o.target ∧
        ∀ type' o', (type', o') ∈ s.types.rows → Blank o'.target →
          type' = type ∨ Text.Before type type' := by
  unfold blankTarget?
  rw [Option.map_eq_some_iff]
  simp only [SortedMap.find?_eq_some_iff_least, allBlank_iff]
  constructor
  · rintro ⟨⟨_, o⟩, ⟨hrow, hblank, hleast⟩, rfl⟩
    refine ⟨o, hrow, hblank, ?_⟩
    intro type' o' hrow' hblank'
    exact (hleast _ hrow' hblank').imp_left (congrArg Prod.fst)
  · rintro ⟨o, hrow, hblank, hleast⟩
    refine ⟨(type, o), ⟨hrow, hblank, ?_⟩, rfl⟩
    rintro ⟨type', o'⟩ hrow' hblank'
    refine (hleast type' o' hrow' hblank').imp_left ?_
    rintro rfl
    -- each type has one row
    have hsame : some o' = some o :=
      ((SortedMap.lookup_eq_some_iff s.types.nodup_keys).mpr hrow').symm.trans
        ((SortedMap.lookup_eq_some_iff s.types.nodup_keys).mpr hrow)
    rw [Option.some.inj hsame]

/-! ## Validation -/

theorem validate_eq (s : Settings) :
    s.validate = (do
      let _ ← LogLevel.ofName s.logLevel
      refuse (if isPackageName s.generation.basePackage then none
        else some (.settings (.packageName s.generation.basePackage)))
      refuse (if Text.allBlank s.generation.defaultModule then some (.settings .noDefaultModule)
        else none)
      refuse (s.blankTarget?.map fun type => .settings (.noTarget type))) := by
  unfold validate
  cases LogLevel.ofName s.logLevel with
  | error f => rfl
  | ok level =>
      cases isPackageName s.generation.basePackage with
      | false => rfl
      | true =>
          cases Text.allBlank s.generation.defaultModule with
          | true => rfl
          | false => cases s.blankTarget? <;> rfl

/-- Validation fails with the first condition that does not hold. -/
theorem validate_enforces (s : Settings) : Enforces s.Breaks 1 5 s.validate := by
  rw [validate_eq]
  refine Enforces.bind (by decide) (by decide) (Enforces.single ?_) fun _ _ => ?package
  · intro f
    rw [LogLevel.ofName_eq_error_iff]
    constructor
    · rintro ⟨h, rfl⟩
      exact .level h
    · intro h
      cases h with
      | level h => exact ⟨h, rfl⟩
  refine Enforces.bind (by decide) (by decide) (Enforces.single ?_) fun _ _ => ?module
  · intro f
    rw [refuse_eq_error_iff, Option.ite_none_left_eq_some, Option.some_inj, isPackageName_iff]
    constructor
    · rintro ⟨h, rfl⟩
      exact .basePackage h
    · intro h
      cases h with
      | basePackage h => exact ⟨h, rfl⟩
  refine Enforces.bind (by decide) (by decide) (Enforces.single ?_) fun _ _ => Enforces.single ?_
  · intro f
    rw [refuse_eq_error_iff, Option.ite_none_right_eq_some, Option.some_inj, allBlank_iff]
    constructor
    · rintro ⟨h, rfl⟩
      exact .defaultModule h
    · intro h
      cases h with
      | defaultModule h => exact ⟨h, rfl⟩
  · intro f
    rw [refuse_eq_error_iff, Option.map_eq_some_iff]
    simp only [blankTarget?_eq_some_iff]
    constructor
    · rintro ⟨type, ⟨o, hrow, hblank, hleast⟩, rfl⟩
      exact .target hrow hblank hleast
    · intro h
      cases h with
      | target hrow hblank hleast => exact ⟨_, ⟨_, hrow, hblank, hleast⟩, rfl⟩

/-- Settings are valid when they break no condition. -/
theorem valid_iff_not_breaks : s.Valid ↔ ∀ n f, ¬ s.Breaks n f := by
  constructor
  · intro h n f hbreaks
    cases hbreaks with
    | level hlevel => exact hlevel h.level
    | basePackage hpackage => exact hpackage h.basePackage
    | defaultModule hblank => exact not_blank_iff.mpr h.defaultModule hblank
    | target hrow hblank _ => exact not_blank_iff.mpr (h.targets _ _ hrow) hblank
  · intro h
    constructor
    case level =>
      by_contra hlevel
      exact h 1 _ (.level hlevel)
    case basePackage =>
      by_contra hpackage
      exact h 2 _ (.basePackage hpackage)
    case defaultModule =>
      rw [← not_blank_iff]
      intro hblank
      exact h 3 _ (.defaultModule hblank)
    case targets =>
      intro type o hrow
      rw [← not_blank_iff]
      intro hblank
      -- where some target is blank there is a first such row
      cases hfirst : s.blankTarget? with
      | some type' =>
          obtain ⟨o', hrow', hblank', hleast⟩ := blankTarget?_eq_some_iff.mp hfirst
          exact h 4 _ (.target hrow' hblank' hleast)
      | none =>
          have hnone := List.find?_eq_none.mp (Option.map_eq_none_iff.mp hfirst) _ hrow
          exact hnone (allBlank_iff.mpr hblank)

/-- Validation accepts the valid settings and no others, which fail for the first condition that
    they break; and by valid settings, the model of an entity that is named by an identifier has a
    package name with one segment more than the base package. -/
theorem validate_accepts_valid (s : Settings) :
    (s.validate = .ok () ↔ s.Valid) ∧
      (∀ f, s.validate = .error f ↔
        ∃ n, s.Breaks n f ∧ ∀ m < n, ∀ g, ¬ s.Breaks m g) ∧
      (s.validate = .ok () → ∀ e m, ((Run.rules s).entityModel e).answer = .ok m →
        IsIdentifier e.name →
          isPackageName m.packageName = true ∧
            Text.split '.' m.packageName =
              Text.split '.' s.generation.basePackage ++ [Text.lower e.name]) := by
  have henforces := s.validate_enforces
  have hvalid : s.validate = .ok () ↔ s.Valid := by
    have hunit : s.validate = .ok () ↔ ∃ u, s.validate = .ok u :=
      ⟨fun h => ⟨(), h⟩, fun ⟨_, h⟩ => h⟩
    rw [hunit, henforces.exists_ok_iff, valid_iff_not_breaks]
    exact ⟨fun h n f hf => h n hf.bounds.1 hf.bounds.2 f hf, fun h n _ _ f => h n f⟩
  refine ⟨hvalid, ?_, ?_⟩
  · intro f
    rw [henforces f]
    refine exists_congr fun n => ?_
    constructor
    · rintro ⟨-, -, hf, hbefore⟩
      exact ⟨hf, fun m hm g hg => hbefore m hg.bounds.1 hm g hg⟩
    · rintro ⟨hf, hbefore⟩
      exact ⟨hf.bounds.1, hf.bounds.2, hf, fun m _ hm g => hbefore m hm g⟩
  · intro h e m hm hname
    obtain ⟨parts, hparts⟩ := (hvalid.mp h).basePackage
    obtain ⟨c, fields, -, -, rfl⟩ := ModelRules.entityModel_eq_ok_iff.mp hm
    have hbelow : Segments (ModelRules.packageBelow s.generation.basePackage e.name)
        (parts ++ [Text.lower e.name]) := hparts.below hname
    show isPackageName (ModelRules.packageBelow s.generation.basePackage e.name) = true ∧
      Text.split '.' (ModelRules.packageBelow s.generation.basePackage e.name) = _
    rw [← hbelow.eq_split, ← hparts.eq_split]
    exact ⟨isPackageName_iff.mpr ⟨_, hbelow⟩, rfl⟩

/-- A level in mixed case, a package with underscores and digits, and a target behind a blank. -/
def mixed : Settings where
  logLevel := "WarNing"
  generation := { basePackage := "net._x.api2" }
  types := .ofList [("Money", { target := " BigDecimal" })]

theorem validate_accepts_valid_mixed :
    mixed.validate = .ok () ∧
      ∃ m, ((Run.rules mixed).entityModel ⟨"_HTTPLedger2", none, none, [], [], []⟩).answer = .ok m ∧
        IsIdentifier "_HTTPLedger2" ∧ isPackageName m.packageName = true ∧
          Text.split '.' m.packageName = ["net", "_x", "api2", "_httpledger2"] := by
  have hvalid : mixed.validate = .ok () := rfl
  have hname : IsIdentifier "_HTTPLedger2" := isIdentifier_iff.mp rfl
  obtain ⟨m, hm⟩ :
      ∃ m, ((Run.rules mixed).entityModel ⟨"_HTTPLedger2", none, none, [], [], []⟩).answer = .ok m :=
    ⟨_, rfl⟩
  obtain ⟨haccepted, hsplit⟩ := (validate_accepts_valid mixed).2.2 hvalid _ m hm hname
  have hparts : Text.split '.' "net._x.api2" ++ [Text.lower "_HTTPLedger2"] =
      ["net", "_x", "api2", "_httpledger2"] := by decide
  exact ⟨hvalid, m, hm, hname, haccepted, hsplit.trans hparts⟩

end Settings

end EntityPlan
