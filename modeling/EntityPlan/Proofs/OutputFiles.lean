import EntityPlan.Plan.Output
import EntityPlan.Proofs.Paths
import EntityPlan.Proofs.Requirement

/-! # Output files — what the files of a plan are called

    A name that cannot stand as one component of a path is refused, the first one in
    the order of the plan (`Plan.files_eq_error_iff`).  Behind names that can, every
    file of a plan is below the directory of the output (`Plan.below_of_mem_paths`). -/

namespace EntityPlan

/-- The path leads down from another one, and by names alone. -/
def Path.Below (p out : Path) : Prop :=
  ∃ names, names ≠ [] ∧ (∀ name ∈ names, Path.IsName name) ∧
    p.Leads out.isAbsolute (out.components ++ names)

namespace Plan

/-- The path of the file of a context. -/
def contextPath (out : Path) (x : String × EntityModel) : Path :=
  (out.join x.1).join (contextFileName x.2.name)

/-- What the file of a context holds. -/
def contextText (x : String × EntityModel) : String :=
  (TemplateContext.ofModel x.2).encoded.pretty

/-- The paths of all files of a plan, that of the plan itself first. -/
def paths (out : Path) (p : Plan) : List Path :=
  out.join fileName :: p.members.map (contextPath out)

/-- The groups and their entities have names that can stand in a path. -/
def Named (p : Plan) : Prop :=
  ∀ x ∈ p.members, isComponent x.1 = true ∧ isComponent x.2.name = true

/-- The name cannot stand as one component of a path. -/
def Unfit (name : String) : Prop :=
  name = "" ∨ name = "." ∨ name = ".." ∨ '/' ∈ name.toList ∨ '\\' ∈ name.toList

instance (name : String) : Decidable (Unfit name) :=
  inferInstanceAs (Decidable (_ ∨ _))

/-- The group or the entity has a name that cannot stand in a path. -/
def Misnamed (x : String × EntityModel) : Prop := Unfit x.1 ∨ Unfit x.2.name

/-- The refusal of an entity for its name, or for that of its group, which comes first. -/
def refusal (x : String × EntityModel) : Failure :=
  if Unfit x.1 then .malformedRecord "module" x.1 .unusableName
  else .malformedRecord "entity" x.2.name .unusableName

variable {out : Path} {p : Plan} {x : String × EntityModel} {name kind : String} {f : Failure}

/-! ## Names -/

theorem isComponent_iff : isComponent name = true ↔ ¬ Unfit name := by
  simp only [isComponent, Unfit, Bool.and_eq_true, bne_iff_ne, Bool.not_eq_true',
    List.any_eq_false, Bool.or_eq_true, beq_iff_eq, not_or, and_assoc]
  refine and_congr_right fun _ => and_congr_right fun _ => and_congr_right fun _ => ?_
  constructor
  · intro h
    exact ⟨fun hslash => (h '/' hslash).1 rfl, fun hslash => (h '\\' hslash).2 rfl⟩
  · rintro ⟨hslash, hback⟩ c hc
    exact ⟨ne_of_mem_of_not_mem hc hslash, ne_of_mem_of_not_mem hc hback⟩

theorem isName_fileName : Path.IsName fileName := ⟨by decide, by decide, by decide⟩

theorem isName_of_isComponent (h : isComponent name = true) : Path.IsName name := by
  obtain ⟨hempty, hdot, hdots, hslash, -⟩ :
      name ≠ "" ∧ name ≠ "." ∧ name ≠ ".." ∧ '/' ∉ name.toList ∧ '\\' ∉ name.toList := by
    simpa only [Unfit, not_or] using isComponent_iff.mp h
  refine ⟨?_, hdots, hslash⟩
  simp [Path.isVoid, hempty, hdot]

theorem isName_contextFileName (h : isComponent name = true) :
    Path.IsName (contextFileName name) := by
  have hlength : 3 ≤ (contextFileName name).length := by
    rw [contextFileName, String.length_append]
    exact Nat.le_add_left_of_le (by decide)
  refine Path.isName_of_long hlength ?_
  rw [contextFileName, String.toList_append, List.mem_append, not_or]
  exact ⟨(isName_of_isComponent h).plain, by decide⟩

theorem contextFileName_inj {a b : String} : contextFileName a = contextFileName b ↔ a = b := by
  constructor
  · intro h
    rw [contextFileName, contextFileName, ← String.toList_inj, String.toList_append,
      String.toList_append] at h
    exact String.toList_inj.mp (List.append_cancel_right h)
  · exact congrArg contextFileName

/-! ## Files -/

theorem component_eq_ok_iff {n : String} :
    component kind name = .ok n ↔ isComponent name = true ∧ name = n := by
  unfold component
  by_cases h : isComponent name = true
  · rw [if_pos h]
    constructor
    · intro hok
      exact ⟨h, Except.ok.inj hok⟩
    · rintro ⟨-, rfl⟩
      rfl
  · rw [if_neg h]
    constructor
    · intro hok
      exact nomatch hok
    · intro hok
      exact absurd hok.1 h

theorem component_eq_error_iff :
    component kind name = .error f ↔
      Unfit name ∧ f = .malformedRecord kind name .unusableName := by
  unfold component
  by_cases h : isComponent name = true
  · rw [if_pos h]
    exact ⟨fun herror => (nomatch herror), fun hunfit => absurd hunfit.1 (isComponent_iff.mp h)⟩
  · rw [if_neg h, Except.error.injEq, eq_comm]
    exact (and_iff_right (not_not.mp (mt isComponent_iff.mpr h))).symm

theorem contextFile_eq_ok_iff {file : OutputFile} :
    contextFile out x.1 x.2 = .ok file ↔
      (isComponent x.1 = true ∧ isComponent x.2.name = true) ∧
        file = ⟨contextPath out x, contextText x⟩ := by
  unfold contextFile
  constructor
  · intro h
    obtain ⟨directory, hdirectory, h⟩ := bind_eq_ok_iff.mp h
    obtain ⟨name, hname, h⟩ := bind_eq_ok_iff.mp h
    obtain ⟨hgroup, rfl⟩ := component_eq_ok_iff.mp hdirectory
    obtain ⟨hentity, rfl⟩ := component_eq_ok_iff.mp hname
    exact ⟨⟨hgroup, hentity⟩, (Except.ok.inj h).symm⟩
  · rintro ⟨⟨hgroup, hentity⟩, rfl⟩
    rw [component_eq_ok_iff.mpr ⟨hgroup, rfl⟩, component_eq_ok_iff.mpr ⟨hentity, rfl⟩]
    rfl

/-- The name of the group is looked at before that of the entity. -/
theorem contextFile_eq_error_iff :
    contextFile out x.1 x.2 = .error f ↔ Misnamed x ∧ f = refusal x := by
  unfold contextFile Misnamed refusal
  rw [bind_eq_error_iff, component_eq_error_iff]
  by_cases hgroup : Unfit x.1
  · rw [if_pos hgroup]
    constructor
    · rintro (⟨-, hf⟩ | ⟨directory, hok, -⟩)
      · exact ⟨Or.inl hgroup, hf⟩
      · exact absurd hgroup (isComponent_iff.mp (component_eq_ok_iff.mp hok).1)
    · rintro ⟨-, hf⟩
      exact Or.inl ⟨hgroup, hf⟩
  · rw [if_neg hgroup]
    constructor
    · rintro (⟨hunfit, -⟩ | ⟨directory, -, h⟩)
      · exact absurd hunfit hgroup
      · rcases bind_eq_error_iff.mp h with herror | ⟨name, -, hpure⟩
        · obtain ⟨hentity, hf⟩ := component_eq_error_iff.mp herror
          exact ⟨Or.inr hentity, hf⟩
        · exact nomatch hpure
    · rintro ⟨hunfit, hf⟩
      have hentity : Unfit x.2.name := hunfit.resolve_left hgroup
      refine Or.inr ⟨x.1, component_eq_ok_iff.mpr ⟨isComponent_iff.mpr hgroup, rfl⟩, ?_⟩
      exact bind_eq_error_iff.mpr (Or.inl (component_eq_error_iff.mpr ⟨hentity, hf⟩))

/-- The files of a plan, if all names can stand in a path. -/
theorem files_eq_ok_iff {fs : List OutputFile} :
    p.files out = .ok fs ↔
      p.Named ∧ fs = ⟨out.join fileName, p.encoded.pretty⟩ ::
        p.members.map fun x => ⟨contextPath out x, contextText x⟩ := by
  unfold files Named
  have hchecks : ∀ (x : String × EntityModel) f, contextFile out x.1 x.2 = .ok f ↔
      (isComponent x.1 = true ∧ isComponent x.2.name = true) ∧
        f = ⟨contextPath out x, contextText x⟩ :=
    fun x f => contextFile_eq_ok_iff
  constructor
  · intro h
    obtain ⟨contexts, hcontexts, h⟩ := bind_eq_ok_iff.mp h
    obtain ⟨hnamed, rfl⟩ := (mapM_eq_ok_iff_map hchecks).mp hcontexts
    exact ⟨hnamed, (Except.ok.inj h).symm⟩
  · rintro ⟨hnamed, rfl⟩
    rw [(mapM_eq_ok_iff_map hchecks).mpr ⟨hnamed, rfl⟩]
    rfl

/-- The first name in the order of the plan that cannot stand in a path is refused. -/
theorem files_eq_error_iff :
    p.files out = .error f ↔ ∃ x, First Misnamed p.members x ∧ f = refusal x := by
  have hbad : ∀ x ∈ p.members, (∃ g, contextFile out x.1 x.2 = .error g) ↔ Misnamed x := by
    intro x _
    simp only [contextFile_eq_error_iff, exists_and_left, exists_eq, and_true]
  unfold files
  rw [bind_eq_error_iff, mapM_eq_error_iff]
  constructor
  · rintro (⟨x, hx, hf⟩ | ⟨contexts, -, h⟩)
    · exact ⟨x, (First.congr hbad).mp hx, (contextFile_eq_error_iff.mp hf).2⟩
    · exact nomatch h
  · rintro ⟨x, hx, hf⟩
    exact Or.inl ⟨x, (First.congr hbad).mpr hx, contextFile_eq_error_iff.mpr ⟨hx.holds, hf⟩⟩

theorem named_iff : p.Named ↔ ∀ x ∈ p.members, ¬ Misnamed x := by
  refine forall₂_congr fun x _ => ?_
  rw [isComponent_iff, isComponent_iff, Misnamed, not_or]

/-- The files of a plan stand at its paths. -/
theorem paths_of_files {fs : List OutputFile} (h : p.files out = .ok fs) :
    fs.map (·.path) = p.paths out := by
  rw [(files_eq_ok_iff.mp h).2, List.map_cons, List.map_map]
  rfl

/-! ## Paths -/

theorem planPath_leads (out : Path) :
    (out.join fileName).Leads out.isAbsolute (out.components ++ [fileName]) :=
  Path.join_leads rfl rfl isName_fileName

theorem contextPath_leads (out : Path) (hgroup : isComponent x.1 = true)
    (hentity : isComponent x.2.name = true) :
    (contextPath out x).Leads out.isAbsolute
      (out.components ++ [x.1] ++ [contextFileName x.2.name]) := by
  have hhome := Path.join_leads (p := out) rfl rfl (isName_of_isComponent hgroup)
  exact Path.join_leads hhome.absolute hhome.components (isName_contextFileName hentity)

/-- No file of a plan with fit names leaves the directory of the output. -/
theorem below_of_mem_paths (hnamed : p.Named) {path : Path} (h : path ∈ p.paths out) :
    path.Below out := by
  rcases List.mem_cons.mp h with rfl | h
  · refine ⟨[fileName], List.cons_ne_nil _ _, ?_, planPath_leads out⟩
    exact List.forall_mem_singleton.mpr isName_fileName
  · obtain ⟨x, hx, rfl⟩ := List.mem_map.mp h
    obtain ⟨hgroup, hentity⟩ := hnamed x hx
    have hleads := contextPath_leads out hgroup hentity
    rw [List.append_assoc] at hleads
    refine ⟨[x.1, contextFileName x.2.name], List.cons_ne_nil _ _, ?_, hleads⟩
    intro name hname
    rcases List.mem_cons.mp hname with rfl | hname
    · exact isName_of_isComponent hgroup
    · rw [List.mem_singleton.mp hname]
      exact isName_contextFileName hentity

end Plan

end EntityPlan
