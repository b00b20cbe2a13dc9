import EntityPlan.Proofs.OutputFiles
import EntityPlan.Settings.Location
import EntityPlan.Settings.Validation

/-! # Source directories — one for each package of each unit

    Joined with names, a path is its text with the names behind it and a slash before
    each, and it leads down by these names and no others (`Path.joinAll_behind`).  The
    parts of a package are such names.  So the way from the output to the sources of a
    package tells the application, the unit and the package, and no two of them share
    a directory (`Settings.sourceDirectories_apart`). -/

namespace EntityPlan

namespace Path

/-- What joining puts between a path and what it is joined with. -/
def gap (p : Path) : String :=
  if p.text = "" ∨ p.text.toList.getLast? = some '/' then "" else "/"

/-- The path has the names behind another one: in its text, and as its last components. -/
structure Behind (out : Path) (names : List String) (p : Path) : Prop where
  text : p.text = out.text ++ out.gap ++ "/".intercalate names
  lead : p.lead = out.lead
  leads : p.Leads out.isAbsolute (out.components ++ names)

/-- Two texts of one path: they start at the same place and have the same components. -/
def Same (p q : Path) : Prop := p.lead = q.lead ∧ p.components = q.components

variable {p q : Path} {name : String} {names : List String}

theorem text_join {s : String} (h : s.toList.head? ≠ some '/') :
    (p.join s).text = p.text ++ p.gap ++ s := by
  unfold join gap
  rw [if_neg h]
  split
  · rw [String.append_empty]
  · rfl

/-- Behind a name there is always a slash to put. -/
theorem gap_join (h : IsName name) : (p.join name).gap = "/" := by
  have hname : name.toList ≠ [] := by
    intro hnil
    obtain rfl : name = "" := String.toList_eq_nil_iff.mp hnil
    exact nomatch h.leads
  -- the text ends as the name does, which is not empty and has no slash
  have hlast : ((p.join name).text.toList).getLast? = name.toList.getLast? := by
    rw [text_join h.not_absolute, String.toList_append, List.getLast?_append_of_ne_nil _ hname]
  refine if_neg (not_or.mpr ⟨?_, ?_⟩)
  · intro hempty
    rw [hempty, String.toList_empty, List.getLast?_nil, eq_comm, List.getLast?_eq_none_iff] at hlast
    exact hname hlast
  · intro hslash
    rw [hlast] at hslash
    exact h.plain (List.mem_of_getLast? hslash)

/-- Joining with two names at once is joining with one after the other. -/
theorem join_slash {rest : String} (h : IsName name) (hrest : rest.toList.head? ≠ some '/') :
    p.join (name ++ "/" ++ rest) = (p.join name).join rest := by
  have hwhole : (name ++ "/" ++ rest).toList.head? ≠ some '/' := by
    cases hchars : name.toList with
    | nil => exact absurd (String.toList_eq_nil_iff.mp hchars ▸ h.leads) (by decide)
    | cons c cs =>
        have hhead := h.not_absolute
        rw [hchars] at hhead
        simpa [hchars] using hhead
  -- the slash in the middle is the one that the second joining would put
  have htext : (p.join (name ++ "/" ++ rest)).text = ((p.join name).join rest).text := by
    rw [text_join hwhole, text_join hrest, gap_join h, text_join h.not_absolute]
    simp only [String.append_assoc]
  exact congrArg Path.mk htext

theorem join_behind (h : IsName name) : p.Behind [name] (p.join name) where
  text := by rw [text_join h.not_absolute, String.intercalate_singleton]
  lead := lead_join h
  leads := join_leads rfl rfl h

/-- The names of a path behind one that itself has a name behind another. -/
theorem Behind.cons (h : IsName name) (hnames : names ≠ []) (hq : (p.join name).Behind names q) :
    p.Behind (name :: names) q where
  text := by
    rw [hq.text, gap_join h, text_join h.not_absolute, String.intercalate_cons_of_ne_nil hnames]
    simp only [String.append_assoc]
  lead := hq.lead.trans (lead_join h)
  leads := by
    have hleads := hq.leads
    rwa [isAbsolute_join h, components_join h, List.append_assoc] at hleads

/-- Joined with names, a path has all of them behind it, in order. -/
theorem joinAll_behind (hnames : names ≠ []) (h : ∀ n ∈ names, IsName n) :
    p.Behind names (p.joinAll names) := by
  induction names generalizing p with
  | nil => exact absurd rfl hnames
  | cons n rest ih =>
      obtain ⟨hn, hrest⟩ := List.forall_mem_cons.mp h
      by_cases hnil : rest = []
      · subst hnil
        exact join_behind hn
      · exact Behind.cons hn hnil (ih hnil hrest)

theorem Behind.below (h : p.Behind names q) (hnames : names ≠ []) (hall : ∀ n ∈ names, IsName n) :
    q.Below p :=
  ⟨names, hnames, hall, h.leads⟩

/-- Behind one path the same path is reached by the same names only. -/
theorem Behind.same_iff {names' : List String} {q' : Path} (h : p.Behind names q)
    (h' : p.Behind names' q') : q.Same q' ↔ names = names' := by
  unfold Same
  rw [h.lead, h'.lead, h.leads.components, h'.leads.components, List.append_right_inj]
  exact and_iff_right rfl

end Path

/-! ## Parts of a package -/

theorem mem_of_isIdentifier {cs : List Char} (h : isIdentifier cs = true) {c : Char}
    (hc : c ∈ cs) : c.isAlphanum = true ∨ c = '_' := by
  cases cs with
  | nil => exact nomatch hc
  | cons first rest =>
      have hparts : (first.isAlpha = true ∨ first = '_') ∧
          ∀ d ∈ rest, d.isAlphanum = true ∨ d = '_' := by
        simpa [isIdentifier, startsIdentifier] using h
      rcases List.mem_cons.mp hc with rfl | hc
      · refine hparts.1.imp_left fun halpha => ?_
        rw [Char.isAlphanum, halpha, Bool.true_or]
      · exact hparts.2 c hc

/-- An identifier is a name of a directory: it has no dots and no slashes. -/
theorem isName_of_isIdentifier {part : String} (h : isIdentifier part.toList = true) :
    Path.IsName part := by
  have hplain : ∀ c ∈ part.toList, c ≠ '.' ∧ c ≠ '/' := by
    intro c hc
    rcases mem_of_isIdentifier h hc with hc | rfl
    · constructor <;> rintro rfl <;> exact absurd hc (by decide)
    · decide
  have hother : ∀ s : String, s = "" ∨ '.' ∈ s.toList → part ≠ s := by
    rintro s (rfl | hs) rfl
    · exact absurd h (by decide)
    · exact (hplain '.' hs).1 rfl
  refine ⟨?_, hother ".." (by decide), fun hslash => (hplain '/' hslash).2 rfl⟩
  simp [Path.isVoid, hother "" (by decide), hother "." (by decide)]

theorem isName_of_mem_split {package part : String} (h : isPackageName package = true)
    (hpart : part ∈ Text.split '.' package) : Path.IsName part := by
  obtain ⟨cs, hcs, rfl⟩ := List.mem_map.mp hpart
  refine isName_of_isIdentifier ?_
  rw [String.toList_ofList]
  exact List.all_eq_true.mp h cs hcs

/-! ## Directories of units -/

/-- The directory of a unit, below that of its application. -/
def unitFolder (module : String) : UnitKind → String
  | .model => "core-" ++ module ++ "-api-model"
  | .db => "core-" ++ module ++ "-api-db"
  | .api => "core-" ++ module ++ "-api"

/-- The directories on the way from the output to the sources of a package of a unit. -/
def sourceWay (module : String) (kind : UnitKind) (parts : List String) : List String :=
  ("core-" ++ module ++ "-api") :: unitFolder module kind :: "src" :: "main" :: "kotlin" :: parts

theorem unitBase_append_ending (module : String) (kind : UnitKind) :
    unitBase module ++ kind.ending = unitFolder module kind := by
  cases kind with
  | model => exact String.append_assoc
  | db => exact String.append_assoc
  | api => exact String.append_empty

theorem isName_unitFolder {module : String} (h : '/' ∉ module.toList) (kind : UnitKind) :
    Path.IsName (unitFolder module kind) := by
  obtain ⟨ending, hfolder, hending⟩ :
      ∃ ending, unitFolder module kind = "core-" ++ module ++ ending ∧ '/' ∉ ending.toList := by
    cases kind with
    | model => exact ⟨"-api-model", rfl, by decide⟩
    | db => exact ⟨"-api-db", rfl, by decide⟩
    | api => exact ⟨"-api", rfl, by decide⟩
  rw [hfolder]
  refine Path.isName_of_long ?_ ?_
  · rw [String.length_append, String.length_append]
    exact Nat.le_add_right_of_le (Nat.le_add_right_of_le (by decide))
  · simp [h, hending]

theorem isName_of_mem_sourceWay {module : String} {kind : UnitKind} {parts : List String}
    (h : '/' ∉ module.toList) (hparts : ∀ part ∈ parts, Path.IsName part) :
    ∀ name ∈ sourceWay module kind parts, Path.IsName name := by
  have hfixed : Path.IsName "src" ∧ Path.IsName "main" ∧ Path.IsName "kotlin" := by
    refine ⟨?_, ?_, ?_⟩ <;> exact ⟨by decide, by decide, by decide⟩
  simp only [sourceWay, List.forall_mem_cons]
  exact ⟨isName_unitFolder h .api, isName_unitFolder h kind, hfixed.1, hfixed.2.1, hfixed.2.2,
    hparts⟩

/-- The directory of an application is the first on the way, so that no ending of a unit can be
    taken for a part of the name of an application. -/
theorem sourceWay_inj {m m' : String} {k k' : UnitKind} {parts parts' : List String} :
    sourceWay m k parts = sourceWay m' k' parts' ↔ m = m' ∧ k = k' ∧ parts = parts' := by
  constructor
  · intro h
    simp only [sourceWay, List.cons.injEq, true_and] at h
    obtain ⟨hbase, hfolder, hparts⟩ := h
    obtain rfl : m = m' := (String.append_right_inj _).mp ((String.append_left_inj _).mp hbase)
    refine ⟨rfl, ?_, hparts⟩
    -- of one application only the endings are left to compare
    rw [← unitBase_append_ending, ← unitBase_append_ending, String.append_right_inj] at hfolder
    revert hfolder
    cases k <;> cases k' <;> decide
  · rintro ⟨rfl, rfl, rfl⟩
    rfl

namespace Settings

/-- The sources of a package stand at the end of the way to them. -/
theorem sourceDirectory_eq_joinAll (s : Settings) (module package : String) (kind : UnitKind) :
    sourceDirectory (s.unitDirectory module kind) package =
      s.directories.output.joinAll (sourceWay module kind (Text.split '.' package)) := by
  have hsrc : ∀ p : Path, p.join "src/main/kotlin" = p.joinAll ["src", "main", "kotlin"] := by
    intro p
    have hfirst : "src/main/kotlin" = "src" ++ "/" ++ "main/kotlin" := rfl
    have hsecond : "main/kotlin" = "main" ++ "/" ++ "kotlin" := rfl
    rw [hfirst, Path.join_slash ⟨by decide, by decide, by decide⟩ (by decide), hsecond,
      Path.join_slash ⟨by decide, by decide, by decide⟩ (by decide)]
    simp only [Path.joinAll, List.foldl_cons, List.foldl_nil]
  unfold sourceDirectory unitDirectory sourceWay
  rw [hsrc, unitBase_append_ending, unitBase]
  simp only [Path.joinAll, List.foldl_cons, List.foldl_nil]

theorem sourceDirectory_behind (s : Settings) {module package : String} (kind : UnitKind)
    (hmodule : '/' ∉ module.toList) (hpackage : isPackageName package = true) :
    s.directories.output.Behind (sourceWay module kind (Text.split '.' package))
        (sourceDirectory (s.unitDirectory module kind) package) ∧
      (sourceDirectory (s.unitDirectory module kind) package).Below s.directories.output := by
  have hnames : ∀ name ∈ sourceWay module kind (Text.split '.' package), Path.IsName name :=
    isName_of_mem_sourceWay hmodule fun part hpart => isName_of_mem_split hpackage hpart
  have hne : sourceWay module kind (Text.split '.' package) ≠ [] := List.cons_ne_nil _ _
  rw [sourceDirectory_eq_joinAll]
  have hbehind := Path.joinAll_behind (p := s.directories.output) hne hnames
  exact ⟨hbehind, hbehind.below hne hnames⟩

/-- The sources of a package stand below the output, behind the directories of the application
    and of the unit, with a directory for each part of the package; and no other package, unit or
    application has the same directory. -/
theorem sourceDirectories_apart (s : Settings) {m p : String} (k : UnitKind)
    (hm : '/' ∉ m.toList) (hp : isPackageName p = true) :
    (∃ parts, (∀ part ∈ parts, '.' ∉ part.toList) ∧ ".".intercalate parts = p ∧
        s.directories.output.Behind (sourceWay m k parts)
          (sourceDirectory (s.unitDirectory m k) p)) ∧
      (sourceDirectory (s.unitDirectory m k) p).Below s.directories.output ∧
      ∀ {m' p' : String} (k' : UnitKind), '/' ∉ m'.toList → isPackageName p' = true →
        ((sourceDirectory (s.unitDirectory m k) p).Same
            (sourceDirectory (s.unitDirectory m' k') p') ↔ m = m' ∧ k = k' ∧ p = p') := by
  obtain ⟨hbehind, hbelow⟩ := s.sourceDirectory_behind k hm hp
  refine ⟨⟨Text.split '.' p, ?_, Text.intercalate_split_dot p, hbehind⟩, hbelow, ?_⟩
  · intro part hpart
    exact Text.not_mem_of_mem_split hpart
  intro m' p' k' hm' hp'
  obtain ⟨hbehind', -⟩ := s.sourceDirectory_behind k' hm' hp'
  rw [hbehind.same_iff hbehind', sourceWay_inj]
  refine and_congr_right fun _ => and_congr_right fun _ => ?_
  constructor
  · intro hparts
    rw [← Text.intercalate_split_dot p, hparts, Text.intercalate_split_dot]
  · exact congrArg (Text.split '.')

/-- The model of `x`, and the interface of an application whose own name looks like the directory
    of that model. -/
theorem sourceDirectories_apart_alike :
    ('/' ∉ "x".toList ∧ '/' ∉ "x-api-model".toList ∧ isPackageName "net.x" = true) ∧
      (sourceDirectory (({} : Settings).unitDirectory "x" .model) "net.x").text =
        "generated/core-x-api/core-x-api-model/src/main/kotlin/net/x" ∧
      ¬ (sourceDirectory (({} : Settings).unitDirectory "x" .model) "net.x").Same
          (sourceDirectory (({} : Settings).unitDirectory "x-api-model" .api) "net.x") := by
  refine ⟨⟨by decide, by decide, by decide⟩, by decide, ?_⟩
  rw [(sourceDirectories_apart {} .model (by decide) (by decide)).2.2 .api (by decide) (by decide)]
  decide

end Settings

end EntityPlan
