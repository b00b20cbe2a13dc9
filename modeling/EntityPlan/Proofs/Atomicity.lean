import EntityPlan.Proofs.Grouping
import EntityPlan.Proofs.OutputFiles
import EntityPlan.Proofs.Writing
import Mathlib.Data.List.Nodup

/-! # Atomicity — all files of a plan or none

    Names are looked at before anything is written, so what can still go wrong is
    that files and directories get into each other's way.  In a new directory the
    files of a plan do so only where a group has the name of the plan's file, or
    where the path to the directory led through one of them
    (`Plan.write_allOrNothing_iff`). -/

namespace EntityPlan

/-- The location that a path names once all directories on the way to it stand. -/
def Path.place (p : Path) (directory : Location) : Location :=
  Location.walk (Location.start p.isAbsolute directory) p.components

/-- The locations that a path leads over, its own included. -/
def Path.way (p : Path) (directory : Location) : List Location :=
  Location.way (Location.start p.isAbsolute directory) p.components

/-- What stands below something stands in a directory, and so do those who work there. -/
structure Workspace.WellFormed (w : Workspace) : Prop where
  grounded : ∀ l name, w.tree.at? (l ++ [name]) ≠ none → w.tree.at? l = some .directory
  working : w.tree.at? w.directory = some .directory

theorem Workspace.WellFormed.none_below {w : Workspace} (hw : w.WellFormed) {l : Location}
    (h : w.tree.at? l = none) (below : List String) : w.tree.at? (l ++ below) = none := by
  induction below using List.reverseRecOn with
  | nil => rwa [List.append_nil]
  | append_singleton below name ih =>
      -- what stands there would have a directory above it
      by_contra hne
      rw [← List.append_assoc] at hne
      exact nomatch ih.symm.trans (hw.grounded (l ++ below) name hne)

theorem Workspace.WellFormed.start {w : Workspace} (hw : w.WellFormed) (absolute : Bool) :
    w.tree.at? (Location.start absolute w.directory) = some .directory := by
  cases absolute with
  | true => rfl
  | false => exact hw.working

namespace Plan

open FileTree Location

/-- All files of a plan are there and hold what they should. -/
def Written (out : Path) (p : Plan) (w : Workspace) : Prop :=
  w.tree.readText w.directory (out.join fileName) = .ok p.encoded.pretty ∧
    ∀ x ∈ p.members, w.tree.readText w.directory (contextPath out x) = .ok (contextText x)

/-- All files have been written, or there was an error and none has. -/
def AllOrNothing (out : Path) (p : Plan) (w : Workspace)
    (r : Outcome Failure (List Path) × Workspace) : Prop :=
  (r.1.ending = .ok () ∧ p.Written out r.2) ∨
    ((∃ f, r.1.ending = .error f) ∧ w.tree.SameFiles r.2.tree)

/-- The context of an entity would get into the way of the plan's file, or is in the place
    of one of these directories. -/
def Clash (l : Location) (ks : List Location) (x : String × EntityModel) : Prop :=
  x.1 = fileName ∨ l ++ [x.1, contextFileName x.2.name] ∈ ks

/-! ## A directory in the course of writing -/

/-- What stands in a new directory once the plan's file and the contexts of some entities
    are written, at `l`, to which the locations `ks` lead. -/
structure Laid (l : Location) (ks : List Location) (text : String)
    (done : List (String × EntityModel)) (t : FileTree) : Prop where
  way : ∀ k ∈ ks, t.at? k = some .directory
  plan : t.at? (l ++ [fileName]) = some (.file text.toUTF8)
  homes : ∀ x ∈ done, t.at? (l ++ [x.1]) = some .directory
  contexts : ∀ x ∈ done,
    t.at? (l ++ [x.1, contextFileName x.2.name]) = some (.file (contextText x).toUTF8)
  files : ∀ g, t.Bars (l ++ [g]) → g = fileName
  directories : ∀ g n, t.at? (l ++ [g, n]) = some .directory → l ++ [g, n] ∈ ks

variable {l : Location} {ks : List Location} {text : String} {done : List (String × EntityModel)}
  {t u : FileTree} {x : String × EntityModel}

/-- With the plan's file alone, a new directory is begun. -/
theorem Laid.begin (hnew : ∀ below, t.at? (l ++ below) = none)
    (h : t.Gains ks (l ++ [fileName]) text u) (hk : l ++ [fileName] ∉ ks) :
    Laid l ks text [] u where
  way k hks := h.directories k hks (ne_of_mem_of_not_mem hks hk)
  plan := h.file
  homes x hx := nomatch hx
  contexts x hx := nomatch hx
  files g hbars := by
    obtain ⟨content, hcontent⟩ := hbars
    by_contra hg
    have hne : l ++ [g] ≠ l ++ [fileName] := by simpa using hg
    by_cases hks : l ++ [g] ∈ ks
    · exact nomatch (h.directories _ hks hne).symm.trans hcontent
    · rw [h.others _ hks hne, hnew [g]] at hcontent
      exact nomatch hcontent
  directories g n hdir := by
    have hne : l ++ [g, n] ≠ l ++ [fileName] := by simp
    by_contra hks
    rw [h.others _ hks hne, hnew [g, n]] at hdir
    exact nomatch hdir

/-- One more context leaves what is written in place. -/
theorem Laid.step (hl : Laid l ks text done t)
    (hfresh : ∀ y ∈ done, (y.1, y.2.name) ≠ (x.1, x.2.name)) (hclash : ¬ Clash l ks x)
    (h : t.Gains (ks ++ [l ++ [x.1]]) (l ++ [x.1, contextFileName x.2.name]) (contextText x) u) :
    Laid l ks text (x :: done) u := by
  obtain ⟨hname, hks⟩ := not_or.mp hclash
  have hup : ∀ g, l ++ [g] ≠ l ++ [x.1, contextFileName x.2.name] := by
    intro g
    simp
  have hhome : u.at? (l ++ [x.1]) = some .directory :=
    h.directories _ (List.mem_append_right ks List.mem_cons_self) (hup x.1)
  have hway : ∀ k ∈ ks, u.at? k = some .directory := fun k hk =>
    h.directories k (List.mem_append_left _ hk) (ne_of_mem_of_not_mem hk hks)
  -- files stay: they are neither in the place of the new one nor on the way to it
  have hstay : ∀ k content, t.at? k = some (.file content) →
      k ≠ l ++ [x.1, contextFileName x.2.name] → k ≠ l ++ [x.1] →
        u.at? k = some (.file content) := by
    intro k content hk hne hhome
    have hnot : k ∉ ks ++ [l ++ [x.1]] := by
      intro hmem
      rcases List.mem_append.mp hmem with hmem | hmem
      · exact nomatch (hl.way k hmem).symm.trans hk
      · exact hhome (List.mem_singleton.mp hmem)
    rw [h.others k hnot hne, hk]
  refine ⟨hway, ?_, ?_, ?_, ?_, ?_⟩
  · refine hstay _ _ hl.plan (hup fileName) ?_
    intro heq
    exact hname (by simpa using heq.symm)
  · intro y hy
    rcases List.mem_cons.mp hy with rfl | hy
    · exact hhome
    · by_cases hmem : l ++ [y.1] ∈ ks ++ [l ++ [x.1]]
      · exact h.directories _ hmem (hup y.1)
      · rw [h.others _ hmem (hup y.1), hl.homes y hy]
  · intro y hy
    rcases List.mem_cons.mp hy with rfl | hy
    · exact h.file
    · -- two contexts in one place are of one entity in one group
      refine hstay _ _ (hl.contexts y hy) ?_ (by simp)
      intro heq
      have hpair : y.1 = x.1 ∧ contextFileName y.2.name = contextFileName x.2.name := by
        simpa using heq
      exact hfresh y hy (Prod.ext hpair.1 (contextFileName_inj.mp hpair.2))
  · rintro g ⟨content, hcontent⟩
    by_cases hmem : l ++ [g] ∈ ks ++ [l ++ [x.1]]
    · exact nomatch (h.directories _ hmem (hup g)).symm.trans hcontent
    · rw [h.others _ hmem (hup g)] at hcontent
      exact hl.files g ⟨content, hcontent⟩
  · intro g n hdir
    by_cases hne : l ++ [g, n] = l ++ [x.1, contextFileName x.2.name]
    · rw [hne] at hdir
      exact nomatch h.file.symm.trans hdir
    by_cases hmem : l ++ [g, n] ∈ ks ++ [l ++ [x.1]]
    · exact (List.mem_append.mp hmem).resolve_right (by simp)
    · rw [h.others _ hmem hne] at hdir
      exact hl.directories g n hdir

/-! ## Runs -/

variable {out : Path} {w : Workspace}

/-- A context is written unless it clashes. -/
theorem run_writeFile_context (hgroup : isComponent x.1 = true)
    (hentity : isComponent x.2.name = true)
    (hl : Laid (out.place w.directory) (out.way w.directory) text done w.tree)
    (hfresh : ∀ y ∈ done, (y.1, y.2.name) ≠ (x.1, x.2.name)) :
    (∃ tree, (writeFile ⟨contextPath out x, contextText x⟩ :
        ExceptT Failure (StateM Workspace) Unit).run.run w = (.ok (), { w with tree }) ∧
          Laid (out.place w.directory) (out.way w.directory) text (x :: done) tree ∧
            ¬ Clash (out.place w.directory) (out.way w.directory) x) ∨
      (∃ f tree, (writeFile ⟨contextPath out x, contextText x⟩ :
        ExceptT Failure (StateM Workspace) Unit).run.run w = (.error f, { w with tree }) ∧
          w.tree.SameFiles tree ∧ Clash (out.place w.directory) (out.way w.directory) x) := by
  have hstart := hl.way _ (start_mem_way _ _)
  have hwrites := Workspace.run_writeFile (f := ⟨contextPath out x, contextText x⟩)
    (contextPath_leads out hgroup hentity) hstart
  rw [way_concat, walk_name _ _ (isName_contextFileName hentity).down,
    walk_name _ _ (isName_of_isComponent hgroup).down, List.append_assoc] at hwrites
  rcases hwrites with ⟨tree, hrun, hgains, hfree, hk, hdir⟩ | ⟨f, tree, hrun, hsame, hwhy⟩
  · have hclash : ¬ Clash (out.place w.directory) (out.way w.directory) x := by
      rintro (hname | hks)
      · refine hfree _ (List.mem_append_right _ List.mem_cons_self) ?_
        rw [hname]
        exact ⟨_, hl.plan⟩
      · exact hk (List.mem_append_left _ hks)
    exact Or.inl ⟨tree, hrun, hl.step hfresh hclash hgains, hclash⟩
  · refine Or.inr ⟨f, tree, hrun, hsame, ?_⟩
    -- only the plan's file can stand in the way, and only the way itself in the place
    rcases hwhy with ⟨k, hk, hbars⟩ | hk | hdir
    · rcases List.mem_append.mp hk with hk | hk
      · exact absurd hbars (not_bars_of_directory hl.way k hk)
      · rw [List.mem_singleton.mp hk] at hbars
        exact Or.inl (hl.files x.1 hbars)
    · rcases List.mem_append.mp hk with hk | hk
      · exact Or.inr hk
      · simp at hk
    · exact Or.inr (hl.directories _ _ hdir)

/-- Contexts are written one after another up to the first that clashes. -/
theorem run_writeFiles_contexts {xs : List (String × EntityModel)}
    (hnamed : ∀ x ∈ xs, isComponent x.1 = true ∧ isComponent x.2.name = true)
    (hl : Laid (out.place w.directory) (out.way w.directory) text done w.tree)
    (hdistinct : ((xs ++ done).map fun x => (x.1, x.2.name)).Nodup) :
    (∃ paths tree, (writeFiles (xs.map fun x => ⟨contextPath out x, contextText x⟩) :
        StateM Workspace _).run w = (⟨paths, .ok ()⟩, { w with tree }) ∧
          Laid (out.place w.directory) (out.way w.directory) text (xs.reverse ++ done) tree ∧
            ∀ x ∈ xs, ¬ Clash (out.place w.directory) (out.way w.directory) x) ∨
      (∃ paths f tree, (writeFiles (xs.map fun x => ⟨contextPath out x, contextText x⟩) :
        StateM Workspace _).run w = (⟨paths, .error f⟩, { w with tree }) ∧
          tree.Bars (out.place w.directory ++ [fileName]) ∧
            ∃ x ∈ xs, Clash (out.place w.directory) (out.way w.directory) x) := by
  -- each context written joins those that are laid
  induction xs generalizing w done with
  | nil => exact Or.inl ⟨[], w.tree, rfl, hl, fun x hx => nomatch hx⟩
  | cons x rest ih =>
      have hdistinct' : ((rest ++ x :: done).map fun x => (x.1, x.2.name)).Nodup :=
        (List.perm_middle.map _).nodup_iff.mpr hdistinct
      have hfresh : ∀ y ∈ done, (y.1, y.2.name) ≠ (x.1, x.2.name) := by
        intro y hy heq
        refine (List.nodup_cons.mp hdistinct).1 ?_
        exact List.mem_map.mpr ⟨y, List.mem_append_right rest hy, heq⟩
      obtain ⟨hgroup, hentity⟩ := hnamed x List.mem_cons_self
      rw [List.map_cons, run_writeFiles_cons]
      rcases run_writeFile_context hgroup hentity hl hfresh with
        ⟨tree, hrun, hlaid, hclash⟩ | ⟨f, tree, hrun, hsame, hclash⟩
      · rw [hrun]
        rcases @ih (x :: done) { w with tree } (fun y hy => hnamed y (List.mem_cons_of_mem x hy))
          hlaid hdistinct' with
          ⟨paths, tree', hrun', hlaid', hclear⟩ | ⟨paths, f, tree', hrun', hplan, y, hy, hclash'⟩
        · refine Or.inl ⟨contextPath out x :: paths, tree', ?_, ?_, ?_⟩
          · simp only [hrun']
          · rw [List.reverse_cons, List.append_assoc]
            exact hlaid'
          · intro y hy
            rcases List.mem_cons.mp hy with rfl | hy
            · exact hclash
            · exact hclear y hy
        · refine Or.inr ⟨contextPath out x :: paths, f, tree', ?_, hplan, y,
            List.mem_cons_of_mem x hy, hclash'⟩
          simp only [hrun']
      · rw [hrun]
        refine Or.inr ⟨[], f, tree, rfl, ?_, x, List.mem_cons_self, hclash⟩
        exact ⟨_, (hsame _ _).mpr hl.plan⟩

/-- In a directory where all contexts are written, a plan is. -/
theorem Laid.written {p : Plan} (hnamed : p.Named)
    (hl : Laid (out.place w.directory) (out.way w.directory) p.encoded.pretty done w.tree)
    (hdone : ∀ x ∈ p.members, x ∈ done) : p.Written out w := by
  constructor
  · refine readText_of_locate ?_ hl.plan
    have hleads := planPath_leads out
    rw [locate_of_leads hleads (List.concat_ne_nil fileName _),
      follow_of_clear hl.way hleads.names, walk_name _ _ isName_fileName.down]
    rfl
  · intro x hx
    obtain ⟨hgroup, hentity⟩ := hnamed x hx
    refine readText_of_locate ?_ (hl.contexts x (hdone x hx))
    have hleads : (contextPath out x).Leads _ _ := contextPath_leads out hgroup hentity
    have hclear : w.tree.Clear (Location.start out.isAbsolute w.directory)
        (out.components ++ [x.1]) := by
      intro k hk
      rw [way_concat, walk_name _ _ (isName_of_isComponent hgroup).down] at hk
      rcases List.mem_append.mp hk with hk | hk
      · exact hl.way k hk
      · rw [List.mem_singleton.mp hk]
        exact hl.homes x (hdone x hx)
    rw [locate_of_leads hleads (List.concat_ne_nil _ _),
      follow_of_clear hclear hleads.names, walk_name _ _ (isName_contextFileName hentity).down,
      walk_name _ _ (isName_of_isComponent hgroup).down, List.append_assoc]
    rfl

/-- Entities are told apart by group and name when groups are by name and, in each group,
    entities are. -/
theorem nodup_members {p : Plan} (hgroups : p.groupNames.Nodup)
    (hentities : ∀ g ∈ p.groups, g.entityNames.Nodup) :
    (p.members.map fun x => (x.1, x.2.name)).Nodup := by
  rw [members, List.map_flatMap]
  refine List.nodup_flatMap.mpr ⟨?_, ?_⟩
  · intro g hg
    rw [List.map_map]
    have hnames : ((g.entityNames).map fun n => (g.name, n)).Nodup :=
      (hentities g hg).map fun a b h => (Prod.mk.inj h).2
    rwa [Group.entityNames, List.map_map] at hnames
  · refine (List.pairwise_map.mp hgroups).imp ?_
    intro a b hne y hya hyb
    simp only [List.map_map, List.mem_map, Function.comp] at hya hyb
    obtain ⟨m, -, rfl⟩ := hya
    obtain ⟨m', -, heq⟩ := hyb
    exact hne (Prod.mk.inj heq).1.symm

/-- What comes of writing a plan whose names are fit: it cannot be begun, or all files are
    written, or the plan's file is and a context clashes. -/
theorem run_write {p : Plan} (hw : w.WellFormed) (hnamed : p.Named)
    (hnew : w.tree.at? (out.place w.directory) = none) (hgroups : p.groupNames.Nodup)
    (hentities : ∀ g ∈ p.groups, g.entityNames.Nodup) :
    (∃ f tree, (p.write out : StateM Workspace _).run w = (⟨[], .error f⟩, { w with tree }) ∧
        w.tree.SameFiles tree ∧
          ((∃ k ∈ out.way w.directory, w.tree.Bars k) ∨
            out.place w.directory ++ [fileName] ∈ out.way w.directory)) ∨
      (∃ paths tree, (p.write out : StateM Workspace _).run w = (⟨paths, .ok ()⟩, { w with tree }) ∧
        p.Written out { w with tree } ∧
          ∀ x ∈ p.members, ¬ Clash (out.place w.directory) (out.way w.directory) x) ∨
      (∃ paths f tree,
        (p.write out : StateM Workspace _).run w = (⟨paths, .error f⟩, { w with tree }) ∧
          tree.Bars (out.place w.directory ++ [fileName]) ∧
            (∀ k ∈ out.way w.directory, ¬ w.tree.Bars k) ∧
              out.place w.directory ++ [fileName] ∉ out.way w.directory ∧
                ∃ x ∈ p.members, Clash (out.place w.directory) (out.way w.directory) x) := by
  rw [write, files_eq_ok_iff.mpr ⟨hnamed, rfl⟩]
  dsimp only
  rw [run_writeFiles_cons]
  have hplan := Workspace.run_writeFile (f := ⟨out.join fileName, p.encoded.pretty⟩)
    (planPath_leads out) (hw.start out.isAbsolute)
  rw [walk_name _ _ isName_fileName.down] at hplan
  rcases hplan with ⟨tree, hrun, hgains, hfree, hk, -⟩ | ⟨f, tree, hrun, hsame, hwhy⟩
  · -- the plan's file is written and the contexts follow
    rw [hrun]
    have hlaid : Laid (out.place w.directory) (out.way w.directory) p.encoded.pretty [] tree :=
      Laid.begin (hw.none_below hnew) hgains hk
    have hdistinct := nodup_members hgroups hentities
    rw [← List.append_nil p.members] at hdistinct
    rcases @run_writeFiles_contexts _ [] out { w with tree } p.members hnamed hlaid hdistinct with
      ⟨paths, tree', hrun', hlaid', hclear⟩ | ⟨paths, f, tree', hrun', hbars, hclash⟩
    · refine Or.inr (Or.inl ⟨out.join fileName :: paths, tree', ?_, ?_, hclear⟩)
      · simp only [hrun']
      · refine @Laid.written _ out { w with tree := tree' } p hnamed hlaid' ?_
        intro x hx
        exact List.mem_append_left [] (List.mem_reverse.mpr hx)
    · refine Or.inr (Or.inr ⟨out.join fileName :: paths, f, tree', ?_, hbars, hfree, hk, hclash⟩)
      simp only [hrun']
  · rw [hrun]
    refine Or.inl ⟨f, tree, rfl, hsame, ?_⟩
    rcases hwhy with hbars | hk | hdir
    · exact Or.inl hbars
    · exact Or.inr hk
    · exact nomatch hdir.symm.trans (hw.none_below hnew [fileName])

/-- An error after the plan's file was written is neither all nor nothing. -/
theorem not_allOrNothing_of_bars {p : Plan} (hw : w.WellFormed)
    (hnew : w.tree.at? (out.place w.directory) = none) {paths : List Path} {f : Failure}
    {tree : FileTree} (hbars : tree.Bars (out.place w.directory ++ [fileName])) :
    ¬ p.AllOrNothing out w (⟨paths, .error f⟩, { w with tree }) := by
  rintro (⟨hend, -⟩ | ⟨-, hsame⟩)
  · exact nomatch hend
  · obtain ⟨content, hcontent⟩ := hbars
    exact nomatch ((hsame _ _).mp hcontent).symm.trans (hw.none_below hnew [fileName])

/-- Writing a plan into a new directory is all or nothing exactly when a name is refused,
    the directory cannot be made, the plan's file cannot be written, or no context clashes. -/
theorem write_allOrNothing_iff {p : Plan} (hw : w.WellFormed)
    (hnew : w.tree.at? (out.place w.directory) = none) (hgroups : p.groupNames.Nodup)
    (hentities : ∀ g ∈ p.groups, g.entityNames.Nodup) :
    p.AllOrNothing out w ((p.write out : StateM Workspace _).run w) ↔
      (p.Named → (∀ k ∈ out.way w.directory, ¬ w.tree.Bars k) →
        out.place w.directory ++ [fileName] ∉ out.way w.directory →
          ∀ x ∈ p.members, ¬ Clash (out.place w.directory) (out.way w.directory) x) := by
  by_cases hnamed : p.Named
  · rcases run_write hw hnamed hnew hgroups hentities with
      ⟨f, tree, hrun, hsame, hwhy⟩ | ⟨paths, tree, hrun, hwritten, hclear⟩ |
        ⟨paths, f, tree, hrun, hbars, hfree, hk, x, hx, hclash⟩
    · rw [hrun]
      refine iff_of_true (Or.inr ⟨⟨f, rfl⟩, hsame⟩) fun _ hfree hk => ?_
      rcases hwhy with ⟨k, hk', hbars⟩ | hk'
      · exact absurd hbars (hfree k hk')
      · exact absurd hk' hk
    · rw [hrun]
      exact iff_of_true (Or.inl ⟨rfl, hwritten⟩) fun _ _ _ => hclear
    · rw [hrun]
      exact iff_of_false (not_allOrNothing_of_bars hw hnew hbars)
        fun h => h hnamed hfree hk x hx hclash
  · refine iff_of_true ?_ fun h => absurd h hnamed
    cases hfiles : p.files out with
    | ok fs => exact absurd (files_eq_ok_iff.mp hfiles).1 hnamed
    | error f =>
        rw [write, hfiles]
        exact Or.inr ⟨⟨f, rfl⟩, SameFiles.refl w.tree⟩

/-- A plan with one group of one entity. -/
def planOf (group entity : String) : Plan where
  groups := [{
    name := group
    packageName := group
    applicationType := Application.defaultType
    isDefault := false
    layouts := []
    entities := [modelNamed entity] }]

theorem nodup_groupNames_planOf (group entity : String) :
    (planOf group entity).groupNames.Nodup :=
  List.nodup_singleton group

theorem nodup_entityNames_planOf (group entity : String) :
    ∀ g ∈ (planOf group entity).groups, g.entityNames.Nodup := by
  intro g hg
  rw [List.mem_singleton.mp hg]
  exact List.nodup_singleton entity

theorem wellFormed_empty : Workspace.WellFormed ⟨.empty, []⟩ where
  grounded l name h := by
    rw [at?, if_neg (List.concat_ne_nil name l)] at h
    exact absurd rfl h
  working := rfl

/-- A group of another name than the plan's file, in a new directory of the root. -/
theorem write_allOrNothing_library :
    (planOf "library" "Book").AllOrNothing ⟨"out"⟩ ⟨.empty, []⟩
      (((planOf "library" "Book").write ⟨"out"⟩ : StateM Workspace _).run ⟨.empty, []⟩) := by
  refine (write_allOrNothing_iff wellFormed_empty rfl (nodup_groupNames_planOf _ _)
    (nodup_entityNames_planOf _ _)).mpr ?_
  intro _ _ _ x hx hclash
  rw [List.mem_singleton.mp hx] at hclash
  rcases hclash with hname | hway
  · exact absurd hname (by decide)
  · exact absurd hway (by decide)

/-- A group that has the name of the plan's file. -/
theorem not_write_allOrNothing :
    ¬ ∀ (out : Path) (w : Workspace) (p : Plan), w.WellFormed →
      w.tree.at? (out.place w.directory) = none → p.groupNames.Nodup →
        (∀ g ∈ p.groups, g.entityNames.Nodup) →
          p.AllOrNothing out w ((p.write out : StateM Workspace _).run w) := by
  intro h
  have hall := h ⟨"out"⟩ ⟨.empty, []⟩ (planOf fileName "Book") wellFormed_empty rfl
    (nodup_groupNames_planOf _ _) (nodup_entityNames_planOf _ _)
  have hnamed : (planOf fileName "Book").Named := by
    intro x hx
    rw [List.mem_singleton.mp hx]
    exact ⟨by decide, by decide⟩
  have hway : (⟨"out"⟩ : Path).way [] = [[], ["out"]] := rfl
  rcases @run_write ⟨"out"⟩ _ _ wellFormed_empty hnamed rfl (nodup_groupNames_planOf _ _)
      (nodup_entityNames_planOf _ _) with
    ⟨f, tree, hrun, hsame, hwhy⟩ | ⟨paths, tree, hrun, hwritten, hclear⟩ |
      ⟨paths, f, tree, hrun, hbars, -⟩
  · rcases hwhy with ⟨k, hk, content, hcontent⟩ | hk
    · have hk' : k ∈ [[], ["out"]] := hway ▸ hk
      rcases List.mem_cons.mp hk' with rfl | hk'
      · exact nomatch hcontent
      · rw [List.mem_singleton.mp hk'] at hcontent
        exact nomatch hcontent
    · exact absurd hk (by decide)
  · exact hclear (fileName, modelNamed "Book") (List.mem_singleton.mpr rfl) (Or.inl rfl)
  · rw [hrun] at hall
    exact not_allOrNothing_of_bars wellFormed_empty rfl hbars hall

end Plan

end EntityPlan
