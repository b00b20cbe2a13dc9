import EntityPlan.Proofs.Inspection
import EntityPlan.Proofs.Listings
import Mathlib.Data.List.Sort
import Mathlib.Data.List.TakeWhile

/-! # Discovery — which documents are found in a directory

    A directory is listed in no particular order, and what is found in it does not
    depend on that: the document files in it, in order of their paths, or that there
    are none (`Workspace.discovers_iff`).  So a workspace in which directories are
    listed in another order has the same documents and the same plan. -/

namespace EntityPlan

namespace Path

/-- A path stands before another one: the first component that differs decides. -/
def Before (p q : Path) : Prop := p.components.map Text.bytes < q.components.map Text.bytes

instance : Std.Asymm Before := ⟨fun _ _ => List.lt_asymm⟩

/-- Behind the same path names keep their order. -/
theorem before_join (p : Path) {a b : String} (ha : IsName a) (hb : IsName b)
    (h : Text.Before a b) : (p.join a).Before (p.join b) := by
  show (p.join a).components.map Text.bytes < (p.join b).components.map Text.bytes
  rw [components_join ha, components_join hb, List.map_append, List.map_append]
  exact List.append_left_lt (List.cons_lt_cons_iff.mpr (Or.inl h))

/-- What stands behind the last dot, or all if there is none. -/
def lastPiece (cs : List Char) : List Char := (cs.reverse.takeWhile (· ≠ '.')).reverse

theorem lastPiece_of_not_mem {cs : List Char} (h : '.' ∉ cs) : lastPiece cs = cs := by
  have hall : cs.reverse.takeWhile (· ≠ '.') = cs.reverse := by
    refine List.takeWhile_eq_self_iff.mpr ?_
    intro c hc
    have hne : c ≠ '.' := fun heq => h (heq ▸ List.mem_reverse.mp hc)
    simpa using hne
  rw [lastPiece, hall, List.reverse_reverse]

theorem lastPiece_append (front : List Char) {last : List Char} (h : '.' ∉ last) :
    lastPiece (front ++ '.' :: last) = last := by
  have hreverse : (front ++ '.' :: last).reverse = last.reverse ++ '.' :: front.reverse := by
    simp
  rw [lastPiece, hreverse, List.takeWhile_append_of_pos, List.takeWhile_cons_of_neg (by simp),
    List.append_nil, List.reverse_reverse]
  intro c hc
  have hne : c ≠ '.' := fun heq => h (heq ▸ List.mem_reverse.mp hc)
  simpa using hne

theorem exists_lastPiece {cs : List Char} (h : '.' ∈ cs) :
    ∃ front last, cs = front ++ '.' :: last ∧ '.' ∉ last := by
  obtain ⟨last, front, hcs, hlast⟩ := List.eq_append_cons_of_mem (List.mem_reverse.mpr h)
  refine ⟨front.reverse, last.reverse, ?_, ?_⟩
  · rw [← List.reverse_reverse cs, hcs]
    simp
  · rwa [List.mem_reverse]

theorem extension?_eq (name : String) :
    extension? name =
      if name = ".." ∨ name.toList.length ≤ (lastPiece name.toList).length + 1 then none
      else some (String.ofList (lastPiece name.toList)) :=
  rfl

/-- A file name has an extension when something stands in front of its last dot. -/
theorem extension?_eq_some_iff {name ending : String} (hne : ending ≠ "")
    (hdot : '.' ∉ ending.toList) :
    extension? name = some ending ↔ ∃ stem, stem ≠ "" ∧ name = stem ++ "." ++ ending := by
  rw [extension?_eq]
  constructor
  · intro h
    split at h
    · exact nomatch h
    · next hlong =>
        obtain ⟨-, hlong⟩ := not_or.mp hlong
        have hending : lastPiece name.toList = ending.toList := by
          rw [← Option.some.inj h, String.toList_ofList]
        have hmem : '.' ∈ name.toList := by
          by_contra hnone
          rw [lastPiece_of_not_mem hnone] at hlong
          omega
        obtain ⟨front, last, hname, hlast⟩ := exists_lastPiece hmem
        rw [hname, lastPiece_append front hlast] at hending hlong
        refine ⟨String.ofList front, ?_, ?_⟩
        · intro hempty
          rw [String.ofList_eq_empty_iff.mp hempty] at hlong
          exact hlong (by simp)
        · rw [← String.toList_inj, hname, hending]
          simp
  · rintro ⟨stem, hstem, hname⟩
    have hchars : name.toList = stem.toList ++ '.' :: ending.toList := by
      rw [hname]
      simp
    have hpiece : lastPiece name.toList = ending.toList := by
      rw [hchars, lastPiece_append stem.toList hdot]
    have hstem' : stem.toList.length ≠ 0 := by
      rwa [Ne, List.length_eq_zero_iff, String.toList_eq_nil_iff]
    have hending' : ending.toList.length ≠ 0 := by
      rwa [Ne, List.length_eq_zero_iff, String.toList_eq_nil_iff]
    have hlength : name.toList.length = stem.toList.length + (ending.toList.length + 1) := by
      rw [hchars, List.length_append, List.length_cons]
    have hlong : ¬ (name = ".." ∨ name.toList.length ≤ ending.toList.length + 1) := by
      rintro (hdots | hshort)
      · have htwo : name.toList.length = 2 := congrArg (fun s : String => s.toList.length) hdots
        omega
      · omega
    rw [hpiece, if_neg hlong, String.ofList_toList]

end Path

namespace Inputs

theorem mem_documentNames {names : List String} {name : String} :
    name ∈ documentNames names ↔ name ∈ names ∧ ∃ stem, stem ≠ "" ∧ name = stem ++ ".json" := by
  have hending : Path.extension? name = some ending ↔
      ∃ stem, stem ≠ "" ∧ name = stem ++ "." ++ ending :=
    Path.extension?_eq_some_iff (by decide) (by decide)
  rw [documentNames, List.mem_filter, (Text.sorted_perm names).mem_iff, beq_iff_eq, hending]
  refine and_congr_right fun _ => exists_congr fun stem => and_congr_right fun _ => ?_
  rw [String.append_assoc]
  rfl

theorem pairwise_documentNames {names : List String} (h : names.Nodup) :
    (documentNames names).Pairwise Text.Before :=
  (Text.pairwise_sorted h).filter _

end Inputs

/-- A document file stands right below a location. -/
def FileTree.HoldsDocument (t : FileTree) (l : Location) (name : String) : Prop :=
  t.Bars (l ++ [name]) ∧ ∃ stem, stem ≠ "" ∧ name = stem ++ ".json"

namespace Workspace

open FileTree Inputs Source

variable {w w' : Workspace} {d : Path} {l : Location} {names : List String}

/-- What is found in a directory: the paths of the document files that it holds, in path
    order, or that it holds none, or that it cannot be listed. -/
inductive Discovers (w : Workspace) (d : Path) : Except CommandFailure (List Path) → Prop
  | found {l : Location} {paths : List Path} : w.tree.locate w.directory d = .ok l →
      w.tree.at? l = some .directory → paths ≠ [] → paths.Pairwise Path.Before →
      (∀ p, p ∈ paths ↔ ∃ name, w.tree.HoldsDocument l name ∧ p = d.join name) →
      Discovers w d (.ok paths)
  | nothing {l : Location} : w.tree.locate w.directory d = .ok l →
      w.tree.at? l = some .directory → (∀ name, ¬ w.tree.HoldsDocument l name) →
      Discovers w d (.error (.noInputs d))
  | unreadable {fault : StorageFault} : w.tree.names w.directory d = .error fault →
      Discovers w d (.error (.inputDirectory d fault))

/-- The paths of the documents among names. -/
def found (w : Workspace) (d : Path) (names : List String) : List Path :=
  ((documentNames names).map d.join).filter (w.tree.isFile w.directory)

theorem run_existing (w : Workspace) (paths : List Path) :
    (existing paths : StateM Workspace (List Path)).run w =
      (paths.filter (w.tree.isFile w.directory), w) := by
  induction paths with
  | nil => rfl
  | cons p rest ih =>
      have hfile : (Storage.isFile p : StateM Workspace Bool).run w =
          (w.tree.isFile w.directory p, w) := rfl
      rw [existing, StateT.run_bind, hfile]
      show ((existing rest : StateM Workspace (List Path)) >>= fun others =>
        pure (if w.tree.isFile w.directory p then p :: others else others)).run w = _
      rw [StateT.run_bind, ih, List.filter_cons]
      rfl

theorem run_names (w : Workspace) (d : Path) :
    (liftM (Storage.names d : StateM Workspace _) :
      ExceptT CommandFailure (StateM Workspace) _).run.run w =
        (.ok (w.tree.names w.directory d), w) :=
  rfl

theorem run_discover_of_error {fault : StorageFault}
    (h : w.tree.names w.directory d = .error fault) :
    (discover d : ExceptT CommandFailure (StateM Workspace) (List Path)).run.run w =
      (.error (.inputDirectory d fault), w) := by
  rw [discover, run_bind, run_names, h]
  rfl

theorem run_discover_of_names (h : w.tree.names w.directory d = .ok names) :
    (discover d : ExceptT CommandFailure (StateM Workspace) (List Path)).run.run w =
      (if w.found d names = [] then .error (.noInputs d) else .ok (w.found d names), w) := by
  have hexisting : (liftM (existing ((documentNames names).map d.join) : StateM Workspace _) :
      ExceptT CommandFailure (StateM Workspace) _).run.run w = (.ok (w.found d names), w) := by
    show ((existing ((documentNames names).map d.join) : StateM Workspace _) >>= fun paths =>
      pure (Except.ok paths)).run w = _
    rw [StateT.run_bind, run_existing]
    rfl
  rw [discover, run_bind, run_names, h]
  dsimp only
  rw [run_bind, hexisting]
  dsimp only
  cases w.found d names with
  | nil => rfl
  | cons p rest => rfl

theorem mem_found_iff (hw : w.tree.Proper) (hd : w.tree.locate w.directory d = .ok l)
    (hl : w.tree.at? l = some .directory) (p : Path) :
    p ∈ w.found d (w.tree.listing l) ↔
      ∃ name, w.tree.HoldsDocument l name ∧ p = d.join name := by
  rw [found, List.mem_filter, List.mem_map]
  constructor
  · rintro ⟨⟨name, hname, rfl⟩, hfile⟩
    obtain ⟨hlisted, hstem⟩ := mem_documentNames.mp hname
    have hjoin := locate_join hd hl (hw.isName hlisted)
    exact ⟨name, ⟨(isFile_of_locate hjoin).mp hfile, hstem⟩, rfl⟩
  · rintro ⟨name, ⟨⟨content, hcontent⟩, hstem⟩, rfl⟩
    have hlisted : name ∈ w.tree.listing l := by
      rw [mem_listing_iff, hcontent]
      exact Option.some_ne_none _
    have hjoin := locate_join hd hl (hw.isName hlisted)
    exact ⟨⟨name, mem_documentNames.mpr ⟨hlisted, hstem⟩, rfl⟩,
      (isFile_of_locate hjoin).mpr ⟨content, hcontent⟩⟩

theorem pairwise_found (hw : w.tree.Proper) (d : Path) (l : Location) :
    (w.found d (w.tree.listing l)).Pairwise Path.Before := by
  refine List.Pairwise.filter _ (List.pairwise_map.mpr ?_)
  refine (pairwise_documentNames (hw.nodup_listing l)).imp_of_mem ?_
  intro a b ha hb hab
  exact Path.before_join d (hw.isName (mem_documentNames.mp ha).1)
    (hw.isName (mem_documentNames.mp hb).1) hab

/-- A directory is looked through to one of the three ends, and that end is the only one. -/
theorem discovers_iff (hw : w.tree.Proper) {r : Except CommandFailure (List Path)} :
    (discover d : ExceptT CommandFailure (StateM Workspace) (List Path)).run.run w = (r, w) ↔
      w.Discovers d r := by
  constructor
  · intro h
    cases hnames : w.tree.names w.directory d with
    | error fault =>
        rw [run_discover_of_error hnames] at h
        obtain rfl := (Prod.mk.inj h).1
        exact .unreadable hnames
    | ok names =>
        obtain ⟨l, hd, hl, rfl⟩ := names_eq_ok_iff.mp hnames
        rw [run_discover_of_names hnames] at h
        obtain rfl := (Prod.mk.inj h).1
        split
        · next hempty =>
            refine .nothing hd hl ?_
            intro name hname
            have hmem := (mem_found_iff hw hd hl _).mpr ⟨name, hname, rfl⟩
            rw [hempty] at hmem
            exact nomatch hmem
        · next hne => exact .found hd hl hne (pairwise_found hw d l) (mem_found_iff hw hd hl)
  · intro h
    cases h with
    | @found l paths hd hl hne hordered hmem =>
        have hpaths : w.found d (w.tree.listing l) = paths := by
          -- a list in path order is known by its members
          refine (pairwise_found hw d l).eq_of_mem_iff hordered ?_
          intro p
          rw [mem_found_iff hw hd hl, hmem]
        rw [run_discover_of_names (names_eq_ok_iff.mpr ⟨l, hd, hl, rfl⟩), hpaths, if_neg hne]
    | @nothing l hd hl hnone =>
        have hempty : w.found d (w.tree.listing l) = [] := by
          refine List.eq_nil_iff_forall_not_mem.mpr ?_
          intro p hp
          obtain ⟨name, hname, -⟩ := (mem_found_iff hw hd hl p).mp hp
          exact hnone name hname
        rw [run_discover_of_names (names_eq_ok_iff.mpr ⟨l, hd, hl, rfl⟩), if_pos hempty]
    | unreadable hfault => exact run_discover_of_error hfault

/-! ## Another order -/

/-- The second workspace is the first with its directories listed in another order. -/
structure Relists (w w' : Workspace) : Prop where
  directory : w'.directory = w.directory
  entries : w'.tree.entries.Perm w.tree.entries

namespace Relists

theorem proper (h : w.Relists w') (hw : w.tree.Proper) : w'.tree.Proper where
  distinct := (locations_perm h.entries).nodup_iff.mpr hw.distinct
  named := by
    intro l hl
    exact hw.named l ((locations_perm h.entries).mem_iff.mp hl)

theorem at? (h : w.Relists w') (hw : w.tree.Proper) : w'.tree.at? = w.tree.at? :=
  funext (hw.at?_of_perm h.entries)

theorem follow (h : w.Relists w') (hw : w.tree.Proper) (l : Location) (ps : List String) :
    w'.tree.follow l ps = w.tree.follow l ps := by
  induction ps generalizing l with
  | nil => rfl
  | cons piece rest ih =>
      rw [FileTree.follow, FileTree.follow, h.at? hw]
      cases w.tree.at? l with
      | none => rfl
      | some e =>
          cases e with
          | file content => rfl
          | directory =>
              dsimp only
              rw [ih, ih, ih]

theorem locate (h : w.Relists w') (hw : w.tree.Proper) (p : Path) :
    w'.tree.locate w'.directory p = w.tree.locate w.directory p := by
  rw [FileTree.locate, FileTree.locate, h.directory, h.follow hw]

/-- The order of a listing does not say what a file holds. -/
theorem readText (h : w.Relists w') (hw : w.tree.Proper) (p : Path) :
    w'.tree.readText w'.directory p = w.tree.readText w.directory p := by
  rw [FileTree.readText, FileTree.readText, FileTree.entry, FileTree.entry, h.locate hw, h.at? hw]

theorem path (h : w.Relists w') : w'.path = w.path := by
  rw [Workspace.path, Workspace.path, h.directory]

theorem parse (h : w.Relists w') (hw : w.tree.Proper) (paths : List Path) :
    w'.parse paths = w.parse paths := by
  have htakeUp : w'.takeUp = w.takeUp := by
    funext d p
    rw [takeUp, takeUp, document, document, h.readText hw]
  rw [parse_eq, parse_eq, htakeUp]

theorem holdsDocument_iff (h : w.Relists w') (hw : w.tree.Proper) (l : Location) (name : String) :
    w'.tree.HoldsDocument l name ↔ w.tree.HoldsDocument l name := by
  rw [FileTree.HoldsDocument, FileTree.HoldsDocument, FileTree.Bars, FileTree.Bars, h.at? hw]

/-- What is found does not depend on the order. -/
theorem discovers (h : w.Relists w') (hw : w.tree.Proper)
    {r : Except CommandFailure (List Path)} (hr : w.Discovers d r) : w'.Discovers d r := by
  cases hr with
  | found hd hl hne hordered hmem =>
      refine .found ((h.locate hw d).trans hd) ((congrFun (h.at? hw) _).trans hl) hne hordered ?_
      intro p
      simp only [h.holdsDocument_iff hw]
      exact hmem p
  | nothing hd hl hnone =>
      refine .nothing ((h.locate hw d).trans hd) ((congrFun (h.at? hw) _).trans hl) ?_
      intro name hname
      exact hnone name ((h.holdsDocument_iff hw _ name).mp hname)
  | unreadable hfault =>
      refine .unreadable ?_
      rw [names_eq_error_iff] at hfault ⊢
      simp only [FileTree.Bars, h.locate hw, h.at? hw]
      exact hfault

end Relists

/-- A directory is listed in each order of its names by some workspace that differs in
    nothing else, and in no other way. -/
theorem exists_relists_iff (h : w.tree.names w.directory d = .ok names) (hw : w.tree.Proper)
    (names' : List String) :
    (∃ w', w.Relists w' ∧ w'.tree.names w'.directory d = .ok names') ↔ names'.Perm names := by
  obtain ⟨l, hd, hl, rfl⟩ := names_eq_ok_iff.mp h
  constructor
  · rintro ⟨w', hrelists, hnames⟩
    obtain ⟨l', hd', -, rfl⟩ := names_eq_ok_iff.mp hnames
    rw [hrelists.locate hw, hd] at hd'
    obtain rfl := Except.ok.inj hd'
    exact (locations_perm hrelists.entries).filterMap (nameBelow? l)
  · intro hperm
    obtain ⟨tree, hentries, hlisting⟩ := exists_listing hperm
    have hrelists : w.Relists ⟨tree, w.directory⟩ := ⟨rfl, hentries⟩
    refine ⟨⟨tree, w.directory⟩, hrelists, names_eq_ok_iff.mpr ⟨l, ?_, ?_, hlisting.symm⟩⟩
    · rw [hrelists.locate hw, hd]
    · rw [hrelists.at? hw, hl]

/-- The documents of a command, and the workspace after they were looked for. -/
def documents (w : Workspace) (named : List Path) (s : Settings) :
    Except CommandFailure (List Path) × Workspace :=
  (Inputs.documents named s : ExceptT CommandFailure (StateM Workspace) (List Path)).run.run w

/-- The plan of a command with its logging, and the workspace after it was made. -/
def plan (w : Workspace) (verbose : Bool) (named : List Path) (s : Settings) :
    Except CommandFailure (Plan × Logging) × Workspace :=
  (Command.plan verbose s named :
    ExceptT CommandFailure (StateM Workspace) (Plan × Logging)).run.run w

theorem documents_nil (w : Workspace) (s : Settings) :
    w.documents [] s = (discover s.directories.input :
      ExceptT CommandFailure (StateM Workspace) (List Path)).run.run w :=
  rfl

theorem documents_eq (w : Workspace) (named : List Path) (s : Settings) :
    w.documents named s = ((w.documents named s).1, w) :=
  (quiet_documents named s).run_eq w

theorem run_ofRun_ofFiles (w : Workspace) (s : Settings) (paths : List Path) :
    (Command.ofRun (Run.ofFiles s paths) :
      ExceptT CommandFailure (StateM Workspace) (Traced Plan)).run.run w =
        (((absolutePaths w.path paths >>= w.parse).map (Run.plan s)).mapError .run, w) := by
  show (Except.mapError CommandFailure.run <$> (Run.ofFiles s paths :
    ExceptT Failure (StateM Workspace) (Traced Plan)).run).run w = _
  rw [StateT.run_map, run_ofFiles]
  rfl

namespace Relists

theorem documents (h : w.Relists w') (hw : w.tree.Proper) (named : List Path) (s : Settings) :
    (w'.documents named s).1 = (w.documents named s).1 := by
  cases named with
  | cons p rest => rfl
  | nil =>
      have hfound : w.Discovers s.directories.input (w.documents [] s).1 :=
        (discovers_iff hw).mp (w.documents_eq [] s)
      have hfound' : w'.documents [] s = ((w.documents [] s).1, w') :=
        (discovers_iff (h.proper hw)).mpr (h.discovers hw hfound)
      rw [hfound']

/-- What a command plans does not depend on the order. -/
theorem plan (h : w.Relists w') (hw : w.tree.Proper) (verbose : Bool) (named : List Path)
    (s : Settings) : (w'.plan verbose named s).1 = (w.plan verbose named s).1 := by
  have hdocuments : ∀ v : Workspace, (Inputs.documents named s :
      ExceptT CommandFailure (StateM Workspace) (List Path)).run.run v =
        ((v.documents named s).1, v) := by
    intro v
    exact v.documents_eq named s
  rw [Workspace.plan, Workspace.plan, Command.plan, run_bind, run_bind, hdocuments, hdocuments,
    h.documents hw]
  cases (w.documents named s).1 with
  | error f => rfl
  | ok paths =>
      have hparse : w'.parse = w.parse := funext (h.parse hw)
      dsimp only
      rw [run_bind, run_bind, run_ofRun_ofFiles, run_ofRun_ofFiles, h.path, hparse]
      cases absolutePaths w.path paths >>= w.parse with
      | error f => rfl
      | ok document =>
          -- from here on neither workspace is asked
          cases hanswer : (Run.plan s document).answer with
          | error f =>
              simp only [Except.map, Except.mapError, hanswer]
              rfl
          | ok p =>
              simp only [Except.map, Except.mapError, hanswer]
              rfl

end Relists

/-- Without named documents a command takes those of the input directory in path order, in
    whatever order the directory is listed, and so does its plan; named ones are taken as
    they are. -/
theorem discovery_ignores_order (hw : w.tree.Proper) (s : Settings) :
    (∀ r, w.Discovers s.directories.input r ↔ r = (w.documents [] s).1) ∧
      (∀ names, w.tree.names w.directory s.directories.input = .ok names → ∀ names',
        (∃ w', w.Relists w' ∧ w'.tree.names w'.directory s.directories.input = .ok names') ↔
          names'.Perm names) ∧
      (∀ w', w.Relists w' → (w'.documents [] s).1 = (w.documents [] s).1 ∧
        ∀ verbose, (w'.plan verbose [] s).1 = (w.plan verbose [] s).1) ∧
      ∀ named, named ≠ [] → w.documents named s = (.ok named, w) := by
  refine ⟨?_, ?_, ?_, ?_⟩
  · intro r
    rw [← discovers_iff hw, ← w.documents_nil, w.documents_eq [] s, Prod.mk.injEq,
      and_iff_left rfl, eq_comm]
  · intro names hnames names'
    exact exists_relists_iff hnames hw names'
  · intro w' h
    exact ⟨h.documents hw [] s, fun verbose => h.plan hw verbose [] s⟩
  · intro named hne
    cases named with
    | nil => exact absurd rfl hne
    | cons p rest => rfl

/-- Two drafts among other things, none of which is in order. -/
def drafts : FileTree :=
  ((((FileTree.empty.put ["jdl"] .directory).put ["jdl", "b.json"] (.file "[]".toUTF8)).put
    ["jdl", ".json"] (.file "[]".toUTF8)).put ["jdl", "c.json"] .directory).put
      ["jdl", "a.json"] (.file "[]".toUTF8)

theorem proper_drafts : drafts.Proper := by
  have hname : ∀ name ∈ ["jdl", "b.json", ".json", "c.json", "a.json"], Path.IsName name := by
    intro name hname
    refine Path.isName_of_long ?_ ?_
    · exact (by decide : ∀ n ∈ ["jdl", "b.json", ".json", "c.json", "a.json"], 3 ≤ n.length) name hname
    · exact (by decide : ∀ n ∈ ["jdl", "b.json", ".json", "c.json", "a.json"], '/' ∉ n.toList) name
        hname
  have hway : ∀ l : Location, l ⊆ ["jdl", "b.json", ".json", "c.json", "a.json"] →
      ∀ name ∈ l, Path.IsName name := by
    intro l hl name hmem
    exact hname name (hl hmem)
  refine ((((proper_empty.put ?_ _).put ?_ _).put ?_ _).put ?_ _).put ?_ _
  all_goals exact hway _ (by decide)

theorem names_drafts :
    drafts.names [] ⟨"jdl"⟩ = .ok ["b.json", ".json", "c.json", "a.json"] :=
  rfl

theorem documents_drafts :
    (Workspace.documents ⟨drafts, []⟩ [] {}).1 = .ok [⟨"jdl/a.json"⟩, ⟨"jdl/b.json"⟩] := by
  have hfound : Workspace.found ⟨drafts, []⟩ ⟨"jdl"⟩ ["b.json", ".json", "c.json", "a.json"] =
      [⟨"jdl/a.json"⟩, ⟨"jdl/b.json"⟩] := by decide
  have hrun := run_discover_of_names (w := ⟨drafts, []⟩) names_drafts
  rw [hfound] at hrun
  rw [documents_nil]
  exact congrArg Prod.fst hrun

/-- The two drafts are found in order from both ends of the listing. -/
theorem discovery_ignores_order_drafts :
    drafts.Proper ∧
      Relists ⟨drafts, []⟩ ⟨⟨drafts.entries.reverse⟩, []⟩ ∧
      (Workspace.documents ⟨⟨drafts.entries.reverse⟩, []⟩ [] {}).1 =
        .ok [⟨"jdl/a.json"⟩, ⟨"jdl/b.json"⟩] ∧
      (∃ w', Relists ⟨drafts, []⟩ w' ∧ w'.tree.names w'.directory ⟨"jdl"⟩ =
        .ok ["a.json", ".json", "b.json", "c.json"]) ∧
      (Workspace.documents ⟨drafts, []⟩ [⟨"jdl/b.json"⟩, ⟨"jdl/b.json"⟩] {}).1 =
        .ok [⟨"jdl/b.json"⟩, ⟨"jdl/b.json"⟩] := by
  obtain ⟨-, horders, hsame, hnamed⟩ :=
    discovery_ignores_order (w := ⟨drafts, []⟩) proper_drafts {}
  have hrelists : Relists ⟨drafts, []⟩ ⟨⟨drafts.entries.reverse⟩, []⟩ :=
    ⟨rfl, List.reverse_perm drafts.entries⟩
  refine ⟨proper_drafts, hrelists, ?_, ?_, ?_⟩
  · rw [(hsame _ hrelists).1, documents_drafts]
  · exact (horders _ names_drafts _).mpr (by decide)
  · rw [hnamed _ (List.cons_ne_nil _ _)]

end Workspace

end EntityPlan
