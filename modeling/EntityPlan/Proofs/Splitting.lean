import EntityPlan.Proofs.Loading
import EntityPlan.Proofs.Reading

/-! # Splitting — one document in several files

    Files are read one after another, each for itself, and the document of each is
    merged into what was read so far.  So it makes no difference over which files the
    records are spread, as long as they come in the same order
    (`Workspace.seamless`). -/

namespace EntityPlan

open Source

namespace Workspace

/-- The file can be read, and its text is that of the document. -/
def Holds (w : Workspace) (p : Path) (d : Document) : Prop :=
  ∃ text, w.tree.readText w.directory p = .ok text ∧ Document.ofText p.text text = .ok d

variable {w : Workspace} {p : Path} {paths ps qs : List Path} {d : Document}

theorem document_eq_ok_iff : w.document p = .ok d ↔ w.Holds p d := by
  unfold document Holds
  cases w.tree.readText w.directory p with
  | error f => simp
  | ok text => simp

theorem wellKeyed_of_holds (h : w.Holds p d) : d.WellKeyed := by
  obtain ⟨text, -, htext⟩ := h
  exact Document.wellKeyed_of_ofText htext

/-- Files can be merged into a document when they hold documents that can. -/
theorem foldlM_document_eq_ok_iff {start : Document} :
    paths.foldlM w.takeUp start = .ok d ↔
      ∃ documents, List.Forall₂ w.Holds paths documents ∧
        documents.foldlM Document.join start = .ok d := by
  induction paths generalizing start with
  | nil => simp [List.forall₂_nil_left_iff]
  | cons p rest ih =>
      rw [List.foldlM_cons, bind_eq_ok_iff]
      constructor
      · rintro ⟨joined, hjoined, hrest⟩
        obtain ⟨b, hb, hjoin⟩ := bind_eq_ok_iff.mp hjoined
        obtain ⟨documents, hheld, hd⟩ := ih.mp hrest
        refine ⟨b :: documents, .cons (document_eq_ok_iff.mp hb) hheld, ?_⟩
        rw [List.foldlM_cons]
        exact bind_eq_ok_iff.mpr ⟨joined, hjoin, hd⟩
      · rintro ⟨documents, hheld, hd⟩
        obtain ⟨b, rest', hb, hrest, rfl⟩ := List.forall₂_cons_left_iff.mp hheld
        rw [List.foldlM_cons] at hd
        obtain ⟨joined, hjoin, hd⟩ := bind_eq_ok_iff.mp hd
        exact ⟨joined, bind_eq_ok_iff.mpr ⟨b, document_eq_ok_iff.mpr hb, hjoin⟩,
          ih.mpr ⟨rest', hrest, hd⟩⟩

theorem wellKeyed_of_held {documents : List Document} (h : List.Forall₂ w.Holds paths documents) :
    ∀ b ∈ documents, b.WellKeyed := by
  intro b hb
  obtain ⟨p, -, hp⟩ := exists_of_mem_right h hb
  exact wellKeyed_of_holds hp

/-- A file holds one document. -/
theorem held_unique {documents documents' : List Document}
    (h : List.Forall₂ w.Holds paths documents) (h' : List.Forall₂ w.Holds paths documents') :
    documents = documents' := by
  have hunique : Relator.RightUnique w.Holds := by
    intro p b c hb hc
    exact Except.ok.inj ((document_eq_ok_iff.mpr hb).symm.trans (document_eq_ok_iff.mpr hc))
  exact hunique.forall₂ h h'

/-- Files are merged into a document when they hold documents that share no key, neither
    with it nor with each other. -/
theorem taken_eq_ok_iff {start : Document} :
    paths.foldlM w.takeUp start = .ok d ↔
      ∃ documents, List.Forall₂ w.Holds paths documents ∧
        (start :: documents).Pairwise Document.Apart ∧ d = Document.concat (start :: documents) := by
  rw [foldlM_document_eq_ok_iff]
  refine exists_congr fun documents => and_congr_right fun hheld => ?_
  rw [Document.foldlM_join_eq_ok_iff]
  exact and_iff_right (wellKeyed_of_held hheld)

/-- What is read of files is their documents one behind another, no two of which share a
    key. -/
theorem parse_eq_ok_iff :
    w.parse paths = .ok d ↔
      ∃ documents, List.Forall₂ w.Holds paths documents ∧ documents.Pairwise Document.Apart ∧
        d = Document.concat documents := by
  rw [parse_eq, taken_eq_ok_iff]
  refine exists_congr fun documents => and_congr_right fun _ => ?_
  rw [List.pairwise_cons]
  exact and_congr_left fun _ => and_iff_right fun b _ => Document.empty_apart b

/-- Files that hold documents are read exactly when no two of these share a key. -/
theorem parse_eq_ok_iff_of_held {documents : List Document}
    (hheld : List.Forall₂ w.Holds paths documents) :
    w.parse paths = .ok d ↔ documents.Pairwise Document.Apart ∧ d = Document.concat documents := by
  rw [parse_eq_ok_iff]
  constructor
  · rintro ⟨documents', hheld', hapart, hd⟩
    obtain rfl := held_unique hheld hheld'
    exact ⟨hapart, hd⟩
  · rintro ⟨hapart, hd⟩
    exact ⟨documents, hheld, hapart, hd⟩

theorem parse_append (w : Workspace) (ps qs : List Path) :
    w.parse (ps ++ qs) = w.parse ps >>= fun a => qs.foldlM w.takeUp a := by
  rw [parse_eq, parse_eq, List.foldlM_append]

/-- What is read of files in front and files behind them is merged from both. -/
theorem parse_append_eq_ok_iff :
    w.parse (ps ++ qs) = .ok d ↔
      ∃ a b, w.parse ps = .ok a ∧ w.parse qs = .ok b ∧ a.join b = .ok d := by
  rw [parse_append, bind_eq_ok_iff]
  refine exists_congr fun a => ?_
  rw [exists_and_left, taken_eq_ok_iff]
  refine and_congr_right fun _ => ?_
  constructor
  · rintro ⟨documents, hheld, hpair, rfl⟩
    obtain ⟨hfront, hapart⟩ := List.pairwise_cons.mp hpair
    have hkeyed : (Document.concat documents).WellKeyed :=
      Document.wellKeyed_concat_iff.mpr ⟨wellKeyed_of_held hheld, hapart⟩
    have hjoin : a.join (Document.concat documents) = .ok (Document.concat (a :: documents)) :=
      Document.join_eq_ok_iff.mpr ⟨hkeyed, Document.apart_concat_iff.mpr hfront,
        (Document.concat_cons a documents).symm⟩
    exact ⟨_, parse_eq_ok_iff.mpr ⟨documents, hheld, hapart, rfl⟩, hjoin⟩
  · rintro ⟨b, hb, hjoin⟩
    obtain ⟨documents, hheld, hapart, rfl⟩ := parse_eq_ok_iff.mp hb
    obtain ⟨-, hfront, rfl⟩ := Document.join_eq_ok_iff.mp hjoin
    exact ⟨documents, hheld,
      List.pairwise_cons.mpr ⟨Document.apart_concat_iff.mp hfront, hapart⟩,
      Document.concat_cons a documents⟩

/-- A single file is read as its text is. -/
theorem parse_singleton {text : String} (h : w.tree.readText w.directory p = .ok text) :
    w.parse [p] = Document.ofText p.text text := by
  rw [parse_eq, List.foldlM_cons]
  unfold takeUp document
  rw [h]
  dsimp only
  cases hd : Document.ofText p.text text with
  | error f => rfl
  | ok d =>
      have hjoin : Document.join {} d = .ok d :=
        Document.join_eq_ok_iff.mpr ⟨Document.wellKeyed_of_ofText hd, Document.empty_apart d,
          (Document.concat_singleton d).symm⟩
      show Document.join {} d >>= _ = _
      rw [hjoin]
      rfl

/-- Files are read as if their records stood in one document. -/
structure Seamless (w : Workspace) : Prop where
  /-- files that hold documents are read exactly when no key is in two of them, and then as
      these documents one behind another -/
  joined : ∀ paths documents d, List.Forall₂ w.Holds paths documents →
    (w.parse paths = .ok d ↔
      documents.Pairwise Document.Apart ∧ d = Document.concat documents)
  /-- a run over files that are read is a run over that one document -/
  run : ∀ s paths resolved documents, absolutePaths w.path paths = .ok resolved →
    List.Forall₂ w.Holds resolved documents → documents.Pairwise Document.Apart →
      (Run.ofFiles s paths : ExceptT Failure (StateM Workspace) _).run.run w =
        (.ok (Run.plan s (Document.concat documents)), w)
  /-- files are read exactly when those in front are, those behind are, and the two
      documents can be merged -/
  split : ∀ ps qs d, w.parse (ps ++ qs) = .ok d ↔
    ∃ a b, w.parse ps = .ok a ∧ w.parse qs = .ok b ∧ a.join b = .ok d
  /-- a single file is read as its text is, and a failure tells its path -/
  single : ∀ p text, w.tree.readText w.directory p = .ok text →
    (∀ d, w.parse [p] = .ok d ↔ Document.ofText unnamed text = .ok d) ∧
      ∀ f, w.parse [p] = .error f ↔ ∃ fault, f = .document p.text fault ∧
        Document.ofText unnamed text = .error (.document unnamed fault)
  /-- a failure is the same whatever files stand behind -/
  stops : ∀ ps qs f, w.parse ps = .error f → w.parse (ps ++ qs) = .error f

theorem seamless (w : Workspace) : w.Seamless := by
  refine ⟨?joined, ?run, ?split, ?single, ?stops⟩
  case joined => exact fun paths documents d => parse_eq_ok_iff_of_held
  case run =>
    intro s paths resolved documents hpaths hheld hapart
    have hparse : w.parse resolved = .ok (Document.concat documents) :=
      (parse_eq_ok_iff_of_held hheld).mpr ⟨hapart, rfl⟩
    rw [run_ofFiles, hpaths]
    show ((w.parse resolved).map (Run.plan s), w) = _
    rw [hparse]
    rfl
  case split => exact fun ps qs d => parse_append_eq_ok_iff
  case single =>
    intro p text htext
    rw [parse_singleton htext]
    unfold Document.ofText Source.ofText
    cases Json.Reader.whole Document.read text with
    | error problem => simp [eq_comm]
    | ok d => simp
  case stops =>
    intro ps qs f h
    rw [parse_append, h]
    rfl

/-- A workspace with two files, an entity in each. -/
def twoFiles : Workspace where
  tree := ⟨[(["a"], .file "[\x7b\"A\":[]\x7d]".toUTF8), (["b"], .file "[\x7b\"B\":[]\x7d]".toUTF8)]⟩
  directory := []

theorem seamless_twoFiles :
    List.Forall₂ twoFiles.Holds [⟨"a"⟩, ⟨"b"⟩]
        [{ entities := ⟨[("A", {})]⟩ }, { entities := ⟨[("B", {})]⟩ }] ∧
      twoFiles.parse [⟨"a"⟩, ⟨"b"⟩] = .ok { entities := ⟨[("A", {}), ("B", {})]⟩ } := by
  have hheld : List.Forall₂ twoFiles.Holds [⟨"a"⟩, ⟨"b"⟩]
      [{ entities := ⟨[("A", {})]⟩ }, { entities := ⟨[("B", {})]⟩ }] := by
    refine .cons ⟨"[\x7b\"A\":[]\x7d]", ?_, ?_⟩ (.cons ⟨"[\x7b\"B\":[]\x7d]", ?_, ?_⟩ .nil)
    all_goals decide +kernel
  refine ⟨hheld, ((seamless twoFiles).joined _ _ _ hheld).mpr ⟨?_, rfl⟩⟩
  exact List.pairwise_pair.mpr ⟨by simp [Collection.names], List.disjoint_nil_left _⟩

end Workspace

end EntityPlan
