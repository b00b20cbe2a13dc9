import EntityPlan.Proofs.Inspection
import EntityPlan.Proofs.Splitting

/-! # Prediction — what a check tells of generating

    Checking and generating begin alike: settings are loaded, documents are found and
    read, and a plan is made.  Up to there nothing is written, so whatever a check
    fails for, generating fails for as well, and it leaves no trace; and a check that
    succeeds has shown the plan that generating hands to the sink
    (`Command.check_predicts_generate`).

    The failure of a command is told as a chain of errors, the outermost first, and
    the exit status is taken from the first failure of a run that the chain holds. -/

namespace EntityPlan

/-! ## Chains of errors -/

/-- One error of a chain. -/
inductive ErrorLink
  /-- what was being done -/
  | context (text : String)
  | failure (f : Failure)
  | fault (f : StorageFault)

namespace ErrorLink

/-- The text of an error by itself. -/
def text : ErrorLink → String
  | .context text => text
  | .failure f => f.message
  | .fault f => f.message

/-- The failure of a run, if the error is one. -/
def failure? : ErrorLink → Option Failure
  | .failure f => some f
  | .context _ | .fault _ => none

end ErrorLink

namespace CommandFailure

/-- The errors behind a failure, the outermost first. -/
def chain : CommandFailure → List ErrorLink
  | .run f => [.failure f]
  | .settings file f => [.context ("failed to load configuration " ++ file.text), .failure f]
  | .inputDirectory d f => [.context ("failed to read input directory " ++ d.text), .fault f]
  | .noInputs d => [.context ("no JDL JSON files found in " ++ d.text)]

/-- The text of a failure is that of its chain. -/
theorem message_eq_chain (f : CommandFailure) :
    f.message = ": ".intercalate (f.chain.map (·.text)) := by
  cases f <;> rfl

/-- The exit status is the code of the first failure of a run in the chain, or one. -/
theorem code_eq_chain (f : CommandFailure) :
    f.code = (f.chain.findSome? (·.failure?)).elim 1 Failure.code := by
  cases f <;> rfl

/-- An exit status fits into a byte. -/
theorem code_lt (f : CommandFailure) : f.code < 256 := by
  have hrun : ∀ f : Failure, f.code < 256 := by
    intro f
    cases f <;> exact of_decide_eq_true rfl
  cases f with
  | run f => exact hrun f
  | settings _ f => exact hrun f
  | inputDirectory => exact of_decide_eq_true rfl
  | noInputs => exact of_decide_eq_true rfl

end CommandFailure

/-! ## Reports -/

namespace Report

/-- The report of a command that ends like this. -/
def ofEnding : Except CommandFailure String → Report
  | .ok text => ⟨text, none⟩
  | .error f => ⟨"", some f⟩

/-- A command exits with zero exactly when it does not fail. -/
theorem status_eq_zero_iff {r : Report} : r.status = 0 ↔ r.failure = none := by
  obtain ⟨output, failure⟩ := r
  cases failure with
  | none => exact ⟨fun _ => rfl, fun _ => rfl⟩
  | some f => exact ⟨fun h => absurd h (Nat.ne_of_gt f.code_pos), fun h => nomatch h⟩

/-- A command that fails exits with the code of the first failure of a run in the chain of its
    errors, or with one, and never as a success.  What it says of the failure is its chain. -/
structure ExitsByChain (r : Report) : Prop where
  status : ∀ f, r.failure = some f →
    r.status = (f.chain.findSome? (·.failure?)).elim 1 Failure.code
  /-- the status of a process is a byte -/
  nonzero : ∀ f, r.failure = some f → 0 < r.status ∧ r.status < 256
  message : ∀ f, r.failure = some f → f.message = ": ".intercalate (f.chain.map (·.text))

theorem status_of_failure {r : Report} {f : CommandFailure} (h : r.failure = some f) :
    r.status = f.code := by
  show r.failure.elim 0 CommandFailure.code = f.code
  rw [h]
  rfl

theorem exitsByChain (r : Report) : r.ExitsByChain where
  status f hf := (status_of_failure hf).trans f.code_eq_chain
  nonzero f hf := (status_of_failure hf).symm ▸ ⟨f.code_pos, f.code_lt⟩
  message f _ := f.message_eq_chain

/-- The report of a check that shows this plan. -/
def ofCheck (p : Plan) (g : Logging) : Report :=
  ⟨p.summary ++ "\n✓ JDL is valid (" ++ toString g.collector.warningCount ++ " warnings)\n", none⟩

/-- The report of generating when the sink has taken this plan. -/
def ofSink (out : Path) (p : Plan) (o : Outcome Failure Sink) : Report :=
  match o.ending with
  | .error f => ⟨"", some (.run f)⟩
  | .ok () =>
      ⟨"✓ Generated " ++ toString p.entityCount ++ " entities in " ++
        toString p.groups.length ++ " modules\n✓ Wrote " ++
        toString o.state.written.length ++ " files to " ++ out.text ++ "\n", none⟩

end Report

namespace Command

variable {σ : Type} [Storage (StateM σ)] {verbose : Bool} {documents : List Path}
  {out settings : Option Path} {s : Settings} {p : Plan} {g : Logging} {w : σ}

/-- How an invocation ends on a file system, and what it makes of it. -/
def ending (i : Invocation) (w : σ) : Except CommandFailure String × σ :=
  (output i.verbose i.action : ExceptT CommandFailure (StateM σ) String).run.run w

/-- What an invocation reports on a file system, and what it makes of it. -/
def outcome (i : Invocation) (w : σ) : Report × σ := (execute i : StateM σ Report).run w

theorem outcome_eq (i : Invocation) (w : σ) :
    outcome i w = (Report.ofEnding (ending i w).1, (ending i w).2) := by
  have hexecute : (execute i : StateM σ Report) = (do
      let r ← (output i.verbose i.action : ExceptT CommandFailure (StateM σ) String).run
      return Report.ofEnding r) := by
    refine bind_congr fun r => ?_
    cases r <;> rfl
  show (execute i : StateM σ Report).run w = _
  rw [hexecute]
  rfl

/-! ## Commands that make a plan -/

/-- Makes a plan and goes on with it. -/
def withPlan (verbose : Bool) (documents : List Path) (settings : Option Path)
    (next : Settings → Plan × Logging → ExceptT CommandFailure (StateM σ) String) :
    ExceptT CommandFailure (StateM σ) String := do
  let s ← Settings.load settings
  next s (← plan verbose s documents)

/-- Hands a plan to the sink and says what became of it. -/
def handOver (out : Path) (p : Plan) : ExceptT CommandFailure (StateM σ) String := do
  let o ← Sink.accept (m := StateM σ) ⟨out, []⟩ p
  match (Report.ofSink out p o).failure with
  | some f => throw f
  | none => return (Report.ofSink out p o).output

theorem check_eq_withPlan (verbose : Bool) (documents : List Path) (settings : Option Path) :
    (check verbose documents settings : ExceptT CommandFailure (StateM σ) String) =
      withPlan verbose documents settings fun _ r => pure (Report.ofCheck r.1 r.2).output := rfl

theorem generate_eq_withPlan (verbose : Bool) (documents : List Path)
    (out settings : Option Path) :
    (generate verbose documents out settings : ExceptT CommandFailure (StateM σ) String) =
      withPlan verbose documents settings fun s r =>
        handOver (out.getD s.directories.output) r.1 := by
  refine bind_congr fun s => bind_congr fun r => bind_congr fun o => ?_
  obtain ⟨state, ending⟩ := o
  cases ending <;> rfl

theorem run_handOver (out : Path) (p : Plan) (w : σ) :
    (Report.ofEnding ((handOver out p : ExceptT CommandFailure (StateM σ) _).run.run w).1,
        ((handOver out p : ExceptT CommandFailure (StateM σ) _).run.run w).2) =
      (Report.ofSink out p ((Sink.accept ⟨out, []⟩ p : StateM σ _).run w).1,
        ((Sink.accept ⟨out, []⟩ p : StateM σ _).run w).2) := by
  have haccept : (liftM (Sink.accept ⟨out, []⟩ p : StateM σ _) :
      ExceptT CommandFailure (StateM σ) _).run.run w =
        (.ok ((Sink.accept ⟨out, []⟩ p : StateM σ _).run w).1,
          ((Sink.accept ⟨out, []⟩ p : StateM σ _).run w).2) := rfl
  rw [handOver, run_bind, haccept]
  obtain ⟨⟨state, ending⟩, w'⟩ := (Sink.accept ⟨out, []⟩ p : StateM σ _).run w
  cases ending <;> rfl

/-- On this file system the settings are these, the documents have this plan by them, and
    logging is then so. -/
structure Planned (w : σ) (verbose : Bool) (documents : List Path) (settings : Option Path)
    (s : Settings) (p : Plan) (g : Logging) : Prop where
  settings : (Settings.load settings : ExceptT CommandFailure (StateM σ) _).run.run w = (.ok s, w)
  plan : (plan verbose s documents : ExceptT CommandFailure (StateM σ) _).run.run w =
    (.ok (p, g), w)

theorem Planned.run_withPlan (h : Planned w verbose documents settings s p g)
    (next : Settings → Plan × Logging → ExceptT CommandFailure (StateM σ) String) :
    (withPlan verbose documents settings next).run.run w = (next s (p, g)).run.run w := by
  rw [withPlan, run_bind, h.settings]
  dsimp only
  rw [run_bind, h.plan]

/-- A check shows the plan. -/
theorem Planned.outcome_check (h : Planned w verbose documents settings s p g) :
    outcome ⟨verbose, .check documents settings⟩ w = (Report.ofCheck p g, w) := by
  have hending : ending ⟨verbose, .check documents settings⟩ w =
      (.ok (Report.ofCheck p g).output, w) := by
    show (check verbose documents settings : ExceptT CommandFailure (StateM σ) _).run.run w = _
    rw [check_eq_withPlan, h.run_withPlan]
    rfl
  rw [outcome_eq, hending]
  rfl

/-- Generating hands the plan to the sink. -/
theorem Planned.outcome_generate (h : Planned w verbose documents settings s p g)
    (out : Option Path) {o : Outcome Failure Sink} {w' : σ}
    (ho : (Sink.accept ⟨out.getD s.directories.output, []⟩ p : StateM σ _).run w = (o, w')) :
    outcome ⟨verbose, .generate documents out settings⟩ w =
      (Report.ofSink (out.getD s.directories.output) p o, w') := by
  have hending : ending ⟨verbose, .generate documents out settings⟩ w =
      (handOver (out.getD s.directories.output) p :
        ExceptT CommandFailure (StateM σ) _).run.run w := by
    show (generate verbose documents out settings :
      ExceptT CommandFailure (StateM σ) _).run.run w = _
    rw [generate_eq_withPlan, h.run_withPlan]
  rw [outcome_eq, hending, run_handOver, ho]

variable [Storage.Steady σ]

/-- There is a plan, or else whatever begins with one fails alike and leaves no trace. -/
theorem planned_or_fails (w : σ) (verbose : Bool) (documents : List Path)
    (settings : Option Path) :
    (∃ s p g, Planned w verbose documents settings s p g) ∨
      ∃ f, ∀ next, (withPlan verbose documents settings next :
        ExceptT CommandFailure (StateM σ) String).run.run w = (.error f, w) := by
  have hload := (Settings.quiet_load (σ := σ) settings).run_eq w
  cases hs : ((Settings.load settings : ExceptT CommandFailure (StateM σ) _).run.run w).1 with
  | error f =>
      rw [hs] at hload
      refine Or.inr ⟨f, ?_⟩
      intro next
      rw [withPlan, run_bind, hload]
  | ok s =>
      rw [hs] at hload
      have hplan := (quiet_plan (σ := σ) verbose s documents).run_eq w
      cases hp :
          ((plan verbose s documents : ExceptT CommandFailure (StateM σ) _).run.run w).1 with
      | error f =>
          rw [hp] at hplan
          refine Or.inr ⟨f, ?_⟩
          intro next
          rw [withPlan, run_bind, hload]
          dsimp only
          rw [run_bind, hplan]
      | ok r =>
          rw [hp] at hplan
          exact Or.inl ⟨s, r.1, r.2, hload, hplan⟩

theorem quiet_types (settings : Option Path) :
    Quiet (types settings : ExceptT CommandFailure (StateM σ) String).run :=
  Quiet.run_bind (Settings.quiet_load settings) fun _ => Quiet.run_pure _

/-- What a check on a file system tells of generating from the same arguments. -/
structure Foresees (w : σ) (verbose : Bool) (documents : List Path) (out settings : Option Path) :
    Prop where
  /-- where the check fails, generating reports the same failure and writes nothing -/
  refused : (outcome ⟨verbose, .check documents settings⟩ w).1.status ≠ 0 →
    outcome ⟨verbose, .generate documents out settings⟩ w =
      ((outcome ⟨verbose, .check documents settings⟩ w).1, w)
  /-- where it succeeds, generating hands the plan that it has shown to the sink, and what
      the sink makes of it is all that generating does -/
  accepted : (outcome ⟨verbose, .check documents settings⟩ w).1.status = 0 →
    ∃ s p g, Planned w verbose documents settings s p g ∧
      (outcome ⟨verbose, .check documents settings⟩ w).1 = Report.ofCheck p g ∧
        ∀ o w', (Sink.accept ⟨out.getD s.directories.output, []⟩ p : StateM σ _).run w = (o, w') →
          outcome ⟨verbose, .generate documents out settings⟩ w =
            (Report.ofSink (out.getD s.directories.output) p o, w')
  /-- checking changes nothing -/
  check_keeps : (outcome ⟨verbose, .check documents settings⟩ w).2 = w
  /-- showing the type table changes nothing -/
  types_keeps : (outcome ⟨verbose, .types settings⟩ w).2 = w
  /-- whatever the command is, its status tells the failure -/
  exits : ∀ action, (outcome ⟨verbose, action⟩ w).1.ExitsByChain

/-- On every file system that is not changed by being asked, a check predicts generating. -/
theorem check_predicts_generate (w : σ) (verbose : Bool) (documents : List Path)
    (out settings : Option Path) : Foresees w verbose documents out settings := by
  have htypes : (outcome ⟨verbose, .types settings⟩ w).2 = w := by
    rw [outcome_eq]
    exact quiet_types settings w
  rcases planned_or_fails w verbose documents settings with ⟨s, p, g, h⟩ | ⟨f, hfails⟩
  · have hcheck := h.outcome_check
    refine ⟨?refused, ?accepted, ?check_keeps, htypes, fun _ => Report.exitsByChain _⟩
    case refused =>
      intro hstatus
      rw [hcheck] at hstatus
      exact absurd rfl hstatus
    case accepted =>
      intro _
      exact ⟨s, p, g, h, congrArg Prod.fst hcheck, fun o w' ho => h.outcome_generate out ho⟩
    case check_keeps =>
      rw [hcheck]
  · have hcheck : outcome ⟨verbose, .check documents settings⟩ w = (⟨"", some f⟩, w) := by
      have hending : ending ⟨verbose, .check documents settings⟩ w = (.error f, w) := hfails _
      rw [outcome_eq, hending]
      rfl
    have hgenerate : outcome ⟨verbose, .generate documents out settings⟩ w =
        (⟨"", some f⟩, w) := by
      have hending : ending ⟨verbose, .generate documents out settings⟩ w = (.error f, w) := by
        show (generate verbose documents out settings :
          ExceptT CommandFailure (StateM σ) _).run.run w = _
        rw [generate_eq_withPlan]
        exact hfails _
      rw [outcome_eq, hending]
      rfl
    refine ⟨?refused, ?accepted, ?check_keeps, htypes, fun _ => Report.exitsByChain _⟩
    case refused =>
      intro _
      rw [hcheck, hgenerate]
    case accepted =>
      intro hstatus
      rw [hcheck, Report.status_eq_zero_iff] at hstatus
      exact nomatch hstatus
    case check_keeps =>
      rw [hcheck]

/-- Named documents that are read have the plan of what is read of them. -/
theorem planned_of_parse {w : Workspace} {resolved : List Path} {d : Source.Document}
    (verbose : Bool)
    (hs : (Settings.load settings : ExceptT CommandFailure (StateM Workspace) _).run.run w =
      (.ok s, w))
    (hnamed : documents ≠ [])
    (hpaths : Source.absolutePaths w.path documents = .ok resolved)
    (hd : w.parse resolved = .ok d) (hp : (Run.plan s d).answer = .ok p) :
    Planned w verbose documents settings s p
      ((logging verbose s).emitAll (Run.plan s d).events) := by
  refine ⟨hs, ?_⟩
  have hdocuments : (Inputs.documents documents s :
      ExceptT CommandFailure (StateM Workspace) _).run.run w = (.ok documents, w) := by
    cases documents with
    | nil => exact absurd rfl hnamed
    | cons path rest => rfl
  have hrun : (ofRun (Run.ofFiles s documents) :
      ExceptT CommandFailure (StateM Workspace) _).run.run w = (.ok (Run.plan s d), w) := by
    have hfiles := Workspace.run_ofFiles w s documents
    rw [hpaths] at hfiles
    show (fun r : Except Failure (Traced Plan) × Workspace =>
      (r.1.mapError CommandFailure.run, r.2)) ((Run.ofFiles s documents :
        ExceptT Failure (StateM Workspace) _).run.run w) = _
    rw [hfiles]
    show (((w.parse resolved).map (Run.plan s)).mapError CommandFailure.run, w) = _
    rw [hd]
    rfl
  rw [plan, run_bind, hdocuments]
  dsimp only
  rw [run_bind, hrun]
  dsimp only
  rw [hp]
  rfl

/-- A document in which an application claims the only entity. -/
def shelfDocument : Source.Document where
  entities := ⟨[("A", { name := some "A", body := some [] })]⟩
  applications := ⟨[("B",
    { config := some { baseName := some "B" }, entities := some { listed := some ["A"] } })]⟩

/-- A workspace with this document in its only file. -/
def shelf : Workspace where
  tree := ⟨[(["m"], .file
    "[\x7b\"A\":[\"A\",null,null,[]]\x7d,\x7b\"B\":[[\"B\"],[[\"A\"]]]\x7d]".toUTF8)]⟩
  directory := []

theorem shelf_holds : shelf.Holds ⟨"/m"⟩ shelfDocument := by
  refine ⟨"[\x7b\"A\":[\"A\",null,null,[]]\x7d,\x7b\"B\":[[\"B\"],[[\"A\"]]]\x7d]", ?_, ?_⟩
  all_goals decide +kernel

/-- A check that succeeds, and one that finds no documents. -/
theorem check_predicts_generate_shelf :
    (outcome ⟨false, .check [⟨"/m"⟩] none⟩ shelf).1.status = 0 ∧
      Foresees shelf false [⟨"/m"⟩] none none ∧
        (outcome ⟨true, .check [] none⟩ shelf).1.status = 1 ∧
          Foresees shelf true [] (some ⟨"out"⟩) none := by
  obtain ⟨text, htext, hd⟩ := shelf_holds
  have hparse : shelf.parse [⟨"/m"⟩] = .ok shelfDocument :=
    (Workspace.parse_singleton htext).trans hd
  obtain ⟨p, hp⟩ : ∃ p, (Run.plan {} shelfDocument).answer = .ok p := ⟨_, rfl⟩
  have hpaths : Source.absolutePaths shelf.path [⟨"/m"⟩] = .ok [⟨"/m"⟩] := rfl
  have hplanned : Planned shelf false [⟨"/m"⟩] none {} p _ :=
    planned_of_parse false rfl (List.cons_ne_nil _ _) hpaths hparse hp
  refine ⟨?_, check_predicts_generate shelf false [⟨"/m"⟩] none none, rfl,
    check_predicts_generate shelf true [] (some ⟨"out"⟩) none⟩
  rw [hplanned.outcome_check]
  rfl

end Command

end EntityPlan
