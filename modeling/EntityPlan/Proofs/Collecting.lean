import EntityPlan.Proofs.Prediction
import EntityPlan.Proofs.Strictness
import EntityPlan.Proofs.Typing

/-! # Collecting — the diagnostics of a run

    Logging keeps those warnings and errors that its level admits, in the order of
    their arrival.  Of a run that has a plan it keeps a warning of each override that
    leaves its target without an import, in byte order of the types, and then one of
    each doubly scoped entity, in the order of declaration, and nothing else; a check
    says how many these are (`Command.check_counts_diagnostics`). -/

namespace EntityPlan

/-- Warnings pass every filter but the two that let less through. -/
theorem LogLevel.admits_warn (l : LogLevel) : l.admits .warn = !decide (l = .error ∨ l = .off) := by
  cases l <;> decide

/-! ## What there is to be kept of a run -/

/-- The override gives no import, or a blank one, and its target needs one. -/
def TypeOverride.Unresolved (o : TypeOverride) : Prop :=
  o.importName.all Text.allBlank = true ∧ ¬ TypeRow.Free o.target

instance (o : TypeOverride) : Decidable o.Unresolved := inferInstanceAs (Decidable (_ ∧ _))

theorem TypeRow.lacksImport_ofOverride (o : TypeOverride) :
    (ofOverride o).lacksImport = true ↔ o.Unresolved := by
  rw [lacksImport_iff]
  refine and_congr ?_ Iff.rfl
  show o.importName.filter (fun name => !Text.allBlank name) = none ↔ _
  cases o.importName with
  | none => exact ⟨fun _ => rfl, fun _ => rfl⟩
  | some name =>
      show (if !Text.allBlank name then some name else none) = none ↔ Text.allBlank name = true
      cases Text.allBlank name with
      | true => exact ⟨fun _ => rfl, fun _ => rfl⟩
      | false => exact ⟨fun h => (nomatch h), fun h => (nomatch h)⟩

/-- The details of an event stand behind its message. -/
theorem Event.text_of_message {e : Event} (h : e.message ≠ "") :
    e.text = " ".intercalate (e.message :: e.details.map fun d => d.1 ++ "=" ++ d.2) :=
  congrArg " ".intercalate (if_neg fun h' => h h'.1)

theorem TypeTable.text_missingImport (type : String) (row : TypeRow) :
    (missingImport type row).text =
      "type override target is not a Kotlin built-in and has no import jdl_type=" ++ type ++
        " target=" ++ row.target := by
  have hfront : "type override target is not a Kotlin built-in and has no import jdl_type=" =
      "type override target is not a Kotlin built-in and has no import" ++ " " ++
        ("jdl_type" ++ "=") := rfl
  have hback : " target=" = " " ++ ("target" ++ "=") := rfl
  rw [Event.text_of_message (of_decide_eq_true rfl), hfront, hback]
  show "type override target is not a Kotlin built-in and has no import" ++ " " ++
    ("jdl_type" ++ "=" ++ type) ++ " " ++ ("target" ++ "=" ++ row.target) = _
  simp only [String.append_assoc]

theorem Classification.text_doubleScope (entity : String) :
    (doubleScope entity).text =
      "entity is both tenant and business-unit scoped, using BusinessUnitResource entity=" ++
        entity := by
  have hfront :
      "entity is both tenant and business-unit scoped, using BusinessUnitResource entity=" =
        "entity is both tenant and business-unit scoped, using BusinessUnitResource" ++ " " ++
          ("entity" ++ "=") := rfl
  rw [Event.text_of_message (of_decide_eq_true rfl), hfront]
  show "entity is both tenant and business-unit scoped, using BusinessUnitResource" ++ " " ++
    ("entity" ++ "=" ++ entity) = _
  simp only [String.append_assoc]

namespace Run

variable {s : Settings} {d : Source.Document} {p : Plan}

/-- One warning of each override that leaves its target without an import it needs, in byte
    order of the types. -/
def overrideDiagnostics (s : Settings) : List Diagnostic :=
  (s.types.rows.filter fun o => o.2.Unresolved).map fun o =>
    ⟨.warn, "jdlgen_model::types",
      "type override target is not a Kotlin built-in and has no import jdl_type=" ++ o.1 ++
        " target=" ++ o.2.target⟩

/-- One warning of each entity that is marked for a business unit and for a tenant, in the
    order of declaration. -/
def scopeDiagnostics (d : Source.Document) : List Diagnostic :=
  ((declared d).filter fun e => e.DoublyScoped).map fun e =>
    ⟨.warn, "jdlgen_model::resource",
      "entity is both tenant and business-unit scoped, using BusinessUnitResource entity=" ++
        e.name⟩

/-- What is kept of a run that has a plan, by the active level. -/
def diagnostics (s : Settings) (d : Source.Document) (level : LogLevel) : List Diagnostic :=
  if level = .error ∨ level = .off then []
  else overrideDiagnostics s ++
    if s.generation.strictScoping = true then [] else scopeDiagnostics d

theorem diagnostics_overrideWarnings (s : Settings) :
    (TypeTable.overrideWarnings s.types).map Event.diagnostic = overrideDiagnostics s := by
  have hfilter : (TypeTable.overrideRows s.types).filter (fun r => r.2.lacksImport) =
      (s.types.rows.filter fun o => o.2.Unresolved).map fun o => (o.1, TypeRow.ofOverride o.2) := by
    unfold TypeTable.overrideRows
    rw [List.filter_map]
    refine congrArg _ (List.filter_congr fun o _ => ?_)
    rw [Bool.eq_iff_iff, decide_eq_true_iff]
    exact TypeRow.lacksImport_ofOverride o.2
  unfold TypeTable.overrideWarnings overrideDiagnostics
  rw [hfilter, List.map_map, List.map_map]
  refine List.map_congr_left fun o _ => ?_
  show Diagnostic.mk .warn TypeTable.target _ = _
  rw [TypeTable.text_missingImport]
  rfl

theorem diagnostics_scopeWarnings (d : Source.Document) :
    ((declared d).flatMap Classification.scopeWarnings).map Event.diagnostic =
      scopeDiagnostics d := by
  unfold scopeDiagnostics
  induction declared d with
  | nil => rfl
  | cons e rest ih =>
      rw [List.flatMap_cons, List.map_append, ih, List.filter_cons]
      unfold Classification.scopeWarnings
      by_cases h : e.DoublyScoped
      · rw [if_pos h, if_pos (decide_eq_true h), List.map_cons]
        show Diagnostic.mk .warn Classification.target _ :: _ = _
        rw [Classification.text_doubleScope]
        rfl
      · rw [if_neg h, if_neg (mt of_decide_eq_true h)]
        rfl

/-- The events of a run that has a plan are what there is to be kept of it. -/
theorem diagnostics_events (h : (plan s d).answer = .ok p) :
    (plan s d).events.map Event.diagnostic = overrideDiagnostics s ++
      if s.generation.strictScoping = true then [] else scopeDiagnostics d := by
  rw [events_plan h, List.map_append, diagnostics_overrideWarnings, diagnostics_scopeWarnings]
  by_cases hstrict : s.generation.strictScoping = true
  · -- a strict run has no plan with such an entity
    have hsame : s.withScoping true = s := by rw [← hstrict]; rfl
    have hnone : ∀ e ∈ declared d, ¬ e.DoublyScoped := not_doublyScoped_of_plan (hsame.symm ▸ h)
    have hempty : scopeDiagnostics d = [] := by
      unfold scopeDiagnostics
      rw [List.map_eq_nil_iff, List.filter_eq_nil_iff]
      exact fun e he => mt of_decide_eq_true (hnone e he)
    rw [if_pos hstrict, hempty]
  · rw [if_neg hstrict]

theorem level_of_mem_events (h : (plan s d).answer = .ok p) :
    ∀ e ∈ (plan s d).events, e.level = .warn := by
  rw [events_plan h]
  intro e he
  rcases List.mem_append.mp he with he | he
  · obtain ⟨r, -, rfl⟩ := List.mem_map.mp he
    rfl
  · obtain ⟨x, -, hx⟩ := List.mem_flatMap.mp he
    obtain ⟨-, rfl⟩ := Classification.mem_scopeWarnings_iff.mp hx
    rfl

/-- All that a run with a plan says is of the kind that is kept. -/
theorem kept_events (h : (plan s d).answer = .ok p) :
    (plan s d).events.filter (·.level.isKept) = (plan s d).events := by
  refine List.filter_eq_self.mpr fun e he => ?_
  rw [level_of_mem_events h e he]
  rfl

theorem level_of_mem_diagnostics {level : LogLevel} {x : Diagnostic}
    (hx : x ∈ diagnostics s d level) : x.level = .warn := by
  have hall : ∀ y ∈ overrideDiagnostics s ++ scopeDiagnostics d, y.level = .warn := by
    intro y hy
    rcases List.mem_append.mp hy with hy | hy
    · obtain ⟨o, -, rfl⟩ := List.mem_map.mp hy
      rfl
    · obtain ⟨e, -, rfl⟩ := List.mem_map.mp hy
      rfl
  unfold diagnostics at hx
  split at hx
  · exact nomatch hx
  · refine hall x ?_
    split at hx
    · exact List.mem_append_left _ (List.append_nil (overrideDiagnostics s) ▸ hx)
    · exact hx

/-- Logging at a level keeps of a run what the level lets through, whatever else of lower
    rank is logged between its warnings. -/
theorem entries_of_plan (h : (plan s d).answer = .ok p) {handle : LevelHandle} {level : LogLevel}
    {events : List Event} (hlevel : handle.filter = some level)
    (hevents : events.filter (·.level.isKept) = (plan s d).events) :
    ((⟨handle, .empty⟩ : Logging).emitAll events).collector.entries = diagnostics s d level := by
  have hadmits : handle.admits .warn = !decide (level = .error ∨ level = .off) := by
    unfold LevelHandle.admits
    rw [hlevel]
    exact level.admits_warn
  have hall : ∀ e ∈ (plan s d).events,
      handle.admits e.level = !decide (level = .error ∨ level = .off) :=
    fun e he => level_of_mem_events h e he ▸ hadmits
  rw [Logging.entries_emitAll, ← List.filter_filter, hevents]
  show [] ++ ((plan s d).events.filter fun e => handle.admits e.level).map Event.diagnostic = _
  rw [List.nil_append, List.filter_congr hall]
  unfold diagnostics
  by_cases hquiet : level = .error ∨ level = .off
  · rw [if_pos hquiet, decide_eq_true hquiet]
    exact congrArg _ (List.filter_eq_nil_iff.mpr fun _ _ => Bool.false_ne_true)
  · rw [if_neg hquiet, decide_eq_false hquiet, ← diagnostics_events h]
    exact congrArg _ (List.filter_eq_self.mpr fun _ _ => rfl)

end Run

/-! ## What a check counts -/

namespace Command

open Run (diagnostics)

variable {σ : Type} [Storage (StateM σ)] {verbose : Bool} {documents : List Path}
  {settings : Option Path} {s : Settings} {d : Source.Document} {p : Plan} {g : Logging} {w : σ}

/-- The level that is active when a command makes its plan. -/
def activeLevel (verbose : Bool) (s : Settings) : LogLevel := if verbose then .debug else s.level

theorem logging_eq (verbose : Bool) (s : Settings) :
    logging verbose s = .installed (activeLevel verbose s) := by
  cases verbose <;> rfl

/-- On this file system the settings of a command are these, and its documents are read as
    this one. -/
structure Reads (w : σ) (documents : List Path) (settings : Option Path) (s : Settings)
    (d : Source.Document) : Prop where
  settings : (Settings.load settings : ExceptT CommandFailure (StateM σ) _).run.run w = (.ok s, w)
  document : ∃ paths,
    (Inputs.documents documents s : ExceptT CommandFailure (StateM σ) _).run.run w =
      (.ok paths, w) ∧
    (Source.Document.load paths : ExceptT Failure (StateM σ) _).run.run w = (.ok d, w)

omit [Storage (StateM σ)] in
/-- A step of a command succeeds as the step of the run does. -/
theorem run_ofRun_eq_ok {α : Type} {x : ExceptT Failure (StateM σ) α} {a : α} {w' : σ}
    (h : (ofRun x).run.run w = (.ok a, w')) : x.run.run w = (.ok a, w') := by
  have hrun : (ofRun x).run.run w =
      ((x.run.run w).1.mapError CommandFailure.run, (x.run.run w).2) := rfl
  rw [hrun] at h
  generalize x.run.run w = y at h ⊢
  obtain ⟨r, w₁⟩ := y
  cases r with
  | ok b =>
      cases h
      rfl
  | error f => exact nomatch congrArg Prod.fst h

variable [Storage.Steady σ]

/-- What has a plan on a file system was read there, and logging has the events of the run. -/
theorem Planned.exists_reads (h : Planned w verbose documents settings s p g) :
    ∃ d, Reads w documents settings s d ∧ (Run.plan s d).answer = .ok p ∧
      g = (logging verbose s).emitAll (Run.plan s d).events := by
  obtain ⟨paths, w₁, hpaths, hplan⟩ := run_bind_eq_ok_iff.mp h.plan
  obtain rfl : w = w₁ := (congrArg Prod.snd hpaths ▸ Inputs.quiet_documents documents s w).symm
  obtain ⟨traced, w₂, htraced, hplan⟩ := run_bind_eq_ok_iff.mp hplan
  obtain ⟨d, w₃, hd, hrun⟩ := run_bind_eq_ok_iff.mp (run_ofRun_eq_ok htraced)
  obtain rfl : w = w₃ := (congrArg Prod.snd hd ▸ Source.quiet_load paths w).symm
  obtain ⟨rfl, rfl⟩ : Run.plan s d = traced ∧ w = w₂ := by
    cases hrun
    exact ⟨rfl, rfl⟩
  obtain ⟨q, w₄, hq, hlast⟩ := run_bind_eq_ok_iff.mp hplan
  cases hlast
  have hanswer : ((Run.plan s d).answer, w) = (Except.ok p, w) := run_ofRun_eq_ok hq
  exact ⟨d, ⟨h.settings, paths, hpaths, hd⟩, congrArg Prod.fst hanswer, rfl⟩

/-- What a check says of a plan and of so many warnings. -/
def countReport (p : Plan) (warnings : Nat) : Report :=
  ⟨p.summary ++ "\n✓ JDL is valid (" ++ toString warnings ++ " warnings)\n", none⟩

/-- A check that succeeds says how many diagnostics there are of the run. -/
theorem exists_count_of_check (hstatus :
    (outcome ⟨verbose, .check documents settings⟩ w).1.status = 0) :
    ∃ s d p, Reads w documents settings s d ∧ (Run.plan s d).answer = .ok p ∧
      outcome ⟨verbose, .check documents settings⟩ w =
        (countReport p (diagnostics s d (activeLevel verbose s)).length, w) := by
  rcases planned_or_fails w verbose documents settings with ⟨s, p, g, h⟩ | ⟨f, hfails⟩
  · obtain ⟨d, hreads, hp, rfl⟩ := h.exists_reads
    refine ⟨s, d, p, hreads, hp, h.outcome_check.trans ?_⟩
    have hentries : ((logging verbose s).emitAll (Run.plan s d).events).collector.entries =
        diagnostics s d (activeLevel verbose s) := by
      rw [logging_eq]
      exact Run.entries_of_plan hp rfl (Run.kept_events hp)
    have hcount : ((logging verbose s).emitAll (Run.plan s d).events).collector.warningCount =
        (diagnostics s d (activeLevel verbose s)).length := by
      unfold Collector.warningCount Collector.count
      rw [hentries]
      exact List.countP_eq_length.mpr fun x hx => beq_iff_eq.mpr (Run.level_of_mem_diagnostics hx)
    unfold Report.ofCheck countReport
    rw [hcount]
  · -- a check that fails does not exit with zero
    have hending : ending ⟨verbose, .check documents settings⟩ w = (.error f, w) := hfails _
    rw [outcome_eq, hending, Report.status_eq_zero_iff] at hstatus
    exact nomatch hstatus

/-- Of every run that has a plan the diagnostics are kept that the active level lets through,
    and nothing else, whatever is logged below a warning; and every check that succeeds says
    how many they are, of what it has read and at the level that was active. -/
theorem check_counts_diagnostics :
    (∀ (s : Settings) (d : Source.Document) (p : Plan), (Run.plan s d).answer = .ok p →
      ∀ (handle : LevelHandle) (level : LogLevel) (events : List Event),
        handle.filter = some level →
          events.filter (·.level.isKept) = (Run.plan s d).events →
            ((⟨handle, .empty⟩ : Logging).emitAll events).collector.entries =
              diagnostics s d level) ∧
    ∀ (w : σ) (verbose : Bool) (documents : List Path) (settings : Option Path),
      (outcome ⟨verbose, .check documents settings⟩ w).1.status = 0 →
        ∃ s d p, Reads w documents settings s d ∧ (Run.plan s d).answer = .ok p ∧
          outcome ⟨verbose, .check documents settings⟩ w =
            (countReport p (diagnostics s d (activeLevel verbose s)).length, w) := by
  refine ⟨fun s d p h handle level events => Run.entries_of_plan h, ?_⟩
  exact fun w verbose documents settings => exists_count_of_check

/-- A document with an entity that is marked for both scopes, and the text of it. -/
def deskDocument : Source.Document where
  entities := ⟨[("A",
    { name := some "A"
      body := some []
      annotations := some
        [{ name := some "tenantScoped" }, { name := some "businessUnitScoped" }] })]⟩
  applications := ⟨[("B",
    { config := some { baseName := some "B" }, entities := some { listed := some ["A"] } })]⟩

def deskText : String :=
  "[\x7b\"A\":[\"A\",null,null,[],[[\"tenantScoped\"],[\"businessUnitScoped\"]]]\x7d," ++
    "\x7b\"B\":[[\"B\"],[[\"A\"]]]\x7d]"

/-- A workspace with this document in its only file. -/
def desk : Workspace where
  tree := ⟨[(["m"], .file deskText.toUTF8)]⟩
  directory := []

theorem desk_holds : desk.Holds ⟨"/m"⟩ deskDocument := by
  refine ⟨deskText, ?_, ?_⟩
  all_goals decide +kernel

/-- A run with a warning of each kind, of which logging keeps both or none; and a check that
    counts the one warning of its document. -/
theorem check_counts_diagnostics_desk :
    (∃ p, (Run.plan (Settings.withTypes {} Run.currencies) deskDocument).answer = .ok p) ∧
      ((⟨⟨some .info, LogLevel.info.byte⟩, .empty⟩ : Logging).emitAll
          (Run.plan (Settings.withTypes {} Run.currencies) deskDocument).events).collector.entries =
        [ ⟨.warn, "jdlgen_model::types",
            "type override target is not a Kotlin built-in and has no import " ++
              "jdl_type=Money target=BigDecimal"⟩,
          ⟨.warn, "jdlgen_model::resource",
            "entity is both tenant and business-unit scoped, using BusinessUnitResource " ++
              "entity=A"⟩ ] ∧
      ((⟨⟨some .error, LogLevel.error.byte⟩, .empty⟩ : Logging).emitAll
          (Run.plan (Settings.withTypes {} Run.currencies) deskDocument).events).collector.entries =
        [] ∧
      (outcome ⟨true, .check [⟨"/m"⟩] none⟩ desk).1.status = 0 ∧
        ∃ s d p, Reads desk [⟨"/m"⟩] none s d ∧ (Run.plan s d).answer = .ok p ∧
          outcome ⟨true, .check [⟨"/m"⟩] none⟩ desk =
            (countReport p (diagnostics s d .debug).length, desk) := by
  have hcounts := check_counts_diagnostics (σ := Workspace)
  obtain ⟨p, hp⟩ : ∃ p, (Run.plan (Settings.withTypes {} Run.currencies) deskDocument).answer =
    .ok p := ⟨_, rfl⟩
  obtain ⟨text, htext, hd⟩ := desk_holds
  have hparse : desk.parse [⟨"/m"⟩] = .ok deskDocument :=
    (Workspace.parse_singleton htext).trans hd
  obtain ⟨q, hq⟩ : ∃ q, (Run.plan {} deskDocument).answer = .ok q := ⟨_, rfl⟩
  have hpaths : Source.absolutePaths desk.path [⟨"/m"⟩] = .ok [⟨"/m"⟩] := rfl
  have hplanned : Planned desk true [⟨"/m"⟩] none {} q _ :=
    planned_of_parse true rfl (List.cons_ne_nil _ _) hpaths hparse hq
  have hstatus : (outcome ⟨true, .check [⟨"/m"⟩] none⟩ desk).1.status = 0 := by
    rw [hplanned.outcome_check]
    rfl
  refine ⟨⟨p, hp⟩, ?_, ?_, hstatus, hcounts.2 desk true [⟨"/m"⟩] none hstatus⟩
  · exact (hcounts.1 _ _ p hp _ .info _ rfl (Run.kept_events hp)).trans rfl
  · exact hcounts.1 _ _ p hp _ .error _ rfl (Run.kept_events hp)

end Command

end EntityPlan
