import EntityPlan.Diagnostics.Logging
import EntityPlan.Proofs.Traversal
import Mathlib.Data.List.Induction

/-! # Level histories — switching, logging and forgetting in any order

    The installed filter, the level last set and the diagnostics are changed by different
    calls, and a call to switch the level may be refused between its two writes.  After any
    history they agree (`Logging.Agrees`): the level is that of the last call that was not
    refused, the filter is the one for it, and the entries are the warnings and errors since
    the last clearing that the level of their time admitted.  Before logging is installed
    every call fails and leaves nothing behind (`Logging.histories_keep_agreement`). -/

namespace EntityPlan

namespace LevelHandle

variable {h : LevelHandle} {l : LogLevel}

/-- A call that is not refused switches the installed filter and stores the level; one that is
    refused ends between the two, with nothing changed. -/
theorem reloadUnless_of_installed (hfilter : h.filter = some l) (refusal : Option String)
    (l' : LogLevel) :
    h.reloadUnless refusal l' = match refusal with
      | none => ⟨⟨some l', l'.byte⟩, .ok ()⟩
      | some reason =>
          ⟨h, .error (.settings (.stated ("failed to reload log level: " ++ reason)))⟩ := by
  unfold reloadUnless
  rw [hfilter]
  cases refusal with
  | none => rfl
  | some reason => rfl

/-- Where nothing was installed a call fails before it changes anything. -/
theorem reloadUnless_of_not_installed (hfilter : h.filter = none) (refusal : Option String)
    (l : LogLevel) : h.reloadUnless refusal l = ⟨h, .error (.settings .notInstalled)⟩ := by
  unfold reloadUnless
  rw [hfilter]

/-- The handle after calls to switch it, one after another. -/
def afterReloads (h : LevelHandle) (calls : List (Option String × LogLevel)) : LevelHandle :=
  calls.foldl (fun h call => (h.reloadUnless call.1 call.2).state) h

theorem afterReloads_of_not_installed (hfilter : h.filter = none)
    (calls : List (Option String × LogLevel)) : h.afterReloads calls = h := by
  induction calls with
  | nil => rfl
  | cons call rest ih =>
      show (h.reloadUnless call.1 call.2).state.afterReloads rest = h
      rw [reloadUnless_of_not_installed hfilter]
      exact ih

end LevelHandle

namespace Logging

/-- What can happen to logging once it is installed. -/
inductive Action
  | reload (refusal : Option String) (level : LogLevel)
  | emit (event : Event)
  | clear
  deriving DecidableEq

/-- Logging after something happened to it. -/
def after (g : Logging) : Action → Logging
  | .reload refusal l => { g with handle := (g.handle.reloadUnless refusal l).state }
  | .emit e => g.emit e
  | .clear => g.clear

/-- Logging after a history. -/
def afterAll (g : Logging) (history : List Action) : Logging := history.foldl after g

/-- The level of the last call that was not refused, or the first one if there was none. -/
inductive LastSwitched (l₀ : LogLevel) (history : List Action) : LogLevel → Prop
  | switched {before later : List Action} {l : LogLevel} :
      history = before ++ .reload none l :: later → (∀ l', .reload none l' ∉ later) →
        LastSwitched l₀ history l
  | never : (∀ l', .reload none l' ∉ history) → LastSwitched l₀ history l₀

/-- At a place in a history a warning or an error was logged that the level of its time
    admitted, and the diagnostics were not cleared since. -/
structure Keeps (start : Logging) (history : List Action) (i : Nat) (e : Event) : Prop where
  emitted : history[i]? = some (.emit e)
  serious : e.level = .warn ∨ e.level = .error
  admitted : (start.afterAll (history.take i)).handle.level.admits e.level = true
  remembered : .clear ∉ history.drop (i + 1)

/-- The diagnostics are those of the events that are kept, in the order of their places. -/
def Recalls (start : Logging) (history : List Action) (entries : List Diagnostic) : Prop :=
  ∃ places : List (Nat × Event), (places.Pairwise fun a b => a.1 < b.1) ∧
    (∀ i e, (i, e) ∈ places ↔ Keeps start history i e) ∧
      entries = places.map fun place => place.2.diagnostic

/-- What holds of logging after a history, told from the history. -/
structure Agrees (l₀ : LogLevel) (history : List Action) (g : Logging) : Prop where
  level : ∀ l, g.handle.level = l ↔ LastSwitched l₀ history l
  filter : g.handle.filter = some g.handle.level
  entries : Recalls (installed l₀) history g.collector.entries
  counts : g.collector.warningCount + g.collector.errorCount = g.collector.entries.length
  /-- the next call succeeds when it is not refused, and only then -/
  reloads : ∀ refusal l, (g.handle.reloadUnless refusal l).ending = .ok () ↔ refusal = none

variable {g start : Logging} {l₀ : LogLevel} {history : List Action} {a : Action} {e : Event}
  {i : Nat} {entries : List Diagnostic}

theorem afterAll_concat (start : Logging) (history : List Action) (a : Action) :
    start.afterAll (history ++ [a]) = (start.afterAll history).after a :=
  List.foldl_append

/-! ## The level and the filter -/

/-- The level that an action switches to. -/
def Action.level? : Action → Option LogLevel
  | .reload none l => some l
  | _ => none

theorem Action.level?_eq_some_iff {l : LogLevel} : a.level? = some l ↔ a = .reload none l := by
  cases a with
  | reload refusal level =>
      cases refusal with
      | none =>
          show some level = some l ↔ _
          simp
      | some reason => simp [level?]
  | emit e => simp [level?]
  | clear => simp [level?]

/-- An action leaves the filter at the level, which is the one that it switches to, if any. -/
theorem handle_after (h : g.handle.filter = some g.handle.level) (a : Action) :
    (g.after a).handle.filter = some (g.after a).handle.level ∧
      (g.after a).handle.level = a.level?.getD g.handle.level := by
  cases a with
  | emit e =>
      show (g.emit e).handle.filter = some (g.emit e).handle.level ∧ _
      rw [handle_emit]
      refine ⟨h, ?_⟩
      show (g.emit e).handle.level = g.handle.level
      rw [handle_emit]
  | clear => exact ⟨h, rfl⟩
  | reload refusal l =>
      have hcall := LevelHandle.reloadUnless_of_installed h refusal l
      show (g.handle.reloadUnless refusal l).state.filter =
          some (g.handle.reloadUnless refusal l).state.level ∧
        (g.handle.reloadUnless refusal l).state.level = _
      rw [hcall]
      cases refusal with
      | none =>
          have hlevel : LevelHandle.level ⟨some l, l.byte⟩ = l := LogLevel.ofByte_byte l
          exact ⟨congrArg some hlevel.symm, hlevel⟩
      | some reason => exact ⟨h, rfl⟩

theorem filter_afterAll (h : start.handle.filter = some start.handle.level)
    (history : List Action) :
    (start.afterAll history).handle.filter = some (start.afterAll history).handle.level := by
  induction history using List.reverseRecOn with
  | nil => exact h
  | append_singleton history a ih =>
      rw [afterAll_concat]
      exact (handle_after ih a).1

/-- The last action with a level decides. -/
theorem level_afterAll (h : start.handle.filter = some start.handle.level)
    (history : List Action) :
    (start.afterAll history).handle.level =
      (history.reverse.findSome? Action.level?).getD start.handle.level := by
  induction history using List.reverseRecOn with
  | nil => rfl
  | append_singleton history a ih =>
      rw [afterAll_concat, (handle_after (filter_afterAll h history) a).2, ih, List.reverse_append,
        List.reverse_singleton, List.singleton_append, List.findSome?_cons]
      cases a.level? <;> rfl

theorem Action.level?_eq_none_iff : a.level? = none ↔ ∀ l, a ≠ .reload none l := by
  simp only [Option.eq_none_iff_forall_not_mem, Option.mem_def, level?_eq_some_iff, ne_eq]

theorem Action.forall_level?_eq_none_iff :
    (∀ b ∈ history, b.level? = none) ↔ ∀ l, .reload none l ∉ history := by
  simp only [level?_eq_none_iff]
  constructor
  · intro h l hmem
    exact h _ hmem l rfl
  · rintro h b hb l rfl
    exact h l hb

/-- The last switch, looked for from the end. -/
theorem lastSwitched_iff {l : LogLevel} :
    LastSwitched l₀ history l ↔ (history.reverse.findSome? Action.level?).getD l₀ = l := by
  constructor
  · intro h
    cases h with
    | @switched before later l hhistory hlater =>
        have hfound : history.reverse.findSome? Action.level? = some l :=
          findSome?_reverse_eq_some_iff.mpr ⟨before, .reload none l, later, hhistory, rfl,
            Action.forall_level?_eq_none_iff.mpr hlater⟩
        rw [hfound]
        rfl
    | never hnone =>
        have hfound : history.reverse.findSome? Action.level? = none :=
          findSome?_reverse_eq_none_iff.mpr (Action.forall_level?_eq_none_iff.mpr hnone)
        rw [hfound]
        rfl
  · rintro rfl
    cases hfound : history.reverse.findSome? Action.level? with
    | none =>
        have hnone := findSome?_reverse_eq_none_iff.mp hfound
        exact .never (Action.forall_level?_eq_none_iff.mp hnone)
    | some l =>
        obtain ⟨before, a, later, hhistory, ha, hlater⟩ :=
          findSome?_reverse_eq_some_iff.mp hfound
        obtain rfl := Action.level?_eq_some_iff.mp ha
        exact .switched hhistory (Action.forall_level?_eq_none_iff.mp hlater)

/-! ## The diagnostics -/

theorem Keeps.lt (h : Keeps start history i e) : i < history.length :=
  (List.getElem?_eq_some_iff.mp h.emitted).1

/-- An action changes nothing about earlier places, unless it clears. -/
theorem keeps_concat_iff (hi : i < history.length) :
    Keeps start (history ++ [a]) i e ↔ Keeps start history i e ∧ a ≠ .clear := by
  have hget : (history ++ [a])[i]? = history[i]? := List.getElem?_append_left hi
  have htake : (history ++ [a]).take i = history.take i :=
    List.take_append_of_le_length (Nat.le_of_lt hi)
  have hdrop : (history ++ [a]).drop (i + 1) = history.drop (i + 1) ++ [a] :=
    List.drop_append_of_le_length hi
  constructor
  · intro h
    have hremembered := h.remembered
    rw [hdrop, List.mem_append, List.mem_singleton, not_or] at hremembered
    refine ⟨⟨?_, h.serious, ?_, hremembered.1⟩, Ne.symm hremembered.2⟩
    · rw [← hget]
      exact h.emitted
    · rw [← htake]
      exact h.admitted
  · rintro ⟨h, ha⟩
    refine ⟨?_, h.serious, ?_, ?_⟩
    · rw [hget]
      exact h.emitted
    · rw [htake]
      exact h.admitted
    · rw [hdrop, List.mem_append, List.mem_singleton, not_or]
      exact ⟨h.remembered, Ne.symm ha⟩

/-- At the last place the level after all that came before decides. -/
theorem keeps_last_iff :
    Keeps start (history ++ [a]) history.length e ↔ a = .emit e ∧
      (e.level = .warn ∨ e.level = .error) ∧
        (start.afterAll history).handle.level.admits e.level = true := by
  have hget : (history ++ [a])[history.length]? = some a := by simp
  have htake : (history ++ [a]).take history.length = history := by simp
  have hdrop : (history ++ [a]).drop (history.length + 1) = [] := by simp
  constructor
  · intro h
    have hemitted := h.emitted
    have hadmitted := h.admitted
    rw [hget] at hemitted
    rw [htake] at hadmitted
    exact ⟨Option.some.inj hemitted, h.serious, hadmitted⟩
  · rintro ⟨rfl, hserious, hadmitted⟩
    refine ⟨hget, hserious, ?_, ?_⟩
    · rw [htake]
      exact hadmitted
    · rw [hdrop]
      exact List.not_mem_nil

theorem isKept_iff {l : LogLevel} : l.isKept = true ↔ l = .warn ∨ l = .error := by
  rw [LogLevel.isKept, Bool.or_eq_true, beq_iff_eq, beq_iff_eq]

/-- The entries after one more action. -/
theorem entries_after (h : g.handle.filter = some g.handle.level) (a : Action) :
    (g.after a).collector.entries = match a with
      | .clear => []
      | .reload _ _ => g.collector.entries
      | .emit e => g.collector.entries ++
          if g.handle.level.admits e.level && e.level.isKept then [e.diagnostic] else [] := by
  cases a with
  | clear => rfl
  | reload refusal l => rfl
  | emit e =>
      have hadmits : g.handle.admits e.level = g.handle.level.admits e.level := by
        rw [LevelHandle.admits, h]
      show (g.emit e).collector.entries = _
      rw [entries_emit, hadmits]

/-- What is kept after one more action was kept before, or stands at the last place. -/
theorem Keeps.or_last (h : Keeps start (history ++ [a]) i e) :
    Keeps start history i e ∧ a ≠ .clear ∨ i = history.length := by
  have hi : i < history.length + 1 := by simpa using h.lt
  rcases Nat.lt_succ_iff_lt_or_eq.mp hi with hlt | heq
  · exact Or.inl ((keeps_concat_iff hlt).mp h)
  · exact Or.inr heq

theorem recalls_clear : Recalls start (history ++ [.clear]) [] := by
  refine ⟨[], List.Pairwise.nil, ?_, rfl⟩
  intro i e
  constructor
  · intro h
    exact nomatch h
  · intro h
    rcases h.or_last with ⟨-, hclear⟩ | rfl
    · exact absurd rfl hclear
    · exact nomatch (keeps_last_iff.mp h).1

theorem Recalls.skip (h : Recalls start history entries) (ha : a ≠ .clear)
    (hlast : ∀ e, ¬ Keeps start (history ++ [a]) history.length e) :
    Recalls start (history ++ [a]) entries := by
  obtain ⟨places, hordered, hplaces, rfl⟩ := h
  refine ⟨places, hordered, ?_, rfl⟩
  intro i e
  rw [hplaces]
  constructor
  · intro hkeeps
    exact (keeps_concat_iff hkeeps.lt).mpr ⟨hkeeps, ha⟩
  · intro hkeeps
    rcases hkeeps.or_last with ⟨hkeeps, -⟩ | rfl
    · exact hkeeps
    · exact absurd hkeeps (hlast e)

theorem Recalls.push (h : Recalls start history entries)
    (hlast : Keeps start (history ++ [.emit e]) history.length e) :
    Recalls start (history ++ [.emit e]) (entries ++ [e.diagnostic]) := by
  obtain ⟨places, hordered, hplaces, rfl⟩ := h
  have hearlier : ∀ place ∈ places, place.1 < history.length := by
    intro place hplace
    exact ((hplaces place.1 place.2).mp hplace).lt
  refine ⟨places ++ [(history.length, e)], ?_, ?_, ?_⟩
  · refine List.pairwise_append.mpr ⟨hordered, List.pairwise_singleton _ _, ?_⟩
    intro place hplace last hmem
    rw [List.mem_singleton.mp hmem]
    exact hearlier place hplace
  · intro i e'
    rw [List.mem_append, List.mem_singleton, hplaces, Prod.mk.injEq]
    constructor
    · rintro (hkeeps | ⟨rfl, rfl⟩)
      · exact (keeps_concat_iff hkeeps.lt).mpr ⟨hkeeps, fun h => nomatch h⟩
      · exact hlast
    · intro hkeeps
      rcases hkeeps.or_last with ⟨hkeeps, -⟩ | rfl
      · exact Or.inl hkeeps
      · have hemitted := (keeps_last_iff.mp hkeeps).1
        exact Or.inr ⟨rfl, (Action.emit.inj hemitted).symm⟩
  · rw [List.map_append]
    rfl

theorem recalls_afterAll (hfilter : start.handle.filter = some start.handle.level)
    (hempty : start.collector.entries = []) (history : List Action) :
    Recalls start history (start.afterAll history).collector.entries := by
  induction history using List.reverseRecOn with
  | nil =>
      refine ⟨[], List.Pairwise.nil, ?_, hempty⟩
      intro i e
      exact ⟨fun h => (nomatch h), fun h => (nomatch h.lt)⟩
  | append_singleton history a ih =>
      rw [afterAll_concat, entries_after (filter_afterAll hfilter history)]
      cases a with
      | clear => exact recalls_clear
      | reload refusal l =>
          refine ih.skip (fun h => nomatch h) ?_
          intro e hkeeps
          exact nomatch (keeps_last_iff.mp hkeeps).1
      | emit e =>
          dsimp only
          split
          · next hkept =>
              rw [Bool.and_eq_true, isKept_iff] at hkept
              exact ih.push (keeps_last_iff.mpr ⟨rfl, hkept.2, hkept.1⟩)
          · next hlost =>
              rw [List.append_nil]
              refine ih.skip (fun h => nomatch h) ?_
              intro e' hkeeps
              obtain ⟨he, hserious, hadmitted⟩ := keeps_last_iff.mp hkeeps
              obtain rfl := Action.emit.inj he
              rw [Bool.and_eq_true, isKept_iff] at hlost
              exact hlost ⟨hadmitted, hserious⟩

/-- What is recalled is a warning or an error. -/
theorem Recalls.serious (h : Recalls start history entries) :
    ∀ d ∈ entries, d.level = .warn ∨ d.level = .error := by
  obtain ⟨places, -, hplaces, rfl⟩ := h
  intro d hd
  obtain ⟨⟨i, e⟩, hmem, rfl⟩ := List.mem_map.mp hd
  exact ((hplaces i e).mp hmem).serious

theorem count_warn_add_count_error {c : Collector}
    (h : ∀ d ∈ c.entries, d.level = .warn ∨ d.level = .error) :
    c.warningCount + c.errorCount = c.entries.length := by
  obtain ⟨entries⟩ := c
  show entries.countP (·.level == .warn) + entries.countP (·.level == .error) = entries.length
  induction entries with
  | nil => rfl
  | cons d rest ih =>
      have hrest := ih fun d' hd' => h d' (List.mem_cons_of_mem d hd')
      rw [List.countP_cons, List.countP_cons, List.length_cons]
      rcases h d List.mem_cons_self with hd | hd
      · rw [hd, if_pos (by rfl), if_neg (by decide)]
        omega
      · rw [hd, if_neg (by decide), if_pos (by rfl)]
        omega

/-- Whatever happens to logging once it is installed, the level, the filter and the
    diagnostics agree with the history; and where it is not installed, every call fails, the
    level stays as it is and so does all else. -/
theorem histories_keep_agreement (l₀ : LogLevel) (history : List Action) :
    Agrees l₀ history ((installed l₀).afterAll history) ∧
      ∀ calls, (LevelHandle.fresh.afterReloads calls).level = .info ∧ ∀ refusal l,
        (LevelHandle.fresh.afterReloads calls).reloadUnless refusal l =
          ⟨.fresh, .error (.settings .notInstalled)⟩ := by
  have hrecalls : Recalls (installed l₀) history
      ((installed l₀).afterAll history).collector.entries :=
    recalls_afterAll (filter_installed l₀) rfl history
  have hfilter : ((installed l₀).afterAll history).handle.filter =
      some ((installed l₀).afterAll history).handle.level :=
    filter_afterAll (filter_installed l₀) history
  refine ⟨⟨?_, hfilter, hrecalls, count_warn_add_count_error hrecalls.serious, ?_⟩, ?_⟩
  · intro l
    rw [level_afterAll (filter_installed l₀), level_installed, lastSwitched_iff]
  · intro refusal l
    rw [LevelHandle.reloadUnless_of_installed hfilter]
    cases refusal with
    | none => exact ⟨fun _ => rfl, fun _ => rfl⟩
    | some reason => exact ⟨fun h => (nomatch h), fun h => (nomatch h)⟩
  · intro calls
    rw [LevelHandle.afterReloads_of_not_installed rfl]
    exact ⟨rfl, fun _ _ => LevelHandle.reloadUnless_of_not_installed rfl _ _⟩

/-- A warning is lost while only errors pass, and a refused call does not change that. -/
example :
    let g := (installed .info).afterAll
      [.emit ⟨.warn, "t", "early", []⟩, .clear, .emit ⟨.warn, "t", "first", []⟩,
        .reload none .error, .reload (some "poisoned") .trace, .emit ⟨.warn, "t", "lost", []⟩,
        .emit ⟨.error, "t", "second", []⟩]
    g.handle = ⟨some .error, LogLevel.error.byte⟩ ∧
      g.collector.entries = [⟨.warn, "t", "first"⟩, ⟨.error, "t", "second"⟩] := by
  decide

end Logging

end EntityPlan
