import EntityPlan.Proofs.TableNames

/-! # Regular names — where no two names have the same words

    Splitting a name and mapping its case loses where capitals stood, except for those at
    the starts of words, which the underscores still mark.  In a regular name there are
    no others behind the first character, so the name can be had back
    (`Naming.rejoinAfter_snake`), and regular names that start alike have different
    columns and different tables (`ModelRules.regular_names_apart`). -/

namespace EntityPlan

namespace Naming

open Text (Ascii)

/-- A name of ASCII letters in which each capital but the first character is directly preceded
    by a small letter. -/
structure Regular (s : String) : Prop where
  nonempty : s ≠ ""
  letters : ∀ c ∈ s.toList, c.isAlpha = true
  capitals : s.toList.IsChain fun c d => d.isUpper = true → c.isLower = true

/-- The first character has the property. -/
def Starts (p : Char → Bool) (s : String) : Prop := ∃ c, s.toList.head? = some c ∧ p c = true

/-- Both names start with a capital, or both with a small letter. -/
def StartAlike (a b : String) : Prop :=
  Starts Char.isUpper a ∧ Starts Char.isUpper b ∨ Starts Char.isLower a ∧ Starts Char.isLower b

/-- Characters without the underscores, a capital for each character behind one; `marked` says
    that there is one before them. -/
def rejoinAfter (marked : Bool) : List Char → List Char
  | [] => []
  | c :: rest =>
      if c = '_' then rejoinAfter true rest
      else (if marked then c.toUpper else c) :: rejoinAfter false rest

variable {cs : List Char} {s a b : String}

/-! ## Letters -/

theorem isLower_of_isAlpha {c : Char} (h : c.isAlpha = true) (hupper : c.isUpper = false) :
    c.isLower = true := by
  rw [Char.isAlpha, hupper, Bool.false_or] at h
  exact h

theorem isUpper_of_isLower {c : Char} (h : c.isLower = true) : c.isUpper = false :=
  Bool.eq_false_iff.mpr (Char.not_isUpper_of_isLower h)

theorem toLower_of_isLower {c : Char} (h : c.isLower = true) : c.toLower = c :=
  Char.toLower_eq_of_not_isUpper (Char.not_isUpper_of_isLower h)

theorem toUpper_toLower_of_isUpper {c : Char} (h : c.isUpper = true) : c.toLower.toUpper = c := by
  rw [Char.toUpper_toLower_eq_toUpper]
  exact Char.toUpper_eq_of_not_isLower (Char.not_isLower_of_isUpper h)

/-- No letter is an underscore, in either case. -/
theorem toLower_ne_underscore {c : Char} (h : c.isAlpha = true) : c.toLower ≠ '_' := by
  intro heq
  have halpha : c.toLower.isAlpha = true := (Char.isAlpha_toLower_eq_isAlpha c).trans h
  rw [heq] at halpha
  exact absurd halpha (by decide)

theorem Regular.ascii (h : Regular s) : Ascii s.toList := by
  intro c hc
  have halpha := h.letters c hc
  cases hupper : c.isUpper with
  | true =>
      have hcode := Text.isUpper_iff.mp hupper
      omega
  | false =>
      have hcode := Text.isLower_iff.mp (isLower_of_isAlpha halpha hupper)
      omega

/-! ## The way back -/

theorem rejoinAfter_letter {marked : Bool} {c : Char} (h : c.isAlpha = true) (rest : List Char) :
    rejoinAfter marked (c.toLower :: rest) =
      (if marked then c.toLower.toUpper else c.toLower) :: rejoinAfter false rest := by
  rw [rejoinAfter, if_neg (toLower_ne_underscore h)]

/-- Behind a first character, each capital is marked. -/
theorem rejoinAfter_splitAfter {c : Char} (hletters : ∀ d ∈ cs, d.isAlpha = true)
    (hcapitals : (c :: cs).IsChain fun c d => d.isUpper = true → c.isLower = true) :
    rejoinAfter false ((splitAfter c.isLower cs).map Char.toLower) = cs := by
  induction cs generalizing c with
  | nil => rfl
  | cons d rest ih =>
      obtain ⟨hd, hrest⟩ := List.isChain_cons_cons.mp hcapitals
      have hletter : d.isAlpha = true := hletters d List.mem_cons_self
      have hback := ih (fun e he => hletters e (List.mem_cons_of_mem d he)) hrest
      cases hupper : d.isUpper with
      | true =>
          rw [splitAfter, hd hupper, hupper, Bool.and_self, if_pos rfl, List.map_cons,
            List.map_cons]
          show rejoinAfter true (d.toLower :: _) = d :: rest
          rw [rejoinAfter_letter hletter, if_pos rfl, toUpper_toLower_of_isUpper hupper, hback]
      | false =>
          have hlower := isLower_of_isAlpha hletter hupper
          rw [splitAfter, hupper, Bool.and_false, if_neg Bool.false_ne_true, List.map_cons,
            rejoinAfter_letter hletter, if_neg Bool.false_ne_true, toLower_of_isLower hlower, hback]

/-- A regular name can be had back from its words in lower case, given whether it starts with
    a capital. -/
theorem rejoinAfter_snake (h : Regular s) {c : Char} (hc : s.toList.head? = some c) :
    rejoinAfter c.isUpper (snake s).toList = s.toList := by
  obtain ⟨rest, hs⟩ := List.head?_eq_some_iff.mp hc
  have hletters := h.letters
  have hcapitals := h.capitals
  rw [toList_snake h.ascii]
  rw [hs] at hletters hcapitals ⊢
  have hletter : c.isAlpha = true := hletters c List.mem_cons_self
  have hback :=
    rejoinAfter_splitAfter (fun d hd => hletters d (List.mem_cons_of_mem c hd)) hcapitals
  rw [splitAfter, Bool.false_and, if_neg Bool.false_ne_true, List.map_cons,
    rejoinAfter_letter hletter, hback]
  cases hupper : c.isUpper with
  | true => rw [if_pos rfl, toUpper_toLower_of_isUpper hupper]
  | false =>
      rw [if_neg Bool.false_ne_true, toLower_of_isLower (isLower_of_isAlpha hletter hupper)]

/-- Whether they start with a capital is the same for names that start alike. -/
theorem StartAlike.heads (h : StartAlike a b) :
    ∃ c d, a.toList.head? = some c ∧ b.toList.head? = some d ∧ c.isUpper = d.isUpper := by
  rcases h with ⟨⟨c, hc, hcp⟩, d, hd, hdp⟩ | ⟨⟨c, hc, hcp⟩, d, hd, hdp⟩
  · exact ⟨c, d, hc, hd, hcp.trans hdp.symm⟩
  · exact ⟨c, d, hc, hd, (isUpper_of_isLower hcp).trans (isUpper_of_isLower hdp).symm⟩

theorem eq_of_snake_eq (ha : Regular a) (hb : Regular b) (hstart : StartAlike a b)
    (h : snake a = snake b) : a = b := by
  obtain ⟨c, d, hc, hd, hupper⟩ := hstart.heads
  rw [← String.toList_inj, ← rejoinAfter_snake ha hc, ← rejoinAfter_snake hb hd, hupper, h]

theorem eq_of_upperSnake_eq (ha : Regular a) (hb : Regular b) (hstart : StartAlike a b)
    (h : upperSnake a = upperSnake b) : a = b := by
  refine eq_of_snake_eq ha hb hstart ?_
  rw [← snake_upperSnake ha.ascii, ← snake_upperSnake hb.ascii, h]

/-- A run of capitals and one behind a digit have no mark of their own. -/
example : snake "userID" = snake "userId" ∧ snake "page2Go" = snake "page2go" := by decide +kernel

/-- A regular name that starts with a small letter. -/
def Camel (s : String) : Prop := Regular s ∧ Starts Char.isLower s

/-- A regular name that starts with a capital. -/
def Pascal (s : String) : Prop := Regular s ∧ Starts Char.isUpper s

end Naming

/-! ## Columns and tables -/

/-- Neither the entity itself nor an annotation names the table. -/
def Entity.PlainTable (e : Entity) : Prop :=
  e.tableName = none ∧ e.annotation? "tableName" = none

namespace ModelRules

open Naming (Regular StartAlike Camel Pascal snake upperSnake)

variable {rules : ModelRules} {e e' : Entity} {m m' : EntityModel}

/-- The column of a field is named after it. -/
theorem column_of_mem_fields (h : (rules.entityModel e).answer = .ok m) {f : FieldModel}
    (hf : f ∈ m.fields) : f.column = upperSnake f.name := by
  obtain ⟨c, fields, -, hfields, rfl⟩ := entityModel_eq_ok_iff.mp h
  obtain ⟨x, -, hx⟩ := exists_of_mem_right (mapM_eq_ok_iff.mp hfields) hf
  obtain ⟨row, -, rfl⟩ := fieldModel_eq_ok_iff.mp hx
  rfl

theorem tableName_of_plain (h : (rules.entityModel e).answer = .ok m) (hplain : e.PlainTable) :
    m.tableName = snake e.name := by
  rw [tableName_entityModel h, tableName, hplain.1, hplain.2]
  rfl

/-- Regular names that start alike differ in their words, in either case.  So in an entity
    the columns of differently named fields differ, where the names are regular ones in camel
    case, and so do the tables of differently named entities, where the names are regular
    ones in Pascal case and nothing else names the tables. -/
theorem regular_names_apart (rules : ModelRules) :
    (∀ a b, Regular a → Regular b → StartAlike a b →
        (snake a = snake b → a = b) ∧ (upperSnake a = upperSnake b → a = b)) ∧
      (∀ e m, (rules.entityModel e).answer = .ok m → ∀ f ∈ m.fields, ∀ f' ∈ m.fields,
        Camel f.name → Camel f'.name → f.name ≠ f'.name → f.column ≠ f'.column) ∧
      ∀ e e' m m', (rules.entityModel e).answer = .ok m → (rules.entityModel e').answer = .ok m' →
        Pascal e.name → Pascal e'.name → e.PlainTable → e'.PlainTable → e.name ≠ e'.name →
          m.tableName ≠ m'.tableName := by
  refine ⟨?names, ?columns, ?tables⟩
  case names =>
    intro a b ha hb hstart
    exact ⟨Naming.eq_of_snake_eq ha hb hstart, Naming.eq_of_upperSnake_eq ha hb hstart⟩
  case columns =>
    rintro e m h f hf f' hf' ⟨hname, hsmall⟩ ⟨hname', hsmall'⟩ hne hcolumn
    rw [column_of_mem_fields h hf, column_of_mem_fields h hf'] at hcolumn
    exact hne (Naming.eq_of_upperSnake_eq hname hname' (Or.inr ⟨hsmall, hsmall'⟩) hcolumn)
  case tables =>
    rintro e e' m m' h h' ⟨hname, hcapital⟩ ⟨hname', hcapital'⟩ hplain hplain' hne htable
    rw [tableName_of_plain h hplain, tableName_of_plain h' hplain'] at htable
    exact hne (Naming.eq_of_snake_eq hname hname' (Or.inl ⟨hcapital, hcapital'⟩) htable)

/-- An entity with text fields of these names. -/
def texts (name : String) (fields : List String) : Entity where
  name := name
  tableName := none
  description := none
  fields := fields.map fun n => ⟨n, "String", none, [], []⟩
  annotations := []
  relationships := []

/-- Names that differ in a single capital. -/
theorem regular_names_apart_order :
    ∃ m m', (entityModel ⟨.builtin, "net.example", .strict⟩
          (texts "OrderItem" ["userId", "userid"])).answer = .ok m ∧
        (entityModel ⟨.builtin, "net.example", .strict⟩ (texts "Orderitem" [])).answer = .ok m' ∧
        (∃ f ∈ m.fields, ∃ f' ∈ m.fields, f.name = "userId" ∧ f'.name = "userid" ∧
          f.column ≠ f'.column) ∧
        m.tableName ≠ m'.tableName := by
  obtain ⟨m, m', hm, hm', f, hf, f', hf', hname, hname'⟩ :
      ∃ m m', (entityModel ⟨.builtin, "net.example", .strict⟩
          (texts "OrderItem" ["userId", "userid"])).answer = .ok m ∧
        (entityModel ⟨.builtin, "net.example", .strict⟩ (texts "Orderitem" [])).answer = .ok m' ∧
        ∃ f ∈ m.fields, ∃ f' ∈ m.fields, f.name = "userId" ∧ f'.name = "userid" :=
    ⟨_, _, rfl, rfl, _, List.mem_cons_self, _, List.mem_cons_of_mem _ List.mem_cons_self, rfl, rfl⟩
  obtain ⟨-, hcolumns, htables⟩ := regular_names_apart ⟨.builtin, "net.example", .strict⟩
  have hcamel : Camel f.name ∧ Camel f'.name := by
    rw [hname, hname']
    exact ⟨⟨⟨by decide, by simp, by simp⟩, 'u', rfl, rfl⟩,
      ⟨⟨by decide, by simp, by simp⟩, 'u', rfl, rfl⟩⟩
  refine ⟨m, m', hm, hm', ⟨f, hf, f', hf', hname, hname', ?_⟩, ?_⟩
  · refine hcolumns _ m hm f hf f' hf' hcamel.1 hcamel.2 ?_
    rw [hname, hname']
    decide
  · refine htables _ _ m m' hm hm' ?_ ?_ ⟨rfl, rfl⟩ ⟨rfl, rfl⟩ (by decide)
    · exact ⟨⟨by decide, by simp [texts], by simp [texts]⟩, 'O', rfl, rfl⟩
    · exact ⟨⟨by decide, by simp [texts], by simp [texts]⟩, 'O', rfl, rfl⟩

end ModelRules

end EntityPlan
