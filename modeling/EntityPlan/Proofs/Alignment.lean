import EntityPlan.Types.Listing
import Mathlib.Algebra.GroupWithZero.Nat
import Mathlib.Data.List.Forall2

/-! # Alignment — the printed table

    A column is as wide as its widest cell, so padding never has to cut a cell and every
    cell of a column starts at the same place, that of the widths before it and two blanks
    for each.  What is taken off the end of a line are blanks alone: of each cell everything
    up to its last character that is not blank stays where it was
    (`Text.Trimmed.reaches`, `TypeTable.listing_aligned`). -/

namespace EntityPlan

/-! ## Trimming -/

namespace Text

/-- The line is the whole without the blanks at its end. -/
structure Trimmed (whole line : List Char) : Prop where
  blanks : ∃ bs, whole = line ++ bs ∧ ∀ c ∈ bs, isBlank c = true
  solid : ∀ c, line.getLast? = some c → isBlank c = false

theorem trimmed_trimEnd (cs : List Char) : Trimmed cs (trimEnd cs) where
  blanks := by
    obtain ⟨bs, hbs, hblank⟩ := trimEnd_append_blanks cs
    exact ⟨bs, hbs, List.all_eq_true.mp hblank⟩
  solid c h := by
    have hhead := List.head?_dropWhile_not isBlank cs.reverse
    rw [trimEnd, List.getLast?_reverse] at h
    rw [h] at hhead
    exact hhead

/-- Trimming a line takes nothing of a part of it but blanks from its end. -/
theorem Trimmed.reaches {whole line front cell back body : List Char} (hline : Trimmed whole line)
    (hwhole : whole = front ++ cell ++ back) (hbody : Trimmed cell body) :
    body <+: line.drop front.length := by
  obtain ⟨bs, hcell, -⟩ := hbody.blanks
  obtain ⟨tail, hcut, hblank⟩ := hline.blanks
  have hrest : whole = front ++ body ++ (bs ++ back) := by
    rw [hwhole, hcell]
    simp only [List.append_assoc]
  -- the line and the front with the body both start the whole, so one starts the other
  have hreach : body = [] ∨ front ++ body <+: line := by
    rcases List.prefix_or_prefix_of_prefix ⟨_, hrest.symm⟩ ⟨tail, hcut.symm⟩ with h | h
    · exact Or.inr h
    · obtain ⟨missing, hmissing⟩ := h
      -- what the line lacks of the body is blank, and the body does not end in a blank
      have htail : tail = missing ++ (bs ++ back) := by
        rw [hcut, ← hmissing, List.append_assoc] at hrest
        exact List.append_cancel_left hrest
      cases hlast : body.getLast? with
      | none => exact Or.inl (List.getLast?_eq_none_iff.mp hlast)
      | some c =>
          have hnone : missing = [] := by
            by_contra hne
            have hend : missing.getLast? = some c := by
              rw [← List.getLast?_append_of_ne_nil line hne, hmissing, List.getLast?_append, hlast,
                Option.some_or]
            have hmem : c ∈ tail := htail ▸ List.mem_append_left _ (List.mem_of_getLast? hend)
            exact absurd (hblank c hmem) (by rw [hbody.solid c hlast]; exact Bool.false_ne_true)
          rw [hnone, List.append_nil] at hmissing
          exact Or.inr (hmissing ▸ List.prefix_rfl)
  rcases hreach with rfl | ⟨more, rfl⟩
  · exact List.nil_prefix
  · rw [List.append_assoc, List.drop_left]
    exact List.prefix_append body more

end Text

namespace TypeTable

/-- The cells of the headings. -/
def headingCells : List String := ["JDL", "KOTLIN", "IMPORT", "SQL", "DOMAIN"]

/-- The cells of a row; a dash stands for no import. -/
def rowCells (r : String × TypeRow) : List String :=
  [r.1, r.2.target, r.2.importName.getD "-", r.2.columnType, r.2.domain]

/-- The cells of all lines. -/
def cellTable (t : TypeTable) : List (List String) := headingCells :: t.rows.rows.map rowCells

/-- The cells at one place of their lines. -/
def column (cells : List (List String)) (j : Nat) : List String := cells.filterMap (·[j]?)

/-- No cell is wider, and one is as wide. -/
def Widest (cells : List String) (w : Nat) : Prop :=
  (∀ cell ∈ cells, cell.length ≤ w) ∧ ∃ cell ∈ cells, cell.length = w

/-- The cells with blanks up to their widths, and two blanks between each two. -/
def wholeLine (ws : List Nat) (cells : List String) : List Char :=
  [' ', ' '].intercalate
    (List.zipWith (fun w cell => cell.toList ++ List.replicate (w - cell.length) ' ') ws cells)

/-- The line shows the cells: it is the whole line trimmed, and every cell but for the blanks at
    its end starts where the widths before it say. -/
structure Shows (ws : List Nat) (cells : List String) (line : List Char) : Prop where
  whole : Text.Trimmed (wholeLine ws cells) line
  starts : ∀ (j : Nat) (cell : String) (body : List Char), cells[j]? = some cell →
    Text.Trimmed cell.toList body → body <+: line.drop ((ws.take j).sum + 2 * j)

/-- The lines of a listing: one for the headings and one for each row of the table. -/
structure Aligned (t : TypeTable) (ws : List Nat) (header : List Char)
    (lines : List (List Char)) : Prop where
  text : t.listing.toList = (header :: lines).flatMap (· ++ ['\n'])
  single : ∀ line ∈ header :: lines, '\n' ∉ line
  /-- there is a width for each of the five columns -/
  widths : ws.length = 5 ∧ ∀ j w, ws[j]? = some w → Widest (column t.cellTable j) w
  header : Shows ws headingCells header
  rows : List.Forall₂ (fun r line => Shows ws (rowCells r) line) t.rows.rows lines
  count : lines.length = t.size
  complete : ∀ type row, (type, row) ∈ t.rows.rows ↔ t.lookup? type = some row
  ascending : (t.rows.rows.map (·.1)).Pairwise fun a b => Text.bytes a < Text.bytes b

variable {t : TypeTable} {l : Line} {ls : List Line}

/-! ## Widths -/

theorem widest_spec {cells : List String} (h : cells ≠ []) : Widest cells (widest cells) := by
  have hlengths : cells.map String.length ≠ [] := mt List.map_eq_nil_iff.mp h
  have hmax : widest cells = (cells.map String.length).max hlengths := by
    rw [widest, List.foldl_max_eq_max hlengths]
    exact Nat.zero_max _
  rw [hmax]
  constructor
  · intro cell hcell
    exact List.le_max_of_mem (List.mem_map_of_mem hcell)
  · exact List.mem_map.mp (List.max_mem hlengths)

/-- A line holds a cell of each column. -/
theorem exists_cell_of_widths {j w : Nat} (h : (widths ls)[j]? = some w) :
    ∃ f : Line → String, (∀ l : Line, l.cells[j]? = some (f l)) ∧ widest (ls.map f) = w := by
  match j with
  | 0 => exact ⟨Line.type, fun _ => rfl, Option.some.inj h⟩
  | 1 => exact ⟨Line.target, fun _ => rfl, Option.some.inj h⟩
  | 2 => exact ⟨Line.importName, fun _ => rfl, Option.some.inj h⟩
  | 3 => exact ⟨Line.columnType, fun _ => rfl, Option.some.inj h⟩
  | 4 => exact ⟨Line.domain, fun _ => rfl, Option.some.inj h⟩
  | _ + 5 => exact nomatch h

theorem widths_widest (hls : ls ≠ []) {j w : Nat} (h : (widths ls)[j]? = some w) :
    Widest (column (ls.map Line.cells) j) w := by
  obtain ⟨f, hf, rfl⟩ := exists_cell_of_widths h
  have hcolumn : column (ls.map Line.cells) j = ls.map f := by
    rw [column, List.filterMap_map, ← List.filterMap_eq_map]
    exact List.filterMap_congr fun l _ => hf l
  rw [hcolumn]
  exact widest_spec (mt List.map_eq_nil_iff.mp hls)

/-- Every cell of a line fits into its column. -/
theorem fits_widths (hl : l ∈ ls) :
    List.Forall₂ (fun w (cell : String) => cell.length ≤ w) (widths ls) l.cells := by
  have hle : ∀ f : Line → String, (f l).length ≤ widest (ls.map f) := by
    intro f
    have hmem : f l ∈ ls.map f := List.mem_map_of_mem hl
    exact (widest_spec (List.ne_nil_of_mem hmem)).1 _ hmem
  exact .cons (hle _) (.cons (hle _) (.cons (hle _) (.cons (hle _) (.cons (hle _) .nil))))

/-! ## Lines -/

theorem sideBySide_eq_intercalate (cells : List (List Char)) :
    sideBySide cells = [' ', ' '].intercalate cells := by
  induction cells with
  | nil => rfl
  | cons cell rest ih =>
      cases rest with
      | nil => exact List.intercalate_singleton.symm
      | cons next more =>
          rw [List.intercalate_cons_cons, ← ih]
          rfl

theorem length_padded {w : Nat} {cell : String} (h : cell.length ≤ w) :
    (padded w cell).length = w := by
  rw [padded, List.length_append, List.length_replicate, String.length_toList]
  omega

theorem lengths_padded {ws : List Nat} {cells : List String}
    (h : List.Forall₂ (fun w (cell : String) => cell.length ≤ w) ws cells) :
    (List.zipWith padded ws cells).map List.length = ws := by
  induction h with
  | nil => rfl
  | cons hcell _ ih => rw [List.zipWith_cons_cons, List.map_cons, length_padded hcell, ih]

/-- What stands in front of a part of an intercalation is as long as the parts before it and a
    separator for each. -/
theorem exists_intercalate_eq (sep : List Char) {parts : List (List Char)} {j : Nat}
    {part : List Char} (h : parts[j]? = some part) :
    ∃ front back, sep.intercalate parts = front ++ part ++ back ∧
      front.length = ((parts.map List.length).take j).sum + sep.length * j := by
  induction parts generalizing j with
  | nil => exact nomatch h
  | cons first rest ih =>
      cases j with
      | zero =>
          obtain rfl : first = part := Option.some.inj h
          cases rest with
          | nil => exact ⟨[], [], by simp, by simp⟩
          | cons next more =>
              refine ⟨[], sep ++ sep.intercalate (next :: more), ?_, by simp⟩
              rw [List.intercalate_cons_cons, List.nil_append, List.append_assoc]
      | succ j =>
          rw [List.getElem?_cons_succ] at h
          obtain ⟨front, back, heq, hlength⟩ := ih h
          cases rest with
          | nil => exact nomatch h
          | cons next more =>
              refine ⟨first ++ sep ++ front, back, ?_, ?_⟩
              · rw [List.intercalate_cons_cons, heq]
                simp only [List.append_assoc]
              · rw [List.map_cons, List.take_succ_cons, List.sum_cons, List.length_append,
                  List.length_append, hlength, Nat.mul_succ]
                omega

/-- The text of a line shows its cells, if the widths are those of lines that it is one of. -/
theorem text_shows (hl : l ∈ ls) : Shows (widths ls) l.cells (l.text (widths ls)).toList := by
  have hwhole : Text.Trimmed (wholeLine (widths ls) l.cells) (l.text (widths ls)).toList := by
    rw [Line.text, String.toList_ofList, sideBySide_eq_intercalate]
    exact Text.trimmed_trimEnd _
  refine ⟨hwhole, ?_⟩
  intro j cell body hcell hbody
  have hfits := fits_widths hl
  obtain ⟨w, hw⟩ : ∃ w, (widths ls)[j]? = some w := by
    have hj : j < (widths ls).length := by
      rw [hfits.length_eq]
      exact (List.getElem?_eq_some_iff.mp hcell).1
    exact ⟨_, List.getElem?_eq_getElem hj⟩
  -- the padded cell has the width of its column, so the front before it has those before
  have hpart : (List.zipWith padded (widths ls) l.cells)[j]? = some (padded w cell) := by
    rw [List.getElem?_zipWith, hw, hcell]
  obtain ⟨front, back, heq, hlength⟩ := exists_intercalate_eq [' ', ' '] hpart
  rw [lengths_padded hfits] at hlength
  have hline : wholeLine (widths ls) l.cells = front ++ cell.toList ++
      (List.replicate (w - cell.length) ' ' ++ back) := by
    refine heq.trans ?_
    rw [padded]
    simp only [List.append_assoc]
  have hreach := hwhole.reaches hline hbody
  rwa [hlength] at hreach

theorem mem_intercalate {sep : List Char} {parts : List (List Char)} {c : Char}
    (h : c ∈ sep.intercalate parts) : c ∈ sep ∨ ∃ part ∈ parts, c ∈ part := by
  induction parts with
  | nil => exact nomatch h
  | cons first rest ih =>
      cases rest with
      | nil =>
          rw [List.intercalate_singleton] at h
          exact Or.inr ⟨first, List.mem_cons_self, h⟩
      | cons next more =>
          rw [List.intercalate_cons_cons, List.mem_append, List.mem_append] at h
          rcases h with (h | h) | h
          · exact Or.inr ⟨first, List.mem_cons_self, h⟩
          · exact Or.inl h
          · exact (ih h).imp_right fun ⟨part, hpart, hc⟩ =>
              ⟨part, List.mem_cons_of_mem first hpart, hc⟩

/-- A line has the characters of its cells, and blanks of one kind. -/
theorem mem_of_mem_wholeLine {ws : List Nat} {cells : List String} {c : Char}
    (h : c ∈ wholeLine ws cells) : c = ' ' ∨ ∃ cell ∈ cells, c ∈ cell.toList := by
  rcases mem_intercalate h with h | ⟨part, hpart, hc⟩
  · exact Or.inl (by simpa using h)
  · rw [← List.map_uncurry_zip_eq_zipWith] at hpart
    obtain ⟨⟨w, cell⟩, hzip, rfl⟩ := List.mem_map.mp hpart
    rcases List.mem_append.mp hc with hc | hc
    · exact Or.inr ⟨cell, (List.of_mem_zip hzip).2, hc⟩
    · exact Or.inl (List.eq_of_mem_replicate hc)

theorem Shows.single {ws : List Nat} {cells : List String} {line : List Char}
    (h : Shows ws cells line) (hcells : ∀ cell ∈ cells, '\n' ∉ cell.toList) : '\n' ∉ line := by
  intro hmem
  obtain ⟨bs, hbs, -⟩ := h.whole.blanks
  rcases mem_of_mem_wholeLine (hbs ▸ List.mem_append_left bs hmem) with hc | ⟨cell, hcell, hc⟩
  · exact absurd hc (by decide)
  · exact hcells cell hcell hc

/-! ## The listing -/

theorem toList_listing (t : TypeTable) :
    t.listing.toList = (t.lines.map fun l => (l.text (widths t.lines)).toList).flatMap
      (· ++ ['\n']) := by
  rw [listing, String.toList_join, List.flatMap_map, List.flatMap_map]
  refine List.flatMap_congr fun l _ => ?_
  rw [String.toList_append]
  rfl

theorem map_cells_lines (t : TypeTable) : t.lines.map Line.cells = t.cellTable := by
  show _ :: (t.rows.rows.map fun r => lineOf r.1 r.2).map Line.cells = _
  rw [List.map_map]
  rfl

/-- When no cell has a line break in it, the listing is one line for the headings and one for each
    row, in byte order of the types; each line shows its cells under columns that are as wide as
    their widest cell. -/
theorem listing_aligned (t : TypeTable) (h : ∀ cells ∈ t.cellTable, ∀ cell ∈ cells,
    '\n' ∉ cell.toList) : ∃ ws header lines, Aligned t ws header lines := by
  refine ⟨widths t.lines, (headings.text (widths t.lines)).toList,
    t.rows.rows.map fun r => ((lineOf r.1 r.2).text (widths t.lines)).toList, ?_⟩
  have hheader : Shows (widths t.lines) headingCells (headings.text (widths t.lines)).toList :=
    text_shows List.mem_cons_self
  have hrow : ∀ r ∈ t.rows.rows,
      Shows (widths t.lines) (rowCells r) ((lineOf r.1 r.2).text (widths t.lines)).toList := by
    intro r hr
    exact text_shows (List.mem_cons_of_mem _ (List.mem_map_of_mem hr))
  refine
    { text := ?_
      single := ?_
      widths := ⟨rfl, ?_⟩
      header := hheader
      rows := List.forall₂_map_right_iff.mpr (List.forall₂_same.mpr hrow)
      count := List.length_map _
      complete := fun _ _ => (SortedMap.lookup_eq_some_iff t.rows.nodup_keys).symm
      ascending := List.pairwise_map.mpr t.rows.ascending }
  · rw [toList_listing]
    show (_ :: (t.rows.rows.map fun r => lineOf r.1 r.2).map _).flatMap _ = _
    rw [List.map_map]
    rfl
  · refine List.forall_mem_cons.mpr ⟨hheader.single (h _ List.mem_cons_self), ?_⟩
    intro line hline
    obtain ⟨r, hr, rfl⟩ := List.mem_map.mp hline
    exact (hrow r hr).single (h _ (List.mem_cons_of_mem _ (List.mem_map_of_mem hr)))
  · intro j w hw
    rw [← map_cells_lines]
    exact widths_widest (List.cons_ne_nil _ _) hw

/-- A table with a row whose last cell is blank. -/
def flags : TypeTable := empty.withRow "Flag" ⟨"Boolean", none, "BOOLEAN", " ", "true"⟩

theorem listing_aligned_flags :
    (∀ cells ∈ flags.cellTable, ∀ cell ∈ cells, '\n' ∉ cell.toList) ∧
      (∃ ws header lines, Aligned flags ws header lines) ∧
      flags.listing = "JDL   KOTLIN   IMPORT  SQL      DOMAIN\nFlag  Boolean  -       BOOLEAN\n" := by
  have hplain : ∀ cells ∈ flags.cellTable, ∀ cell ∈ cells, '\n' ∉ cell.toList := by decide
  exact ⟨hplain, listing_aligned flags hplain, by decide⟩

end TypeTable

end EntityPlan
