import EntityPlan.Path

/-! # Paths — where a text leads

    Void pieces make many texts of one path.  What counts is whether a path starts
    at the root and which components it has: joining adds a component at the end
    (`Path.join_leads`), and the parent is a path without the last one
    (`Path.parent?_leads`). -/

namespace EntityPlan

namespace Text

theorem pieces_eq_splitOn (sep : Char) (cs : List Char) : pieces sep cs = cs.splitOn sep := by
  induction cs with
  | nil => rfl
  | cons c rest ih =>
      rw [pieces, ih, List.splitOn_cons_eq_if_modifyHead]
      by_cases hc : c = sep
      · rw [if_pos hc, if_pos (beq_iff_eq.mpr hc)]
      · rw [if_neg hc, if_neg (mt beq_iff_eq.mp hc)]
        obtain ⟨p, ps, hps⟩ := List.exists_cons_of_ne_nil (List.splitOn_ne_nil sep rest)
        rw [hps]
        rfl

/-- No piece holds the separator. -/
theorem not_mem_of_mem_pieces {sep : Char} {cs p : List Char} (h : p ∈ pieces sep cs) :
    sep ∉ p := by
  induction cs generalizing p with
  | nil =>
      rw [List.mem_singleton.mp h]
      exact List.not_mem_nil
  | cons c rest ih =>
      unfold pieces at h
      -- a separator begins a piece, any other character joins the first one
      by_cases hc : c = sep
      · rw [if_pos hc] at h
        rcases List.mem_cons.mp h with rfl | h
        · exact List.not_mem_nil
        · exact ih h
      · rw [if_neg hc] at h
        cases hps : pieces sep rest with
        | nil => exact absurd hps (pieces_ne_nil sep rest)
        | cons q qs =>
            rw [hps] at h ih
            rcases List.mem_cons.mp h with rfl | h
            · exact List.not_mem_cons_of_ne_of_not_mem (Ne.symm hc) (ih List.mem_cons_self)
            · exact ih (List.mem_cons_of_mem q h)

theorem not_mem_of_mem_split {sep : Char} {s p : String} (h : p ∈ split sep s) :
    sep ∉ p.toList := by
  obtain ⟨cs, hcs, rfl⟩ := List.mem_map.mp h
  rw [String.toList_ofList]
  exact not_mem_of_mem_pieces hcs

/-- A text without the separator is one piece. -/
theorem split_of_not_mem {sep : Char} {s : String} (h : sep ∉ s.toList) : split sep s = [s] := by
  rw [split, pieces_eq_splitOn, List.splitOn_eq_singleton h, List.map_singleton,
    String.ofList_toList]

/-- Two texts with a slash between have the pieces of both. -/
theorem split_append_slash (s t : String) :
    split '/' (s ++ "/" ++ t) = split '/' s ++ split '/' t := by
  have htext : (s ++ "/" ++ t).toList = s.toList ++ '/' :: t.toList := by
    simp
  rw [split, htext, pieces_eq_splitOn, List.splitOn_append_cons_self, List.map_append, split, split,
    pieces_eq_splitOn, pieces_eq_splitOn]

theorem split_slash (t : String) : split '/' ("/" ++ t) = "" :: split '/' t := by
  have hparts := split_append_slash "" t
  rw [String.empty_append] at hparts
  exact hparts

/-- The pieces with the separator between are the text again. -/
theorem intercalate_pieces (sep : Char) (s : String) :
    [sep].intercalate ((split sep s).map String.toList) = s.toList := by
  have hid : (String.toList ∘ String.ofList) = id := funext fun cs => String.toList_ofList
  rw [split, List.map_map, hid, List.map_id, pieces_eq_splitOn]
  exact List.intercalate_splitOn sep

theorem intercalate_split_by {sep : Char} {t : String} (ht : t.toList = [sep]) (s : String) :
    t.intercalate (split sep s) = s := by
  rw [← String.toList_inj, String.toList_intercalate, ht]
  exact intercalate_pieces sep s

theorem intercalate_split (s : String) : "/".intercalate (split '/' s) = s :=
  intercalate_split_by rfl s

theorem intercalate_split_dot (s : String) : ".".intercalate (split '.' s) = s :=
  intercalate_split_by rfl s

/-- Texts without the separator are the pieces of the text that has it between them. -/
theorem split_intercalate_by {sep : Char} {t : String} (ht : t.toList = [sep]) {ps : List String}
    (hps : ps ≠ []) (h : ∀ p ∈ ps, sep ∉ p.toList) : split sep (t.intercalate ps) = ps := by
  have hchars : ∀ cs ∈ ps.map String.toList, sep ∉ cs := by
    intro cs hcs
    obtain ⟨p, hp, rfl⟩ := List.mem_map.mp hcs
    exact h p hp
  have hid : (String.ofList ∘ String.toList) = id := funext fun s => String.ofList_toList
  rw [split, pieces_eq_splitOn, String.toList_intercalate, ht,
    List.splitOn_intercalate sep hchars (mt List.map_eq_nil_iff.mp hps), List.map_map, hid,
    List.map_id]

theorem split_intercalate {ps : List String} (hps : ps ≠ []) (h : ∀ p ∈ ps, '/' ∉ p.toList) :
    split '/' ("/".intercalate ps) = ps :=
  split_intercalate_by rfl hps h

end Text

namespace Path

/-- The pieces that lead somewhere. -/
def solid (ps : List String) : List String := ps.filter fun piece => !isVoid piece

theorem components_eq_solid (p : Path) : p.components = solid p.pieces := rfl

theorem solid_append (ps qs : List String) : solid (ps ++ qs) = solid ps ++ solid qs :=
  List.filter_append ps qs

theorem solid_eq_nil {ps : List String} (h : ∀ p ∈ ps, isVoid p = true) : solid ps = [] := by
  refine List.filter_eq_nil_iff.mpr fun p hp => ?_
  rw [h p hp]
  exact Bool.false_ne_true

theorem solid_cons_of_void {piece : String} (ps : List String) (h : isVoid piece = true) :
    solid (piece :: ps) = solid ps :=
  List.filter_cons_of_neg (by rw [h]; exact Bool.false_ne_true)

theorem solid_cons {piece : String} (ps : List String) (h : isVoid piece = false) :
    solid (piece :: ps) = piece :: solid ps :=
  List.filter_cons_of_pos (by rw [h]; rfl)

/-- A name that can stand between slashes and leads to something below. -/
structure IsName (name : String) : Prop where
  leads : isVoid name = false
  down : name ≠ ".."
  plain : '/' ∉ name.toList

theorem IsName.not_absolute {name : String} (h : IsName name) : name.toList.head? ≠ some '/' :=
  fun hs => h.plain (List.mem_of_mem_head? hs)

/-- A text that is longer than the void ones and two dots is a name unless it has a slash. -/
theorem isName_of_long {name : String} (hlong : 3 ≤ name.length) (h : '/' ∉ name.toList) :
    IsName name := by
  have hother : ∀ s : String, s.length < 3 → name ≠ s := by
    rintro s hs rfl
    exact absurd hlong (Nat.not_le.mpr hs)
  refine ⟨?_, hother ".." (by decide), h⟩
  simp [isVoid, hother "" (by decide), hother "." (by decide)]

/-- Where a path starts, and the components that it has.  The last piece leads somewhere
    unless no piece does. -/
structure Leads (p : Path) (absolute : Bool) (cs : List String) : Prop where
  absolute : p.isAbsolute = absolute
  components : p.components = cs
  last : cs ≠ [] → ∃ front piece, p.pieces = front ++ [piece] ∧ isVoid piece = false

theorem Leads.names {p : Path} {absolute : Bool} {cs : List String} (h : p.Leads absolute cs) :
    ∀ c ∈ cs, isVoid c = false := by
  intro c hc
  rw [← h.components] at hc
  simpa using (List.mem_filter.mp hc).2

theorem components_empty : (⟨""⟩ : Path).components = [] := rfl

theorem ne_empty_of_components {p : Path} (h : p.components ≠ []) : p.text ≠ "" := by
  intro htext
  obtain ⟨text⟩ := p
  subst htext
  exact h components_empty

/-! ## Joining -/

/-- Joining with a name puts it behind the pieces, in the place of an empty last one. -/
theorem pieces_join {p : Path} {name : String} (h : IsName name) :
    ∃ front, (p.join name).pieces = front ++ [name] ∧
      (p.pieces = front ∨ p.pieces = front ++ [""]) := by
  have hone : Text.split '/' name = [name] := Text.split_of_not_mem h.plain
  unfold join
  rw [if_neg h.not_absolute]
  -- a slash is put between unless the path is empty or ends in one
  by_cases hempty : p.text = ""
  · refine ⟨[], ?_, Or.inr ?_⟩
    · rw [if_pos (Or.inl hempty), pieces, hempty, String.empty_append, hone]
      rfl
    · rw [pieces, hempty]
      rfl
  by_cases hslash : p.text.toList.getLast? = some '/'
  · obtain ⟨front, hfront⟩ : ∃ front, p.text.toList = front ++ ['/'] :=
      List.getLast?_eq_some_iff.mp hslash
    have htext : p.text = String.ofList front ++ "/" := by
      rw [← String.toList_inj, hfront]
      simp
    refine ⟨Text.split '/' (String.ofList front), ?_, Or.inr ?_⟩
    · rw [if_pos (Or.inr hslash), pieces]
      show Text.split '/' (p.text ++ name) = _
      rw [htext, Text.split_append_slash, hone]
    · rw [pieces, htext, ← String.append_empty (s := String.ofList front ++ "/"),
        Text.split_append_slash]
      rfl
  · refine ⟨p.pieces, ?_, Or.inl rfl⟩
    rw [if_neg (not_or.mpr ⟨hempty, hslash⟩), pieces, Text.split_append_slash, hone]
    rfl

/-- What stands in front of a name leads where the path did. -/
theorem components_join {p : Path} {name : String} (h : IsName name) :
    (p.join name).components = p.components ++ [name] := by
  obtain ⟨front, hpieces, hfront⟩ := pieces_join (p := p) h
  have hsolid : solid front = p.components := by
    rw [components_eq_solid]
    rcases hfront with hfront | hfront
    · rw [hfront]
    · rw [hfront, solid_append, solid_cons_of_void [] rfl]
      exact (List.append_nil _).symm
  rw [components_eq_solid, hpieces, solid_append, hsolid, solid_cons [] h.leads]
  rfl

theorem isAbsolute_join {p : Path} {name : String} (h : IsName name) :
    (p.join name).isAbsolute = p.isAbsolute := by
  unfold join isAbsolute
  rw [if_neg h.not_absolute]
  cases hchars : p.text.toList with
  | nil =>
      rw [if_pos (Or.inl (String.toList_eq_nil_iff.mp hchars))]
      simpa [hchars] using h.not_absolute
  | cons c rest =>
      split <;> simp [hchars]

/-- A name behind a path does not move where it starts, not even at a leading dot. -/
theorem lead_join {p : Path} {name : String} (h : IsName name) : (p.join name).lead = p.lead := by
  obtain ⟨front, hpieces, hfront⟩ := pieces_join (p := p) h
  have hdot : (p.join name).pieces.head? = some "." ↔ p.pieces.head? = some "." := by
    rw [hpieces]
    cases hcases : front with
    | nil =>
        have hempty : p.pieces = [""] := by
          rcases hfront with hfront | hfront
          · exact absurd (List.map_eq_nil_iff.mp (hfront.trans hcases)) (Text.pieces_ne_nil _ _)
          · rw [hfront, hcases]
            rfl
        have hname : name ≠ "." := by
          rintro rfl
          exact nomatch h.leads
        simp [hempty, hname]
    | cons piece more =>
        rcases hfront with hfront | hfront <;> simp [hfront, hcases]
  unfold lead
  rw [isAbsolute_join h]
  simp only [hdot]

/-- A path with a name behind it leads to the name below where the path leads. -/
theorem join_leads {p : Path} {name : String} {absolute : Bool} {cs : List String}
    (habs : p.isAbsolute = absolute) (hcs : p.components = cs) (h : IsName name) :
    (p.join name).Leads absolute (cs ++ [name]) := by
  obtain ⟨front, hpieces, -⟩ := pieces_join (p := p) h
  refine ⟨?_, ?_, fun _ => ⟨front, name, hpieces, h.leads⟩⟩
  · rw [isAbsolute_join h, habs]
  · rw [components_join h, hcs]

/-! ## Parents -/

/-- What stands behind the lead of a path. -/
def body (p : Path) : String := String.ofList (p.text.toList.drop p.lead.length)

theorem body_of_isAbsolute {p : Path} (h : p.isAbsolute = true) :
    p.lead = "/" ∧ p.text = "/" ++ p.body := by
  have hlead : p.lead = "/" := if_pos h
  obtain ⟨rest, hrest⟩ : ∃ rest, p.text.toList = '/' :: rest :=
    List.head?_eq_some_iff.mp (beq_iff_eq.mp h)
  have hbody : p.body = String.ofList rest := by
    rw [body, hrest, hlead]
    rfl
  refine ⟨hlead, ?_⟩
  rw [hbody, ← String.toList_inj, hrest]
  simp

/-- Behind a leading dot stands nothing or a slash. -/
theorem body_of_dot {p : Path} {more : List String} (habs : p.isAbsolute = false)
    (h : p.pieces = "." :: more) :
    p.lead = "." ∧ p.text = "." ++ p.body ∧ Text.split '/' p.body = "" :: more := by
  have hlead : p.lead = "." := by
    rw [lead, habs, h]
    rfl
  have hparts : p.text = "/".intercalate ("." :: more) := by
    rw [← h]
    exact (Text.intercalate_split p.text).symm
  -- either the dot is the whole path or a slash follows it
  by_cases hnil : more = []
  · have htext : p.text = "." := by
      rw [hparts, hnil]
      rfl
    have hbody : p.body = "" := by
      rw [body, hlead, htext]
      rfl
    refine ⟨hlead, ?_, ?_⟩
    · rw [htext, hbody]
      rfl
    · rw [hbody, hnil]
      rfl
  · have htext : p.text = "." ++ ("/" ++ "/".intercalate more) := by
      rw [hparts, String.intercalate_cons_of_ne_nil hnil, String.append_assoc]
    have hbody : p.body = "/" ++ "/".intercalate more := by
      have hdrop : p.text.toList.drop 1 = ("/" ++ "/".intercalate more).toList := by
        rw [htext, String.toList_append]
        rfl
      rw [body, hlead]
      show String.ofList (p.text.toList.drop 1) = _
      rw [hdrop, String.ofList_toList]
    have hplain : ∀ piece ∈ more, '/' ∉ piece.toList := by
      intro piece hpiece
      have hmem : piece ∈ p.pieces := h ▸ List.mem_cons_of_mem "." hpiece
      exact Text.not_mem_of_mem_split hmem
    refine ⟨hlead, ?_, ?_⟩
    · rw [htext, hbody]
    · rw [hbody, Text.split_slash, Text.split_intercalate hnil hplain]

/-- The pieces of a path are those of its body, with one void piece more in front or
    another one in place of the first. -/
theorem pieces_body (p : Path) :
    (p.lead = "/" ∧ p.pieces = "" :: Text.split '/' p.body) ∨
      (p.lead = "." ∧ ∃ more, p.pieces = "." :: more ∧ Text.split '/' p.body = "" :: more) ∨
        (p.lead = "" ∧ p.pieces = Text.split '/' p.body) := by
  by_cases habs : p.isAbsolute = true
  · obtain ⟨hlead, htext⟩ := body_of_isAbsolute habs
    refine Or.inl ⟨hlead, ?_⟩
    rw [pieces, htext, Text.split_slash]
  have habs' : p.isAbsolute = false := Bool.eq_false_iff.mpr habs
  by_cases hdot : p.pieces.head? = some "."
  · obtain ⟨more, hmore⟩ := List.head?_eq_some_iff.mp hdot
    obtain ⟨hlead, -, hsplit⟩ := body_of_dot habs' hmore
    exact Or.inr (Or.inl ⟨hlead, more, hmore, hsplit⟩)
  · have hlead : p.lead = "" := by
      rw [lead, if_neg habs, if_neg hdot]
    refine Or.inr (Or.inr ⟨hlead, ?_⟩)
    rw [body, hlead]
    show p.pieces = Text.split '/' (String.ofList p.text.toList)
    rw [String.ofList_toList]
    rfl

theorem text_eq_lead_body (p : Path) : p.text = p.lead ++ p.body := by
  by_cases habs : p.isAbsolute = true
  · obtain ⟨hlead, htext⟩ := body_of_isAbsolute habs
    rw [hlead, ← htext]
  have habs' : p.isAbsolute = false := Bool.eq_false_iff.mpr habs
  by_cases hdot : p.pieces.head? = some "."
  · obtain ⟨more, hmore⟩ := List.head?_eq_some_iff.mp hdot
    obtain ⟨hlead, htext, -⟩ := body_of_dot habs' hmore
    rw [hlead, ← htext]
  · have hlead : p.lead = "" := by
      rw [lead, if_neg habs, if_neg hdot]
    rw [body, hlead, String.empty_append]
    exact String.ofList_toList.symm

theorem components_body (p : Path) : p.components = solid (Text.split '/' p.body) := by
  rw [components_eq_solid]
  rcases p.pieces_body with ⟨-, hpieces⟩ | ⟨-, more, hpieces, hmore⟩ | ⟨-, hpieces⟩
  · rw [hpieces, solid_cons_of_void _ rfl]
  · rw [hpieces, hmore, solid_cons_of_void _ rfl, solid_cons_of_void _ rfl]
  · rw [hpieces]

theorem isAbsolute_lead (p : Path) : (⟨p.lead⟩ : Path).isAbsolute = p.isAbsolute := by
  by_cases habs : p.isAbsolute = true
  · rw [lead, if_pos habs, habs]
    rfl
  · rw [lead, if_neg habs, Bool.eq_false_iff.mpr habs]
    split <;> rfl

theorem components_lead (p : Path) : (⟨p.lead⟩ : Path).components = [] := by
  rcases p.pieces_body with ⟨h, -⟩ | ⟨h, -⟩ | ⟨h, -⟩ <;> rw [h] <;> rfl

/-- A path starts where a text in front of it does. -/
theorem isAbsolute_append {s : String} (h : s ≠ "") (t : String) :
    (⟨s ++ t⟩ : Path).isAbsolute = (⟨s⟩ : Path).isAbsolute := by
  cases hchars : s.toList with
  | nil => exact absurd (String.toList_eq_nil_iff.mp hchars) h
  | cons c rest =>
      unfold isAbsolute
      rw [String.toList_append, hchars]
      rfl

/-- The last piece that leads somewhere, with void pieces behind it. -/
theorem eq_append_of_dropWhile_reverse {ps rest : List String} {piece : String}
    (h : ps.reverse.dropWhile isVoid = piece :: rest) :
    isVoid piece = false ∧
      ∃ voids, ps = rest.reverse ++ piece :: voids ∧ ∀ v ∈ voids, isVoid v = true := by
  have hne : ps.reverse.dropWhile isVoid ≠ [] := h ▸ List.cons_ne_nil piece rest
  constructor
  · have hhead : isVoid ((ps.reverse.dropWhile isVoid).head hne) = false :=
      List.head_dropWhile_not isVoid hne
    simpa [h] using hhead
  · refine ⟨(ps.reverse.takeWhile isVoid).reverse, ?_, ?_⟩
    · rw [← List.reverse_inj, List.reverse_append, List.reverse_cons, List.reverse_reverse,
        List.reverse_reverse, List.append_assoc, List.singleton_append, ← h,
        List.takeWhile_append_dropWhile]
    · intro v hv
      exact List.all_eq_true.mp List.all_takeWhile v (List.mem_reverse.mp hv)

theorem solid_eq_nil_of_dropWhile {ps : List String} (h : ps.dropWhile isVoid = []) :
    solid ps.reverse = [] := by
  have hall : ps.takeWhile isVoid = ps := by
    rw [← List.append_nil (ps.takeWhile isVoid), ← h, List.takeWhile_append_dropWhile]
  refine solid_eq_nil fun piece hpiece => ?_
  rw [← hall] at hpiece
  exact List.all_eq_true.mp List.all_takeWhile piece (List.mem_reverse.mp hpiece)

/-- The last piece of a lead with names and slashes behind it is the last name. -/
theorem pieces_concat {p : Path} {ks tail : List String} {d : String}
    (hsplit : Text.split '/' p.body = ks ++ [d] ++ tail) (hd : isVoid d = false) :
    ∃ front, Text.split '/' (p.lead ++ "/".intercalate (ks ++ [d])) = front ++ [d] := by
  have hmem : d ∈ Text.split '/' p.body := by
    rw [hsplit]
    exact List.mem_append_left _ (List.mem_append_right _ List.mem_cons_self)
  have hone : Text.split '/' d = [d] := Text.split_of_not_mem (Text.not_mem_of_mem_split hmem)
  by_cases hks : ks = []
  · rw [hks, List.nil_append, String.intercalate_singleton]
    rcases p.pieces_body with ⟨hlead, -⟩ | ⟨-, more, -, hmore⟩ | ⟨hlead, -⟩
    · refine ⟨[""], ?_⟩
      rw [hlead, Text.split_slash, hone]
      rfl
    · -- behind a leading dot comes a slash, so the first name would be empty
      rw [hmore, hks] at hsplit
      rw [← (List.cons.inj hsplit).1] at hd
      exact nomatch hd
    · refine ⟨[], ?_⟩
      rw [hlead, String.empty_append, hone]
      rfl
  · refine ⟨Text.split '/' (p.lead ++ "/".intercalate ks), ?_⟩
    rw [String.intercalate_append_of_ne_nil hks (List.cons_ne_nil d []),
      String.intercalate_singleton, ← String.append_assoc, ← String.append_assoc,
      Text.split_append_slash, hone]

/-- The text that is cut off from a path begins with a slash. -/
theorem text_eq_append_slash {p : Path} {kept tail : List String}
    (hsplit : Text.split '/' p.body = kept ++ tail) (hkept : kept ≠ []) (htail : tail ≠ []) :
    p.text = p.lead ++ "/".intercalate kept ++ "/" ++ "/".intercalate tail := by
  have hbody : p.body = "/".intercalate kept ++ "/" ++ "/".intercalate tail := by
    rw [← String.intercalate_append_of_ne_nil hkept htail, ← hsplit, Text.intercalate_split]
  rw [text_eq_lead_body, hbody, ← String.append_assoc, ← String.append_assoc]

/-- Cutting the last component off leaves a path that leads to where it is. -/
theorem cut_leads {p : Path} {cs ks gap voids : List String} {c d last : String}
    (hcs : p.components = cs ++ [c])
    (hsplit : Text.split '/' p.body = ks ++ [d] ++ (gap ++ last :: voids))
    (hd : isVoid d = false) (hlast : isVoid last = false)
    (hgap : ∀ v ∈ gap, isVoid v = true) (hvoids : ∀ v ∈ voids, isVoid v = true) :
    (⟨p.lead ++ "/".intercalate (ks ++ [d])⟩ : Path).Leads p.isAbsolute cs := by
  -- what is cut off has one piece that leads somewhere
  have htail : solid (gap ++ last :: voids) = [last] := by
    rw [solid_append, solid_eq_nil hgap, solid_cons _ hlast, solid_eq_nil hvoids]
    rfl
  have hne : gap ++ last :: voids ≠ [] :=
    List.append_ne_nil_of_right_ne_nil gap (List.cons_ne_nil last voids)
  generalize gap ++ last :: voids = tail at hsplit htail hne
  have hplain : ∀ piece ∈ tail, '/' ∉ piece.toList := by
    intro piece hpiece
    refine Text.not_mem_of_mem_split (s := p.body) ?_
    rw [hsplit]
    exact List.mem_append_right _ hpiece
  have htext := text_eq_append_slash hsplit
    (List.concat_ne_nil d ks) hne
  have hcomponents :
      (⟨p.lead ++ "/".intercalate (ks ++ [d])⟩ : Path).components = cs := by
    rw [components_eq_solid, pieces, htext, Text.split_append_slash,
      Text.split_intercalate hne hplain, solid_append, htail] at hcs
    exact (List.append_inj' hcs rfl).1
  obtain ⟨before, hbefore⟩ := pieces_concat hsplit hd
  have hlong : (⟨p.lead ++ "/".intercalate (ks ++ [d])⟩ : Path).components ≠ [] := by
    rw [components_eq_solid, pieces, hbefore, solid_append, solid_cons [] hd]
    exact List.append_ne_nil_of_right_ne_nil _ (List.cons_ne_nil d _)
  refine ⟨?_, hcomponents, fun _ => ⟨before, d, hbefore, hd⟩⟩
  -- what is left is not empty, so it starts as the whole does
  rw [← isAbsolute_append (ne_empty_of_components hlong) ("/" ++ "/".intercalate tail)]
  unfold isAbsolute
  rw [htext, ← String.append_assoc]

/-- The parent of a path leads to where the last component is. -/
theorem parent?_leads {p : Path} {cs : List String} {c : String}
    (hcs : p.components = cs ++ [c]) :
    ∃ q, p.parent? = some q ∧ q.Leads p.isAbsolute cs := by
  have hparts : solid (Text.split '/' p.body) = cs ++ [c] := by
    rw [← components_body, hcs]
  cases hcut : (Text.split '/' p.body).reverse.dropWhile isVoid with
  | nil =>
      -- with void pieces alone there would be no last component
      have hnil := solid_eq_nil_of_dropWhile hcut
      rw [List.reverse_reverse, hparts] at hnil
      exact absurd hnil (List.concat_ne_nil c cs)
  | cons last rest =>
      obtain ⟨hlast, voids, hsplit, hvoids⟩ := eq_append_of_dropWhile_reverse hcut
      have hparent : p.parent? =
          some ⟨p.lead ++ "/".intercalate (rest.dropWhile isVoid).reverse⟩ := by
        unfold body at hcut
        unfold parent?
        simp only [hcut]
      refine ⟨_, hparent, ?_⟩
      cases hkept : rest.dropWhile isVoid with
      | nil =>
          -- nothing is kept but the lead
          have hrest : solid rest.reverse = cs := by
            rw [hsplit, solid_append, solid_cons _ hlast, solid_eq_nil hvoids] at hparts
            exact (List.append_inj' hparts rfl).1
          have hnil : cs = [] := by
            rw [← hrest, solid_eq_nil_of_dropWhile hkept]
          rw [List.reverse_nil, String.intercalate_nil, String.append_empty]
          refine ⟨isAbsolute_lead p, ?_, fun hne => absurd hnil hne⟩
          rw [hnil, components_lead]
      | cons d front =>
          obtain ⟨hd, gap, hrev, hgap⟩ :=
            @eq_append_of_dropWhile_reverse rest.reverse front d
              (by rw [List.reverse_reverse]; exact hkept)
          rw [List.reverse_cons]
          refine cut_leads hcs ?_ hd hlast hgap hvoids
          rw [hsplit, hrev, List.append_assoc, List.append_assoc]
          rfl

end Path

end EntityPlan
