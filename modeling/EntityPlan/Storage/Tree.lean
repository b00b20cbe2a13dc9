import EntityPlan.Path

/-! # File trees — directories and files in memory

    A tree says for each location whether a directory or a file stands there.  The
    root is always a directory.  A path is followed piece by piece; each piece but
    the last one must lead to a directory. -/

namespace EntityPlan

/-- The names on the way from the root. -/
abbrev Location := List String

/-- What stands at a location. -/
inductive Entry
  | directory
  | file (content : ByteArray)

/-- Directories and files in memory. -/
structure FileTree where
  entries : List (Location × Entry)

namespace FileTree

/-- The tree with nothing but its root. -/
def empty : FileTree := ⟨[]⟩

/-- What stands at a location. -/
def at? (t : FileTree) (l : Location) : Option Entry :=
  if l = [] then some .directory else t.entries.lookup l

/-- The tree with an entry at a location; one that stood there is replaced. -/
def put (t : FileTree) (l : Location) (e : Entry) : FileTree :=
  if (t.entries.lookup l).isSome then
    ⟨t.entries.map fun r => if r.1 = l then (l, e) else r⟩
  else ⟨t.entries ++ [(l, e)]⟩

/-- Follows the pieces of a path from a location. -/
def follow (t : FileTree) (l : Location) : List String → Except StorageFault Location
  | [] => .ok l
  | piece :: rest =>
      match t.at? l with
      | none => .error .notFound
      | some (.file _) => .error .notDirectory
      | some .directory =>
          if Path.isVoid piece then t.follow l rest
          else if piece = ".." then t.follow l.dropLast rest
          else t.follow (l ++ [piece]) rest

/-- The location of a path in a working directory.  Something may stand there or not. -/
def locate (t : FileTree) (directory : Location) (p : Path) : Except StorageFault Location :=
  if p.text = "" then .error .notFound
  else t.follow (if p.isAbsolute then [] else directory) p.pieces

/-- What stands at the location of a path. -/
def entry (t : FileTree) (directory : Location) (p : Path) : Except StorageFault Entry := do
  match t.at? (← t.locate directory p) with
  | some e => return e
  | none => throw .notFound

/-- The text of a file. -/
def readText (t : FileTree) (directory : Location) (p : Path) : Except StorageFault String := do
  match ← t.entry directory p with
  | .directory => throw .isDirectory
  | .file content =>
      match String.fromUTF8? content with
      | some s => return s
      | none => throw .notText

/-- A file stands at the location of a path. -/
def isFile (t : FileTree) (directory : Location) (p : Path) : Bool :=
  match t.entry directory p with
  | .ok (.file _) => true
  | _ => false

/-- A directory stands at the location of a path. -/
def isDirectory (t : FileTree) (directory : Location) (p : Path) : Bool :=
  match t.entry directory p with
  | .ok .directory => true
  | _ => false

/-- The name of a location right below another. -/
def nameBelow? (l : Location) (below : Location) : Option String :=
  match below.getLast? with
  | some name => if below.dropLast = l then some name else none
  | none => none

/-- The names in a directory. -/
def names (t : FileTree) (directory : Location) (p : Path) :
    Except StorageFault (List String) := do
  let l ← t.locate directory p
  match t.at? l with
  | none => throw .notFound
  | some (.file _) => throw .notDirectory
  | some .directory => return t.entries.filterMap fun r => nameBelow? l r.1

/-- Makes a directory where nothing stands. -/
def makeDirectory (t : FileTree) (directory : Location) (p : Path) :
    Except StorageFault FileTree := do
  let l ← t.locate directory p
  match t.at? l with
  | some _ => throw .occupied
  | none => return t.put l .directory

/-- Writes a file; one that stood there is replaced. -/
def writeText (t : FileTree) (directory : Location) (p : Path) (content : String) :
    Except StorageFault FileTree := do
  let l ← t.locate directory p
  match t.at? l with
  | some .directory => throw .isDirectory
  | _ => return t.put l (.file content.toUTF8)

/-- A lookup among entries of which those at one location are replaced. -/
theorem lookup_replace (entries : List (Location × Entry)) (l k : Location) (e : Entry) :
    (entries.map fun r => if r.1 = l then (l, e) else r).lookup k =
      if k = l then (entries.lookup l).map fun _ => e else entries.lookup k := by
  induction entries with
  | nil => simp
  | cons r rest ih =>
      obtain ⟨a, b⟩ := r
      rw [List.map_cons]
      by_cases hal : a = l
      · subst hal
        rw [if_pos rfl]
        by_cases hka : k = a
        · subst hka
          simp
        · have hb : (k == a) = false := by simpa using hka
          rw [if_neg hka] at ih ⊢
          rw [List.lookup_cons, List.lookup_cons, hb]
          exact ih
      · rw [if_neg hal]
        by_cases hka : k = a
        · subst hka
          simp [hal]
        · have hb : (k == a) = false := by simpa using hka
          have hla : (l == a) = false := by simpa using Ne.symm hal
          rw [List.lookup_cons, List.lookup_cons, List.lookup_cons, hb, hla]
          exact ih

/-- What was put at a location stands there, and nothing else has changed. -/
theorem at?_put (t : FileTree) (l k : Location) (e : Entry) (hl : l ≠ []) :
    (t.put l e).at? k = if k = l then some e else t.at? k := by
  by_cases hk : k = []
  · subst hk
    have hne : ¬ ([] : Location) = l := fun h => hl h.symm
    simp [at?, hne]
  · simp only [at?, hk, if_false]
    unfold put
    split
    · next hsome =>
        obtain ⟨content, hcontent⟩ := Option.isSome_iff_exists.mp hsome
        show (t.entries.map fun r => if r.1 = l then (l, e) else r).lookup k = _
        rw [lookup_replace, hcontent]
        rfl
    · next hnone =>
        have hempty : t.entries.lookup l = none := Option.not_isSome_iff_eq_none.mp hnone
        show (t.entries ++ [(l, e)]).lookup k = _
        rw [List.lookup_append]
        by_cases hkl : k = l
        · subst hkl
          rw [hempty, List.lookup_cons_self, if_pos rfl]
          rfl
        · have hb : (k == l) = false := by simpa using hkl
          rw [List.lookup_cons, hb, if_neg hkl]
          exact Option.or_none

end FileTree

end EntityPlan
