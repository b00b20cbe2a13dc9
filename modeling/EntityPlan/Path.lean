import EntityPlan.Failure
import EntityPlan.Text.Pieces

/-! # Paths — texts with components

    A path is kept as it is written; joining adds to the text and normalises
    nothing.  Its components are what stands between the slashes, less empty ones
    and single dots. -/

namespace EntityPlan

/-- A path, as it is written. -/
structure Path where
  text : String
  deriving DecidableEq, Repr, Inhabited

namespace Path

/-- A path from the root. -/
def isAbsolute (p : Path) : Bool := p.text.toList.head? == some '/'

/-- What stands between the slashes. -/
def pieces (p : Path) : List String := Text.split '/' p.text

/-- A piece that leads nowhere. -/
def isVoid (piece : String) : Bool := piece == "" || piece == "."

/-- The pieces that lead somewhere. -/
def components (p : Path) : List String := p.pieces.filter fun piece => !isVoid piece

/-- The path with another behind it: an absolute one takes its place, and a slash is
    put between unless there is one. -/
def join (p : Path) (q : String) : Path :=
  if q.toList.head? = some '/' then ⟨q⟩
  else if p.text = "" ∨ p.text.toList.getLast? = some '/' then ⟨p.text ++ q⟩
  else ⟨p.text ++ "/" ++ q⟩

/-- The path with several others behind it, one after another. -/
def joinAll (p : Path) (qs : List String) : Path := qs.foldl join p

/-- The path made absolute against a directory.  Two leading slashes, and no more,
    are kept, and so is one at the end. -/
def absolute (base p : Path) : Except StorageFault Path :=
  if p.text = "" then .error .emptyPath
  else
    let cs := p.text.toList
    let start : Path :=
      if !p.isAbsolute then base
      else if cs.take 2 = ['/', '/'] ∧ cs.take 3 ≠ ['/', '/', '/'] then ⟨"//"⟩
      else ⟨"/"⟩
    let whole := start.joinAll p.components
    .ok (if cs.getLast? = some '/' then whole.join "" else whole)

/-- What stands before the body of a path: the root, a leading dot, or nothing. -/
def lead (p : Path) : String :=
  if p.isAbsolute then "/" else if p.pieces.head? = some "." then "." else ""

/-- The path without its last component, if it has one. -/
def parent? (p : Path) : Option Path :=
  let body := String.ofList (p.text.toList.drop p.lead.length)
  match (Text.split '/' body).reverse.dropWhile isVoid with
  | _ :: rest =>
      let kept := (rest.dropWhile isVoid).reverse
      some ⟨p.lead ++ "/".intercalate kept⟩
  | [] => if p.lead = "." then some ⟨""⟩ else none

/-- What stands behind the last dot of a file name, unless the dot comes first. -/
def extension? (name : String) : Option String :=
  let cs := name.toList
  let ending := (cs.reverse.takeWhile (· ≠ '.')).reverse
  if name = ".." ∨ cs.length ≤ ending.length + 1 then none else some (String.ofList ending)

end Path

end EntityPlan
