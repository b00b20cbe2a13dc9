import EntityPlan.Outcome
import EntityPlan.Source.Record

/-! # Merging documents — several exports as one

    Merging appends the records of one document to another.  It stops at the first
    name that is declared already, entities before applications, and what was
    appended up to there stays. -/

namespace EntityPlan.Source

/-- Inserts entries one after another, up to the first name that is taken. -/
def Collection.append {α : Type} (kind : String) (c : Collection α) :
    List (String × α) → Outcome Failure (Collection α)
  | [] => ⟨c, .ok ()⟩
  | (name, a) :: rest =>
      match c.insert kind name a with
      | .ok c' => c'.append kind rest
      | .error f => ⟨c, .error f⟩

namespace Document

/-- The document with the records of another appended, as far as that goes. -/
def merge (a b : Document) : Outcome Failure Document :=
  let entities := a.entities.append "entity" b.entities.entries
  match entities.ending with
  | .error f => ⟨{ a with entities := entities.state }, .error f⟩
  | .ok () =>
      let applications := a.applications.append "application" b.applications.entries
      let a := { a with entities := entities.state, applications := applications.state }
      match applications.ending with
      | .error f => ⟨a, .error f⟩
      | .ok () => ⟨{ a with relationships := a.relationships ++ b.relationships }, .ok ()⟩

/-- The document with the records of another appended, if all can be. -/
def join (a b : Document) : Except Failure Document := (a.merge b).result

end Document

end EntityPlan.Source
