import EntityBase.Identity.Binding

namespace EntityBase

/-!
# Identity queries

These are the lookups that a host makes.  Where it expects an answer, absence is
an error, and the error says what was looked for.
-/

namespace Identity

/-- The answer of a lookup, or an error with the given description. -/
def orNotFound {α : Type} (looked : Except Error (Option α)) (description : String) :
    Except Error α := do
  match ← looked with
  | some found => return found
  | none => .error (ErrorKind.notFound description)

def toShared (host : Host) (transaction : Transaction) (project : Project) :
    Except Error SharedEntity :=
  orNotFound (sharedOf? host transaction project) ("no shared entity for " ++ project.description)

def toLocal (host : Host) (transaction : Transaction) (project : Project) :
    Except Error LocalEntity :=
  orNotFound (localOf? host transaction project) ("no local entity for " ++ project.description)

/-- The live object of a shared entity, if there is one. -/
def toLive? (host : Host) (transaction : Transaction) (className : String)
    (shared : SharedEntity) : Except Error (Option LiveRef) :=
  projectOf? host transaction className shared

def toLive (host : Host) (transaction : Transaction) (className : String)
    (shared : SharedEntity) : Except Error LiveRef :=
  orNotFound (projectOf? host transaction className shared)
    ("no live object for " ++ shared.display)

end Identity

end EntityBase
