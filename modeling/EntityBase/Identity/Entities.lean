import EntityBase.Host
import EntityBase.Store

namespace EntityBase

/-!
# Identity entities

A project is represented by two entities.  The shared one carries the
project's identifier and may be sent to other processes.  The local one ties
it to a live object in this process; it refers to the shared one and goes
when that goes.  The identifier is unique among shared entities, and so is
the reference among local ones, so one process holds at most one binding for
a project.

Records are read back into these shapes with every assumption checked, since
nothing keeps a host from declaring other types under the same names.
-/

namespace Identity

def sharedType : String := "SharedEntity"

/-- The attribute that holds a shared entity's project identifier. -/
def projectIdField : String := "projectId"

def localType : String := "LocalEntity"

def sharedField : String := "sharedEntity"

def objectField : String := "liveObject"

def sharedDeclaration : EntityType :=
  { name := sharedType
    attributes := [{ field := projectIdField, kind := .value .string, unique := true }] }

def localDeclaration : EntityType :=
  { name := localType
    attributes := [
      { field := sharedField, kind := .reference sharedType, unique := true, cascade := true },
      { field := objectField, kind := .transient, indexed := true }]
    isLocal := true }

/-- The distributable half of a project's identity. -/
structure SharedEntity where
  /-- The identifier in the store it was read from. -/
  id : EntityId
  projectId : ProjectId
deriving DecidableEq

/-- The half of a project's identity that belongs to this process. -/
structure LocalEntity where
  id : EntityId
  shared : EntityId
  object : LiveRef
deriving DecidableEq

inductive IdentityEntity where
  | shared (entity : SharedEntity)
  | bound (entity : LocalEntity)
deriving DecidableEq

/-! ## Text -/

def SharedEntity.display (entity : SharedEntity) : String :=
  "SharedEntity(" ++ entity.id.display ++ ", projectId=" ++ entity.projectId.text ++ ")"

def SharedEntity.inspect (entity : SharedEntity) : String :=
  "SharedEntity \x7b id: " ++ entity.id.inspect ++ ", project_id: " ++ entity.projectId.inspect ++
    " \x7d"

/-- A local entity under inspection, with its object's own description. -/
def LocalEntity.inspect (entity : LocalEntity) (description : String) : String :=
  "LocalEntity \x7b id: " ++ entity.id.inspect ++ ", shared: " ++ entity.shared.inspect ++
    ", project: " ++ Text.quoted description ++ " \x7d"

namespace IdentityEntity

def id : IdentityEntity → EntityId
  | .shared entity => entity.id
  | .bound entity => entity.id

/-- An entity under inspection.  The descriptions are the objects' own. -/
def inspect (describe : LiveRef → String) : IdentityEntity → String
  | .shared entity => "Shared(" ++ entity.inspect ++ ")"
  | .bound entity => "Local(" ++ entity.inspect (describe entity.object) ++ ")"

end IdentityEntity

/-! ## Reading records -/

/-- The value under which a project identifier is indexed. -/
def projectKey (projectId : ProjectId) : Value :=
  .string projectId.text

/-- Insist on the type of a record. -/
def expectType (record : Record) (entityType : String) : Except Error Unit :=
  if record.entityType = entityType then .ok ()
  else .error (ErrorKind.invariantViolation (.wrongType record.id record.entityType entityType))

/-- One value of a record in the form that is expected of it. -/
def expectValue {α : Type} (record : Record) (field : String) (read : Value → Option α) :
    Except Error α :=
  match (record.attributes[field]?).bind read with
  | some content => .ok content
  | none => .error (ErrorKind.invariantViolation (.malformed record.entityType record.id field))

def SharedEntity.ofRecord (record : Record) : Except Error SharedEntity := do
  expectType record sharedType
  let text ← expectValue record projectIdField Value.text?
  return ⟨record.id, ⟨text⟩⟩

/-- Read a record as a local entity whose object is held and of a class. -/
def LocalEntity.ofRecord (host : Host) (className : String) (record : Record) :
    Except Error LocalEntity := do
  expectType record localType
  let shared ← expectValue record sharedField Value.entity?
  let object ← expectValue record objectField Value.live?
  if ¬ host.holds object then
    .error (ErrorKind.invariantViolation (.droppedObject record.id))
  else if ¬ host.holdsA className object then
    .error (ErrorKind.invariantViolation (.foreignObject record.id className))
  else
    return ⟨record.id, shared, object⟩

/-- Read a record as an identity entity, by its type. -/
def IdentityEntity.ofRecord (host : Host) (className : String) (record : Record) :
    Except Error IdentityEntity :=
  if record.entityType = sharedType then
    (SharedEntity.ofRecord record).map .shared
  else if record.entityType = localType then
    (LocalEntity.ofRecord host className record).map .bound
  else
    .error (ErrorKind.unknownEntityType record.entityType)

/-- Whether the object of a local entity's record has been dropped. -/
def isStale (host : Host) (record : Record) : Bool :=
  match (record.attributes[objectField]?).bind Value.live? with
  | some object => !host.holds object
  | none => false

end Identity

end EntityBase
