import EntityBase.Engine
import EntityBase.Identity.Entities

namespace EntityBase

/-!
# Binding projects

All operations here run inside a transaction.  Those that only look are
functions of it.  Those that write thread it through, together with the
counters it allocates from; when one fails, what it has written before stays
in the transaction, for its owner to commit or abandon.

Binding an object finds or creates the shared entity of its project, clears
away the binding of an object that the host has dropped, and creates the
local entity.  Every step looks before it writes, so running a body again
after a conflict finds what a competing commit has made meanwhile.

A shared entity may have come from another process, where identifiers mean
something else.  Lookups therefore go by the project identifier, and an
entity identifier counts only if the record there carries the same project.
-/

namespace Identity

/-! ## Installation -/

def install (store : Store) : Except Error Store := do
  let store ← store.register sharedDeclaration
  store.register localDeclaration

/-- Register both entity types on an engine, each as a version of its own.
If the second is refused, the first stays. -/
def installInto (engine : Engine) : Except Error Unit × Engine :=
  match engine.register sharedDeclaration with
  | .error error => (.error error, engine)
  | .ok (_, engine) =>
      match engine.register localDeclaration with
      | .error error => (.error error, engine)
      | .ok (_, engine) => (.ok (), engine)

/-! ## Lookups -/

/-- The record of an entity that should be there. -/
def record (transaction : Transaction) (id : EntityId) : Except Error Record := do
  match ← transaction.get? id with
  | some record => return record
  | none => .error (ErrorKind.entityNotFound id)

def sharedAt (transaction : Transaction) (id : EntityId) : Except Error SharedEntity := do
  SharedEntity.ofRecord (← record transaction id)

/-- The shared entity of a project identifier. -/
def sharedFor? (transaction : Transaction) (projectId : ProjectId) :
    Except Error (Option SharedEntity) := do
  match ← transaction.single sharedType projectIdField (projectKey projectId) with
  | none => return none
  | some id => return some (← sharedAt transaction id)

def localOf? (host : Host) (transaction : Transaction) (project : Project) :
    Except Error (Option LocalEntity) := do
  match ← transaction.single localType objectField (.live project.object) with
  | none => return none
  | some id =>
      return some (← LocalEntity.ofRecord host project.className (← record transaction id))

/-- The shared entity that an object is bound to. -/
def sharedOf? (host : Host) (transaction : Transaction) (project : Project) :
    Except Error (Option SharedEntity) := do
  match ← localOf? host transaction project with
  | none => return none
  | some bound => return some (← sharedAt transaction bound.shared)

/-- The shared entity that an object is bound to, or an error if it is not
bound. -/
def sharedOf (host : Host) (transaction : Transaction) (project : Project) :
    Except Error SharedEntity := do
  match ← sharedOf? host transaction project with
  | some shared => return shared
  | none => .error (ErrorKind.notBound project.description)

/-- This store's own entity for a shared entity that may be foreign. -/
def resolve? (transaction : Transaction) (shared : SharedEntity) :
    Except Error (Option SharedEntity) := do
  match ← transaction.get? shared.id with
  | some record =>
      if record.entityType = sharedType then
        let own ← SharedEntity.ofRecord record
        if own.projectId = shared.projectId then return some own
        else sharedFor? transaction shared.projectId
      else sharedFor? transaction shared.projectId
  | none => sharedFor? transaction shared.projectId

/-- The object bound to a shared entity, if the host still holds it.  An
object of another class than asked for is an error. -/
def projectOf? (host : Host) (transaction : Transaction) (className : String)
    (shared : SharedEntity) : Except Error (Option LiveRef) := do
  match ← resolve? transaction shared with
  | none => return none
  | some own =>
      match ← transaction.single localType sharedField (.ref own.id) with
      | none => return none
      | some id =>
          let found ← record transaction id
          if isStale host found then return none
          else return some (← LocalEntity.ofRecord host className found).object

/-- The object bound to a shared entity, or an error if there is none. -/
def projectOf (host : Host) (transaction : Transaction) (className : String)
    (shared : SharedEntity) : Except Error LiveRef := do
  match ← projectOf? host transaction className shared with
  | some object => return object
  | none => .error (ErrorKind.notBound shared.display)

def isBound (transaction : Transaction) (project : Project) : Except Error Bool := do
  let found ← transaction.find localType objectField (.live project.object)
  return !found.ids.isEmpty

/-! ## Writes -/

/-- A transaction at work and the counters it allocates from. -/
structure Workspace where
  transaction : Transaction
  allocators : Allocators
deriving DecidableEq

/-- A piece of work that may fail and keeps what it has written by then. -/
abbrev Work (α : Type) := ExceptT Error (StateM Workspace) α

namespace Work

def look {α : Type} (reading : Transaction → Except Error α) : Work α :=
  ExceptT.mk fun workspace => (reading workspace.transaction, workspace)

def create (entityType : String) (supplied : List (String × Value)) : Work EntityId :=
  ExceptT.mk fun workspace =>
    match workspace.transaction.create workspace.allocators entityType supplied with
    | .ok (id, transaction, allocators) => (.ok id, ⟨transaction, allocators⟩)
    | .error error => (.error error, workspace)

def delete (id : EntityId) : Work (List EntityId) :=
  ExceptT.mk fun workspace =>
    match workspace.transaction.delete id with
    | .ok (removed, transaction) => (.ok removed, { workspace with transaction })
    | .error error => (.error error, workspace)

end Work

/-- Find or create the shared entity of a project identifier. -/
def adoptId (projectId : ProjectId) : Work SharedEntity := do
  match ← Work.look (sharedFor? · projectId) with
  | some shared => return shared
  | none =>
      let id ← Work.create sharedType [(projectIdField, projectKey projectId)]
      return ⟨id, projectId⟩

/-- Find or create the shared entity for one received from another process.
Its identifier is the one in this store. -/
def adopt (received : SharedEntity) : Work SharedEntity :=
  adoptId received.projectId

/-- Remove the binding of a shared entity if its object has been dropped. -/
def pruneStale (host : Host) (shared : SharedEntity) : Work Unit := do
  match ← Work.look (·.single localType sharedField (.ref shared.id)) with
  | none => return ()
  | some id =>
      if isStale host (← Work.look (record · id)) then
        let _ ← Work.delete id

/-- Bind an object to its project's identity.  An object that is bound
already keeps its binding, provided that it still claims the same project. -/
def bind (host : Host) (project : Project) : Work LocalEntity := do
  match ← Work.look (localOf? host · project) with
  | some bound =>
      let shared ← Work.look (sharedAt · bound.shared)
      if shared.projectId = project.id then return bound
      else throw (ErrorKind.invariantViolation
        (.rebound project.description shared.id shared.projectId.text project.id.text) : Error)
  | none =>
      let shared ← adoptId project.id
      pruneStale host shared
      let id ← Work.create localType
        [(sharedField, .ref shared.id), (objectField, .live project.object)]
      return ⟨id, shared.id, project.object⟩

/-- Remove an object's binding and keep the shared entity.  Answers whether
it was bound. -/
def unbind (host : Host) (project : Project) : Work Bool := do
  match ← Work.look (localOf? host · project) with
  | none => return false
  | some bound =>
      let _ ← Work.delete bound.id
      return true

/-- Delete the shared entity of a project, and with it the binding.  Returns
what was removed, which is nothing for an unknown project. -/
def teardown (projectId : ProjectId) : Work (List EntityId) := do
  match ← Work.look (sharedFor? · projectId) with
  | none => return []
  | some shared => Work.delete shared.id

end Identity

end EntityBase
