import EntityBase.Value

namespace EntityBase

/-!
# Errors

An error is a cause together with the place where it was met.  Causes are
data: each names what was wrong and the things involved, and the wording is
settled in one `message` function per family.  The place is not part of the
message and is rendered on its own.

Four families also have a `stated` cause, which carries a host's own words.
Hosts raise errors of these kinds themselves, and the library has no say in
what they report.
-/

/-- Where an error was met.  The frames name the operations in progress,
outermost first. -/
structure Context where
  entityType : Option String := none
  field : Option String := none
  frames : List String := []
deriving DecidableEq

namespace Context

def ofAttribute (entityType field : String) : Context :=
  { entityType := some entityType, field := some field }

/-- The type and attribute on one line, then a line for each frame. -/
def display (context : Context) : String :=
  let place :=
    match context.entityType, context.field with
    | some entityType, some field => "at " ++ entityType ++ "." ++ field
    | some entityType, none => "at " ++ entityType
    | none, some field => "at ." ++ field
    | none, none => ""
  let lines := context.frames.map fun frame => "  in " ++ frame ++ "\n"
  if context.frames.isEmpty then place
  else place ++ "\n" ++ String.join lines

end Context

inductive Violation where
  | stated (text : String)
  | repeatedAttribute (field : String)
  | taken (entityType field : String) (value : Value)
  /-- A reference leads to an entity of another type than declared. -/
  | wrongTarget (entityType field target : String) (id : EntityId) (actual : String)
  | alreadyPresent (id : EntityId)
  | stillReferenced (victim owner : EntityId) (field : String)
deriving DecidableEq

def Violation.message : Violation → String
  | .stated text => text
  | .repeatedAttribute field => "attribute " ++ field ++ " supplied more than once"
  | .taken entityType field value =>
      entityType ++ "." ++ field ++ " = " ++ value.display ++ " is already taken"
  | .wrongTarget entityType field target id actual =>
      entityType ++ "." ++ field ++ " must reference " ++ target ++ ", got " ++ id.display ++
        " of type " ++ actual
  | .alreadyPresent id => id.display ++ " is already present"
  | .stillReferenced victim owner field =>
      "cannot delete " ++ victim.display ++ ": still referenced by " ++ owner.display ++
        " via " ++ field

/-- What a reader found to contradict its assumptions. -/
inductive Inconsistency where
  | stated (text : String)
  /-- A lookup that expects one match at most has several. -/
  | manyMatches (entityType field : String) (value : Value) (found : Nat)
  | wrongType (id : EntityId) (actual expected : String)
  /-- A record lacks an attribute, or holds a value of another kind in it. -/
  | malformed (entityType : String) (id : EntityId) (field : String)
  | droppedObject (id : EntityId)
  /-- The object of a binding is of another class than the reader asked for. -/
  | foreignObject (id : EntityId) (className : String)
  /-- An object bound under one project now claims another. -/
  | rebound (description : String) (shared : EntityId) (held claimed : String)
deriving DecidableEq

def Inconsistency.message : Inconsistency → String
  | .stated text => text
  | .manyMatches entityType field value found =>
      "expected at most one " ++ entityType ++ " with " ++ field ++ " = " ++ value.display ++
        ", found " ++ Nat.repr found
  | .wrongType id actual expected => id.display ++ " is a " ++ actual ++ ", not a " ++ expected
  | .malformed entityType id field =>
      entityType ++ " " ++ id.display ++ " has no well-formed " ++ field
  | .droppedObject id => "the live object of " ++ id.display ++ " has been dropped"
  | .foreignObject id className =>
      id.display ++ " holds a live object that is not a " ++ className
  | .rebound description shared held claimed =>
      description ++ " is bound to SharedEntity(" ++ shared.display ++ ", projectId=" ++ held ++
        ") and cannot be rebound to '" ++ claimed ++ "'"

inductive SchemaFault where
  | duplicateEntityType (entityType : String)
  | duplicateAttribute (entityType field : String)
  | unhashableUnique (entityType field : String) (type : ValueType)
  | cascadeOnNonReference (entityType field : String)
  | unknownReferenceTarget (entityType field target : String)
  /-- The path runs along cascading references and ends where it began. -/
  | cascadeCycle (entityType : String) (path : List String)
deriving DecidableEq

def SchemaFault.message : SchemaFault → String
  | .duplicateEntityType entityType => "entity type already registered: " ++ entityType
  | .duplicateAttribute entityType field =>
      "duplicate attribute " ++ field ++ " on " ++ entityType
  | .unhashableUnique entityType field type =>
      "unique attribute " ++ field ++ " on " ++ entityType ++ " has non-hashable type " ++
        type.display
  | .cascadeOnNonReference entityType field =>
      "cascade-delete-by on non-reference attribute " ++ field ++ " of " ++ entityType
  | .unknownReferenceTarget entityType field target =>
      "attribute " ++ field ++ " on " ++ entityType ++ " references unregistered type " ++
        target
  | .cascadeCycle entityType path =>
      "cascade-delete cycle through " ++ entityType ++ ": " ++ String.intercalate " -> " path

inductive Conflict where
  | stated (text : String)
  /-- A logged write was refused by the newer snapshot, with the message of
  that refusal. -/
  | refusedWrite (transaction baseVersion version : UInt64) (cause : String)
deriving DecidableEq

def Conflict.message : Conflict → String
  | .stated text => text
  | .refusedWrite transaction baseVersion version cause =>
      "transaction " ++ Nat.repr transaction.toNat ++ " started at version " ++
        Nat.repr baseVersion.toNat ++ " does not apply at version " ++ Nat.repr version.toNat ++
        ": " ++ cause

/-- Why a value could not be written down or read back. -/
inductive CodingFault where
  | stated (text : String)
  | liveValue
  | unreadable (what : String)
deriving DecidableEq

def CodingFault.message : CodingFault → String
  | .stated text => text
  | .liveValue => "live values are process-local and cannot be serialized"
  | .unreadable what => "unreadable " ++ what

inductive ErrorKind where
  | constraintViolation (violation : Violation)
  | invariantViolation (inconsistency : Inconsistency)
  | notFound (description : String)
  | notBound (description : String)
  | noActiveContext
  | commitConflict (conflict : Conflict)
  | entityNotFound (id : EntityId)
  | unknownEntityType (entityType : String)
  | unknownAttribute (entityType field : String)
  | missingAttribute (entityType field : String)
  | notIndexed (entityType field : String)
  | typeMismatch (expected actual : ValueType)
  | schema (fault : SchemaFault)
  | serialization (fault : CodingFault)
deriving DecidableEq

namespace ErrorKind

def message : ErrorKind → String
  | .constraintViolation violation => "constraint violation: " ++ violation.message
  | .invariantViolation inconsistency => "invariant violation: " ++ inconsistency.message
  | .notFound description => "not found: " ++ description
  | .notBound description => "not bound: " ++ description
  | .noActiveContext => "no active transaction"
  | .commitConflict conflict => "commit conflict: " ++ conflict.message
  | .entityNotFound id => "entity not found: " ++ id.inspect
  | .unknownEntityType entityType => "unknown entity type: " ++ entityType
  | .unknownAttribute entityType field =>
      "unknown attribute: " ++ field ++ " on entity type " ++ entityType
  | .missingAttribute entityType field =>
      "missing required attribute: " ++ field ++ " on entity type " ++ entityType
  | .notIndexed entityType field =>
      "attribute " ++ field ++ " on entity type " ++ entityType ++ " is not indexed"
  | .typeMismatch expected actual =>
      "type mismatch: expected " ++ expected.display ++ ", got " ++ actual.display
  | .schema fault => "schema error: " ++ fault.message
  | .serialization fault => "serialization error: " ++ fault.message

end ErrorKind

/-- An error and, when it is known, the place where it was met. -/
structure Error where
  kind : ErrorKind
  context : Option Context := none
deriving DecidableEq

namespace Error

/-- The wording of the cause; the place is left to the reader. -/
def message (error : Error) : String :=
  error.kind.message

/-- Whether running the enclosing transaction again may succeed. -/
def isRetryable (error : Error) : Bool :=
  match error.kind with
  | .commitConflict _ => true
  | _ => false

def isConstraintViolation (error : Error) : Bool :=
  match error.kind with
  | .constraintViolation _ => true
  | _ => false

def atAttribute (kind : ErrorKind) (entityType field : String) : Error :=
  { kind, context := some (Context.ofAttribute entityType field) }

end Error

/-- A cause alone is an error whose place is not known. -/
instance : Coe ErrorKind Error :=
  ⟨fun kind => { kind }⟩

end EntityBase
