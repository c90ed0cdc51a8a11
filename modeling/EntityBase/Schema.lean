import EntityBase.Error
import EntityBase.Schema.Declaration
import Std.Data.ExtTreeMap

namespace EntityBase

/-!
# The schema

A schema is the sequence of entity types registered so far.  Beside it stands
a table from each type to the references that lead to it, kept up to date by
registration so that a delete need not search the declarations.

Registration checks a declaration against the types already present and
either adds it at the end or leaves the schema alone.  A reference must lead
to a registered type or to the type being declared.

Cascading references must not form a cycle, since a delete could then not put
every dependent before the entity it depends on.  The search for a cycle walks
the cascading references from the declaration.  It holds each type not walked
through yet in `unvisited`, which is what bounds the walk, and it makes no use
of the fact that the registered types have no cycle among themselves.
-/

/-- A reference that leads to some type: an attribute of `owner`. -/
structure ReferenceEdge where
  owner : String
  field : String
  /-- Whether deleting the target deletes the owner. -/
  cascade : Bool
deriving DecidableEq

structure Schema where
  types : List EntityType := []
  /-- For each type, the references that lead to it, in the order of their
  registration. -/
  incoming : Std.ExtTreeMap String (List ReferenceEdge) := ∅
deriving DecidableEq

namespace Schema

instance : EmptyCollection Schema :=
  ⟨{}⟩

def find? (schema : Schema) (name : String) : Option EntityType :=
  schema.types.find? (·.name = name)

def contains (schema : Schema) (name : String) : Bool :=
  (schema.find? name).isSome

theorem contains_eq_true_iff (schema : Schema) (name : String) :
    schema.contains name = true ↔ ∃ type ∈ schema.types, type.name = name := by
  simp [contains, find?]

def size (schema : Schema) : Nat :=
  schema.types.length

def incomingReferences (schema : Schema) (target : String) : List ReferenceEdge :=
  (schema.incoming[target]?).getD []

/-- The types that the cascading references of a registered type lead to. -/
def cascadeTargets (schema : Schema) (owner : String) : List String :=
  match schema.find? owner with
  | some type => type.cascadeTargets
  | none => []

/-! ## Cascade cycles -/

/-- A type reached by the search and the path that led there. -/
structure Trail where
  current : String
  path : List String
deriving DecidableEq

/-- The trails one reference further. -/
def Trail.extend (trail : Trail) (targets : List String) : List Trail :=
  targets.map fun target => ⟨target, trail.path ++ [target]⟩

def without (names : List String) (name : String) : List String :=
  names.filter (· ≠ name)

theorem length_without_lt {names : List String} {name : String} (member : name ∈ names) :
    (without names name).length < names.length :=
  List.length_filter_lt_length_iff_exists.2 ⟨name, member, by simp⟩

/-- Walk the trails on the stack, the last one put there first, until one
reaches `start`. -/
def searchCycle (schema : Schema) (start : String) (unvisited : List String) :
    (stack : List Trail) → Option (List String)
  | [] => none
  | trail :: rest =>
      if trail.current = start then
        some trail.path
      else if trail.current ∈ unvisited then
        schema.searchCycle start (without unvisited trail.current)
          ((trail.extend (schema.cascadeTargets trail.current)).reverse ++ rest)
      else
        schema.searchCycle start unvisited rest
termination_by stack => (unvisited.length, stack.length)
decreasing_by
  · apply Prod.Lex.left
    exact length_without_lt ‹_›
  · exact Prod.Lex.right _ (by simp)

/-- A path along cascading references from a declaration back to its own
name.  Only registered types have references to follow. -/
def cascadeCycle? (schema : Schema) (type : EntityType) : Option (List String) :=
  let origin : Trail := ⟨type.name, [type.name]⟩
  schema.searchCycle type.name (schema.types.map (·.name))
    (origin.extend type.cascadeTargets).reverse

/-! ## Registration -/

/-- What is wrong with one attribute by itself or for its target. -/
def attributeFault? (schema : Schema) (entityType : String) (declared : Attribute) :
    Option SchemaFault :=
  if declared.unique ∧ ¬ declared.kind.valueType.isHashable then
    some (.unhashableUnique entityType declared.field declared.kind.valueType)
  else
    match declared.target? with
    | none =>
        if declared.cascade then some (.cascadeOnNonReference entityType declared.field) else none
    | some target =>
        if target ≠ entityType ∧ ¬ schema.contains target then
          some (.unknownReferenceTarget entityType declared.field target)
        else none

/-- The first fault in a list of attributes, after those in `seen`. -/
def attributesFault? (schema : Schema) (entityType : String) (seen : List String) :
    (attributes : List Attribute) → Option SchemaFault
  | [] => none
  | declared :: rest =>
      if declared.field ∈ seen then some (.duplicateAttribute entityType declared.field)
      else
        match schema.attributeFault? entityType declared with
        | some fault => some fault
        | none => schema.attributesFault? entityType (declared.field :: seen) rest

/-- Why a declaration cannot be added, if it cannot. -/
def fault? (schema : Schema) (type : EntityType) : Option SchemaFault :=
  if schema.contains type.name then some (.duplicateEntityType type.name)
  else
    match schema.attributesFault? type.name [] type.attributes with
    | some fault => some fault
    | none => (schema.cascadeCycle? type).map (.cascadeCycle type.name)

/-- Record one attribute of a type in the table of incoming references. -/
def addIncoming (owner : String) (incoming : Std.ExtTreeMap String (List ReferenceEdge))
    (declared : Attribute) : Std.ExtTreeMap String (List ReferenceEdge) :=
  match declared.target? with
  | none => incoming
  | some target =>
      incoming.alter target fun edges =>
        some (edges.getD [] ++ [⟨owner, declared.field, declared.cascade⟩])

/-- Add a declaration, or report the first reason against it. -/
def register (schema : Schema) (type : EntityType) : Except Error Schema :=
  match schema.fault? type with
  | some fault => .error (ErrorKind.schema fault)
  | none =>
      .ok { types := schema.types ++ [type]
            incoming := type.attributes.foldl (addIncoming type.name) schema.incoming }

/-- A declaration is added exactly when nothing is wrong with it, and it is
added at the end. -/
theorem register_eq_ok_iff (schema next : Schema) (type : EntityType) :
    schema.register type = .ok next ↔
      schema.fault? type = none ∧
        next = ⟨schema.types ++ [type],
          type.attributes.foldl (addIncoming type.name) schema.incoming⟩ := by
  unfold register
  cases schema.fault? type <;> simp [eq_comm]

end Schema

end EntityBase
