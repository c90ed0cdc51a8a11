import EntityBase.Allocator
import EntityBase.Index
import EntityBase.Schema

namespace EntityBase

/-!
# Stores

A store is a snapshot: the schema, the records of the live entities, the
value index over them, and the allocator that names new ones.  No operation
changes a store.  Those that write return the next snapshot, and a snapshot
may be continued more than once; what the continuations share is the
allocator.
-/

/-- A live entity: its type and one value for each attribute. -/
structure Record where
  id : EntityId
  entityType : String
  attributes : Std.ExtTreeMap String Value
deriving DecidableEq

structure Store where
  schema : Schema
  records : Std.ExtTreeMap EntityId Record
  index : Index
  allocator : Allocator
deriving DecidableEq

namespace Store

/-- A store with no types and no entities, on an allocator of its own. -/
def new (allocators : Allocators) : Store × Allocators :=
  let (allocator, allocators) := allocators.fresh
  ({ schema := ∅, records := ∅, index := ∅, allocator }, allocators)

def register (store : Store) (type : EntityType) : Except Error Store := do
  let schema ← store.schema.register type
  return { store with schema }

/-! ## Records -/

def get? (store : Store) (id : EntityId) : Option Record :=
  store.records[id]?

def value? (store : Store) (id : EntityId) (field : String) : Option Value :=
  (store.get? id).bind (·.attributes[field]?)

def contains (store : Store) (id : EntityId) : Bool :=
  store.records.contains id

def size (store : Store) : Nat :=
  store.records.size

def isEmpty (store : Store) : Bool :=
  store.records.isEmpty

/-- The records of one type, in the order of their identifiers. -/
def recordsOf (store : Store) (entityType : String) : List Record :=
  store.records.values.filter (·.entityType = entityType)

/-! ## Declarations -/

def declaration (store : Store) (entityType : String) : Except Error EntityType :=
  match store.schema.find? entityType with
  | some type => .ok type
  | none => .error (ErrorKind.unknownEntityType entityType)

def attributeOf (type : EntityType) (field : String) : Except Error Attribute :=
  match type.attribute? field with
  | some declared => .ok declared
  | none => .error (ErrorKind.unknownAttribute type.name field)

/-- The keys under which a record stands in the index. -/
def indexKeys (store : Store) (record : Record) : List IndexKey :=
  match store.schema.find? record.entityType with
  | none => []
  | some type =>
      (type.attributes.filter Attribute.isIndexed).filterMap fun declared =>
        (record.attributes[declared.field]?).map fun value =>
          ⟨record.entityType, declared.field, value⟩

end Store

end EntityBase
