import EntityBase.Value

namespace EntityBase

/-!
# Declarations of entity types

An entity type has a name and a list of attributes, and every entity of the
type holds exactly one value for each of them.  An attribute is known by its
field name, which is unique within its type.

A reference is always indexed, whatever its declaration says: deleting an
entity needs to find who refers to it.
-/

inductive AttributeKind where
  /-- Plain data of one kind. -/
  | value (type : ValueType)
  /-- A reference to an entity of the named type. -/
  | reference (target : String)
  /-- A handle on a host object. -/
  | transient
deriving DecidableEq

def AttributeKind.valueType : AttributeKind → ValueType
  | .value type => type
  | .reference _ => .entityRef
  | .transient => .live

structure Attribute where
  field : String
  kind : AttributeKind
  /-- No two entities of the type hold the same value. -/
  unique : Bool := false
  /-- Entities can be looked up by the value. -/
  indexed : Bool := false
  /-- Deleting the referenced entity deletes the referring one. -/
  cascade : Bool := false
deriving DecidableEq

namespace Attribute

def target? (declared : Attribute) : Option String :=
  match declared.kind with
  | .reference target => some target
  | _ => none

def cascadeTarget? (declared : Attribute) : Option String :=
  if declared.cascade then declared.target? else none

/-- Whether lookups by the attribute are served from the index. -/
def isIndexed (declared : Attribute) : Bool :=
  declared.unique || declared.indexed || declared.target?.isSome

end Attribute

structure EntityType where
  name : String
  attributes : List Attribute := []
  /-- Entities of the type never leave the process. -/
  isLocal : Bool := false
deriving DecidableEq

namespace EntityType

def attribute? (type : EntityType) (field : String) : Option Attribute :=
  type.attributes.find? (·.field = field)

/-- The types that the cascading references lead to, in declaration order. -/
def cascadeTargets (type : EntityType) : List String :=
  type.attributes.filterMap Attribute.cascadeTarget?

/-- Whether records of the type may be sent to other processes.  A type with
a live attribute may not, even when it is not declared local. -/
def isReplicated (type : EntityType) : Bool :=
  !type.isLocal && type.attributes.all (·.kind.valueType.isSerializable)

end EntityType

end EntityBase
