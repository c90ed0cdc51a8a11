import EntityBase.Replication.WireRecord

namespace EntityBase

/-!
# Sending and receiving records

A receiver keeps a table from entity types to decoders.  A record of a type
that is not in the table is refused, so a process takes in nothing it has not
declared.  The default table knows shared entities only.

A sender exports the shared entities of a snapshot in the order of their
identifiers.  Nothing else ever leaves a store.
-/

namespace Replication

open Identity

/-- A record as its receiver sees it. -/
inductive ReplicatedRecord where
  | shared (entity : SharedEntity)
deriving DecidableEq

namespace ReplicatedRecord

def entityType : ReplicatedRecord → String
  | .shared _ => sharedType

def encode : ReplicatedRecord → WireRecord
  | .shared entity => encodeShared entity

end ReplicatedRecord

/-- Reads the payload of one entity type. -/
abbrev Decoder := List UInt8 → Except Error ReplicatedRecord

def decodeShared : Decoder := fun payload =>
  (decodeFront readShared? "shared entity" payload).map .shared

structure Decoders where
  table : Std.ExtTreeMap String Decoder := ∅

namespace Decoders

def empty : Decoders :=
  {}

/-- The table that knows shared entities. -/
def default : Decoders :=
  ⟨(∅ : Std.ExtTreeMap String Decoder).insert sharedType decodeShared⟩

def contains (decoders : Decoders) (entityType : String) : Bool :=
  decoders.table.contains entityType

/-- Add a decoder for a type that has none. -/
def register (decoders : Decoders) (entityType : String) (decoder : Decoder) :
    Except Error Decoders :=
  if decoders.contains entityType then
    .error (ErrorKind.schema (.duplicateEntityType entityType))
  else
    .ok ⟨decoders.table.insert entityType decoder⟩

def decodePayload (decoders : Decoders) (entityType : String) (payload : List UInt8) :
    Except Error ReplicatedRecord :=
  match decoders.table[entityType]? with
  | some decoder => decoder payload
  | none => .error (ErrorKind.unknownEntityType entityType)

def decode (decoders : Decoders) (record : WireRecord) : Except Error ReplicatedRecord :=
  decoders.decodePayload record.entityType record.payload

def inspect (decoders : Decoders) : String :=
  "DecoderRegistry \x7b entity_types: " ++
    Text.listed "[" (decoders.table.keys.map Text.quoted) "]" ++ " \x7d"

end Decoders

/-- The envelopes of all shared entities of a snapshot, in the order of their
identifiers.  There are none unless the shared type is registered and may be
replicated. -/
def exportShared (store : Store) : Except Error (List WireRecord) :=
  match store.schema.find? sharedType with
  | some type =>
      if type.isReplicated then do
        let entities ← (store.recordsOf sharedType).mapM SharedEntity.ofRecord
        return entities.map encodeShared
      else .ok []
  | none => .ok []

end Replication

end EntityBase
