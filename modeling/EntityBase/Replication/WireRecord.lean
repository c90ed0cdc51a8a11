import EntityBase.Identity.Entities
import EntityBase.Value.Coding

namespace EntityBase

/-!
# Wire records

What one process sends another is an envelope: the name of an entity type and
the bytes of one record.  The name lets the receiver choose how to read the
bytes without trusting them.

The envelope and the shared entity inside it are records of two fields.  The
payload of an envelope is written as an array of numbers, one for each byte,
and read from such an array or from binary data.
-/

namespace Replication

open Identity
open MessagePack

structure WireRecord where
  entityType : String
  payload : List UInt8
deriving DecidableEq

/-- The bytes of a record of two named fields whose contents are written. -/
def writePair (firstName : String) (first : List UInt8) (secondName : String)
    (second : List UInt8) : List UInt8 :=
  (Head.map 2).write ++ writeText firstName ++ first ++ writeText secondName ++ second

namespace WireRecord

def writePayload (payload : List UInt8) : List UInt8 :=
  (Head.array payload.length).write ++
    payload.flatMap fun byte => (Head.unsigned byte.toNat).write

def readPayload? : Reader (List UInt8) := fun bytes => do
  let (head, rest) ← Head.read? bytes
  match head with
  | .array length =>
      readMany (readScalar fun item => (item.natural? UInt8.size).map UInt8.ofNat) length rest
  | .binary payload => return (payload, rest)
  | _ => none

def encode (record : WireRecord) : List UInt8 :=
  writePair "entity_type" (writeText record.entityType) "payload" (writePayload record.payload)

def read? : Reader WireRecord := fun bytes => do
  let ((entityType, payload), rest) ←
    readPair "entity_type" "payload" (readScalar Head.text?) readPayload? bytes
  return (⟨entityType, payload⟩, rest)

def decode (bytes : List UInt8) : Except Error WireRecord :=
  decodeFront read? "wire record" bytes

end WireRecord

def sharedPayload (entity : SharedEntity) : List UInt8 :=
  writePair "id" entity.id.encode "project_id" (writeText entity.projectId.text)

def readShared? : Reader SharedEntity := fun bytes => do
  let ((id, text), rest) ←
    readPair "id" "project_id" EntityId.read? (readScalar Head.text?) bytes
  return (⟨id, ⟨text⟩⟩, rest)

def encodeShared (entity : SharedEntity) : WireRecord :=
  ⟨sharedType, sharedPayload entity⟩

end Replication

end EntityBase
