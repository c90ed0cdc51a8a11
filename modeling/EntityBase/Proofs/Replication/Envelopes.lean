import EntityBase.Proofs.Outcome
import EntityBase.Proofs.Value.Coding
import EntityBase.Replication.Decoders

namespace EntityBase

/-!
# Envelopes read back

An envelope whose lengths can be written is read back as it was, whatever bytes
follow it, and so is the shared entity inside it.  What a sender writes for a
shared entity is therefore what the receiver takes in, down to the identifier,
which means nothing there.
-/

namespace Replication

open Identity
open MessagePack

variable {entity : SharedEntity} {record : WireRecord}

/-! ## Envelopes -/

theorem reads_payload {payload : List UInt8} (fits : payload.length < wordSize 4) :
    Reads WireRecord.readPayload? (WireRecord.writePayload payload) payload := by
  have bytewise : ∀ byte ∈ payload,
      Reads (readScalar fun item => (item.natural? UInt8.size).map UInt8.ofNat)
        (Head.unsigned byte.toNat).write byte := by
    intro byte _
    have small : byte.toNat < wordSize 1 := byte.toNat_lt
    refine Reads.scalar (Nat.lt_trans small (by decide)) ?_
    rw [natural?_unsigned byte.toNat_lt_size, Option.map_some, UInt8.ofNat_toNat]
  have counted : (Head.array payload.length).Fits := fits
  intro rest
  rw [WireRecord.readPayload?, WireRecord.writePayload, List.append_assoc, Head.read?_write counted]
  exact Reads.many bytewise rest

theorem WireRecord.reads_encode (typeFits : (Text.utf8 record.entityType).length < wordSize 4)
    (payloadFits : record.payload.length < wordSize 4) :
    Reads WireRecord.read? record.encode record := by
  have parts := Reads.pair (by decide : "entity_type" ≠ "payload") (by decide) (by decide)
    (Reads.text typeFits) (reads_payload payloadFits)
  intro rest
  rw [WireRecord.read?, WireRecord.encode, writePair, parts]
  rfl

theorem WireRecord.decode_encode (typeFits : (Text.utf8 record.entityType).length < wordSize 4)
    (payloadFits : record.payload.length < wordSize 4) (rest : List UInt8) :
    WireRecord.decode (record.encode ++ rest) = .ok record :=
  decodeFront_of_reads (WireRecord.reads_encode typeFits payloadFits) _ rest

/-! ## Shared entities -/

theorem reads_shared (fits : (Text.utf8 entity.projectId.text).length < wordSize 4) :
    Reads readShared? (sharedPayload entity) entity := by
  have parts := Reads.pair (by decide : "id" ≠ "project_id") (by decide) (by decide)
    (reads_id entity.id) (Reads.text fits)
  intro rest
  rw [readShared?, sharedPayload, writePair, parts]
  rfl

/-- The text of a project identifier is part of the payload. -/
theorem length_text_le (entity : SharedEntity) :
    (Text.utf8 entity.projectId.text).length ≤ (sharedPayload entity).length := by
  have last : (Text.utf8 entity.projectId.text).length ≤ (writeText entity.projectId.text).length := by
    rw [writeText, Head.write, List.length_append]
    exact Nat.le_add_left _ _
  rw [sharedPayload, writePair, List.length_append]
  exact Nat.le_trans last (Nat.le_add_left _ _)

theorem decodeShared_sharedPayload (fits : (Text.utf8 entity.projectId.text).length < wordSize 4)
    (rest : List UInt8) : decodeShared (sharedPayload entity ++ rest) = .ok (.shared entity) := by
  rw [decodeShared, decodeFront_of_reads (reads_shared fits)]
  rfl

/-! ## Receiving -/

/-- Take in the bytes of one envelope. -/
def Decoders.receive (decoders : Decoders) (bytes : List UInt8) : Except Error ReplicatedRecord := do
  decoders.decode (← WireRecord.decode bytes)

theorem decode_encodeShared (fits : (Text.utf8 entity.projectId.text).length < wordSize 4) :
    Decoders.default.decode (encodeShared entity) = .ok (.shared entity) := by
  have known : Decoders.default.table[sharedType]? = some decodeShared := by
    rw [Decoders.default, Std.ExtTreeMap.getElem?_insert_self]
  have decoded := decodeShared_sharedPayload fits []
  rw [List.append_nil] at decoded
  rw [Decoders.decode, encodeShared, Decoders.decodePayload]
  simp only [known, decoded]

theorem unpack_encodeShared (fits : (sharedPayload entity).length < wordSize 4)
    (rest : List UInt8) :
    WireRecord.decode ((encodeShared entity).encode ++ rest) = .ok (encodeShared entity) := by
  have typeFits : (Text.utf8 sharedType).length < wordSize 4 := by decide
  exact WireRecord.decode_encode typeFits fits rest

/-- The default decoders take in a shared entity as it was sent. -/
theorem receive_encodeShared (fits : (sharedPayload entity).length < wordSize 4)
    (rest : List UInt8) :
    Decoders.default.receive ((encodeShared entity).encode ++ rest) = .ok (.shared entity) := by
  rw [Decoders.receive, unpack_encodeShared fits]
  exact decode_encodeShared (Nat.lt_of_le_of_lt (length_text_le entity) fits)

end Replication

end EntityBase
