import EntityBase.Proofs.Replication.Envelopes

namespace EntityBase

/-!
# Envelopes in transport

A transport may deliver more bytes than one envelope has, or fewer.  The reader of
an envelope stops where the envelope does, and it refuses one that is cut short,
wherever the cut is: within a head, within a text, or between two bytes of the
payload.

The length of a payload is written in four bytes at most, like that of a text.  A
shared entity can be sent if its payload is no longer than that, which leaves the
project identifier a few bytes less.
-/

namespace Replication

open Identity
open MessagePack

/-! ## Readers -/

theorem WireRecord.steady_payload : Steady WireRecord.readPayload? := by
  refine Head.steady_read?.bind fun head => ?_
  cases head with
  | array length => exact (Steady.scalar _).many length
  | binary payload => exact steady_some payload
  | _ => exact steady_none

theorem WireRecord.steady_read? : Steady WireRecord.read? :=
  (Steady.pair "entity_type" "payload" (Steady.scalar Head.text?) steady_payload).bind
    fun (entityType, payload) => steady_some (WireRecord.mk entityType payload)

/-! ## Tables of decoders -/

theorem Decoders.contains_default_iff (entityType : String) :
    Decoders.default.contains entityType = true ↔ entityType = sharedType := by
  rw [Decoders.contains, Decoders.default, Std.ExtTreeMap.contains_insert, eq_comm (a := entityType)]
  simp

theorem Decoders.decodePayload_of_unknown {decoders : Decoders} {entityType : String}
    (unknown : decoders.contains entityType = false) (payload : List UInt8) :
    decoders.decodePayload entityType payload =
      .error (ErrorKind.unknownEntityType entityType) := by
  have absent : decoders.table[entityType]? = none :=
    Std.ExtTreeMap.getElem?_eq_none_of_contains_eq_false unknown
  rw [decodePayload, absent]

/-! ## Transport -/

/-- An envelope whose lengths can be written is read back as it was, whatever bytes
follow it, and refused if it is cut short.  A shared entity that is sent in one
arrives as it was, under any identifier and with any project identifier.  A table
without a decoder for the type that its payload is offered under refuses the
payload, and the default table has a decoder for the shared type alone. -/
theorem envelope_delimited :
    (∀ record : WireRecord, (Text.utf8 record.entityType).length < UInt32.size →
      record.payload.length < UInt32.size →
        (∀ rest, WireRecord.decode (record.encode ++ rest) = .ok record) ∧
        ∀ part, part <+: record.encode → part ≠ record.encode →
          WireRecord.decode part = .error (ErrorKind.serialization (.unreadable "wire record"))) ∧
    (∀ entity : SharedEntity, (Text.utf8 entity.projectId.text).length < UInt32.size →
      Decoders.default.decode (encodeShared entity) = .ok (.shared entity)) ∧
    (∀ entity : SharedEntity, (sharedPayload entity).length < UInt32.size →
      ∃ record, WireRecord.decode (encodeShared entity).encode = .ok record ∧
        Decoders.default.decode record = .ok (.shared entity)) ∧
    (∀ (entity : SharedEntity) (decoders : Decoders) (entityType : String),
      decoders.contains entityType = false →
        decoders.decodePayload entityType (encodeShared entity).payload =
          .error (ErrorKind.unknownEntityType entityType)) ∧
    ∀ entityType, Decoders.default.contains entityType = true ↔ entityType = sharedType := by
  refine ⟨fun record typeFits payloadFits => ⟨WireRecord.decode_encode typeFits payloadFits, ?_⟩,
    fun _ => decode_encodeShared, fun entity fits => ?_, fun entity decoders entityType unknown => ?_,
    Decoders.contains_default_iff⟩
  · have reads := WireRecord.reads_encode typeFits payloadFits
    exact fun part isPrefix strict =>
      decodeFront_of_prefix WireRecord.steady_read? reads isPrefix strict "wire record"
  · have unpacked := unpack_encodeShared fits []
    rw [List.append_nil] at unpacked
    exact ⟨_, unpacked, decode_encodeShared (Nat.lt_of_le_of_lt (length_text_le entity) fits)⟩
  · exact Decoders.decodePayload_of_unknown unknown _

namespace Sample

/-- Bytes of both forms. -/
def record : WireRecord :=
  ⟨"Note", [0x00, 0x7f, 0x80, 0xff]⟩

def entity : SharedEntity :=
  ⟨⟨0xffffffffffffffff⟩, ⟨"caf\u00e9"⟩⟩

theorem length_record : Sample.record.encode.length = 33 := by
  decide

end Sample

/-- The cut is between the two bytes that the last byte of the payload takes. -/
theorem envelope_delimited_sample :
    WireRecord.decode (Sample.record.encode ++ [0xc1]) = .ok Sample.record ∧
      WireRecord.decode (Sample.record.encode.take 32) =
        .error (ErrorKind.serialization (.unreadable "wire record")) ∧
      Decoders.default.decode (encodeShared Sample.entity) = .ok (.shared Sample.entity) ∧
      (∃ record, WireRecord.decode (encodeShared Sample.entity).encode = .ok record ∧
        Decoders.default.decode record = .ok (.shared Sample.entity)) ∧
      Decoders.default.decodePayload localType (encodeShared Sample.entity).payload =
        .error (ErrorKind.unknownEntityType localType) := by
  rcases envelope_delimited with ⟨delimits, decodes, arrives, refuses, known⟩
  rcases delimits Sample.record (by decide) (by decide) with ⟨whole, cut⟩
  have unknown : Decoders.default.contains localType = false :=
    Bool.eq_false_iff.mpr fun contained => absurd ((known localType).mp contained) (by decide)
  refine ⟨whole [0xc1], cut _ (List.take_prefix 32 _) fun same => ?_,
    decodes Sample.entity (by decide), arrives Sample.entity (by decide),
    refuses Sample.entity Decoders.default localType unknown⟩
  have size := congrArg List.length same
  rw [List.length_take, Sample.length_record] at size
  omega

end Replication

end EntityBase
