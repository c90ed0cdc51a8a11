import EntityBase.Proofs.MessagePack.Truncation
import EntityBase.Value.Coding

namespace EntityBase

/-!
# Values read back

The name of its kind goes with a value, since its content alone would not tell:
an identifier is written like an integer, and a floating-point value is read from
either.  With the kind known, the content of every value that can be written is a
single head, and that head determines the value bit by bit.

A live value has no content to write.  It cannot be read either.  Its kind has a
name, but a reader that meets the name finds nothing to make of it.
-/

open MessagePack

/-! ## Decoding -/

section Decoding

variable {α : Type} {reader : Reader α} {bytes part : List UInt8} {item : α}

theorem decodeFront_of_reads (reads : Reads reader bytes item) (what : String) (rest : List UInt8) :
    decodeFront reader what (bytes ++ rest) = .ok item := by
  rw [decodeFront, reads]

theorem decodeFront_of_prefix (steady : Steady reader) (reads : Reads reader bytes item)
    (isPrefix : part <+: bytes) (strict : part ≠ bytes) (what : String) :
    decodeFront reader what part = .error (ErrorKind.serialization (.unreadable what)) := by
  rw [decodeFront, steady.eq_none_of_prefix reads isPrefix strict]

theorem decodeFront_eq_ok {what : String} (decoded : decodeFront reader what bytes = .ok item) :
    ∃ rest, reader bytes = some (item, rest) := by
  unfold decodeFront at decoded
  split at decoded
  · rename_i first rest taken
    cases decoded
    exact ⟨rest, taken⟩
  · cases decoded

end Decoding

/-! ## Contents -/

theorem ValueType.ofHead?_wireName (type : ValueType) :
    ValueType.ofHead? (.string (Text.utf8 type.wireName)) = some type := by
  cases type <;> decide

theorem EntityId.ofHead?_unsigned (id : EntityId) :
    EntityId.ofHead? (.unsigned id.raw.toNat) = some id := by
  rw [ofHead?, natural?_unsigned id.raw.toNat_lt_size, Option.map_some, UInt64.ofNat_toNat]

theorem reads_id (id : EntityId) : Reads EntityId.read? id.encode id :=
  Reads.scalar id.raw.toNat_lt id.ofHead?_unsigned

namespace Value

variable {value : Value} {type : ValueType} {head : Head}

theorem fits_ofInt (number : Int64) : (Head.ofInt number.toInt).Fits := by
  have lower := number.le_toInt
  have upper := number.toInt_lt
  have widest : wordSize 8 = 2 ^ 64 := by decide
  unfold Head.ofInt
  split
  · exact ⟨‹number.toInt < 0›, by omega⟩
  · change number.toInt.toNat < wordSize 8
    omega

/-- An integer is the same in either family. -/
theorem integer?_ofInt (number : Int) : (Head.ofInt number).integer? = some number := by
  unfold Head.ofInt
  split
  · rfl
  · rw [Head.integer?, Int.toNat_of_nonneg (by omega)]

theorem integerOfHead?_ofInt (number : Int64) :
    integerOfHead? (Head.ofInt number.toInt) = some number := by
  rw [integerOfHead?, integer?_ofInt, Option.bind_some,
    if_pos ⟨number.minValue_le_toInt, number.toInt_le⟩, Int64.ofInt_toInt]

/-- The texts that can be written have a length of four bytes. -/
def TextFits (value : Value) : Prop :=
  ∀ text, value = .string text → (Text.utf8 text).length < UInt32.size

/-- A value that can be written is a head, and the head is the value. -/
theorem exists_head (storable : value.type ≠ .live) (fits : value.TextFits) :
    ∃ head : Head, head.Fits ∧ value.content? = some head.write ∧
      ofHead? value.type head = some value := by
  cases value with
  | bool flag => exact ⟨.bool flag, trivial, rfl, rfl⟩
  | int number =>
      exact ⟨.ofInt number.toInt, fits_ofInt number, rfl, by rw [type, ofHead?, integerOfHead?_ofInt]; rfl⟩
  | float number => exact ⟨.float64 number.bits, trivial, rfl, rfl⟩
  | string text =>
      refine ⟨.string (Text.utf8 text), fits text rfl, rfl, ?_⟩
      rw [type, ofHead?, Head.text?, Text.ofUtf8?_utf8]
      rfl
  | ref id =>
      refine ⟨.unsigned id.raw.toNat, id.raw.toNat_lt, rfl, ?_⟩
      rw [type, ofHead?, id.ofHead?_unsigned]
      rfl
  | live object => exact absurd rfl storable

/-- What a head is read as is of the kind that was asked for. -/
theorem type_of_ofHead? (known : ofHead? type head = some value) : value.type = type := by
  cases type <;> simp only [ofHead?, Option.map_eq_some_iff, reduceCtorEq] at known
  all_goals
    rcases known with ⟨_, -, rfl⟩
    rfl

/-! ## Values -/

theorem steady_read? : Steady Value.read? := by
  refine Head.steady_read?.bind fun head => ?_
  cases head with
  | map length =>
      match length with
      | 1 => exact (Steady.scalar ValueType.ofHead?).bind fun type => Steady.scalar (ofHead? type)
      | 0 | _ + 2 => exact steady_none
  | _ => exact steady_none

theorem exists_encode (storable : value.type ≠ .live) (fits : value.TextFits) :
    ∃ bytes, value.encode = .ok bytes ∧ Reads Value.read? bytes value := by
  rcases exists_head storable fits with ⟨head, headFits, written, known⟩
  have counted : (Head.map 1).Fits := (by decide : 1 < wordSize 4)
  have short : (Text.utf8 value.type.wireName).length < wordSize 4 := by
    cases value.type <;> decide
  have named : Reads (readScalar ValueType.ofHead?) (writeText value.type.wireName) value.type :=
    Reads.scalar short (ValueType.ofHead?_wireName value.type)
  have content := Reads.scalar headFits known
  refine ⟨(Head.map 1).write ++ writeText value.type.wireName ++ head.write, ?_, fun rest => ?_⟩
  · rw [encode, written]
  · simp only [List.append_assoc, Value.read?, Head.read?_write counted, named _,
      content _, Option.bind_eq_bind, Option.bind_some]

/-- Reading ends in the content of a kind. -/
theorem exists_of_read? {bytes rest : List UInt8} (taken : Value.read? bytes = some (value, rest)) :
    ∃ type head, ofHead? type head = some value := by
  rcases Option.bind_eq_some_iff.mp taken with ⟨⟨head, content⟩, -, taken⟩
  dsimp only at taken
  split at taken
  · rcases Option.bind_eq_some_iff.mp taken with ⟨⟨type, content⟩, -, taken⟩
    rcases Option.bind_eq_some_iff.mp taken with ⟨⟨head, rest⟩, -, taken⟩
    rcases Option.bind_eq_some_iff.mp taken with ⟨answer, known, result⟩
    cases result
    exact ⟨type, head, known⟩
  · cases taken

theorem type_ne_live_of_read? {bytes rest : List UInt8}
    (taken : Value.read? bytes = some (value, rest)) : value.type ≠ .live := by
  rcases exists_of_read? taken with ⟨type, head, known⟩
  rw [type_of_ofHead? known]
  rintro rfl
  cases known

/-- A value can be written exactly when it is not live.  Its bytes tell where they
end.  Whatever follows them, they are read as the same value, down to the bits of
a floating-point one, and from fewer bytes nothing is read.  No bytes are read as
a live value, written by this encoding or otherwise. -/
theorem encode_carries (value : Value) :
    ((∃ error, value.encode = .error error) ↔ value.type = .live) ∧
    (value.type ≠ .live → value.TextFits → ∃ bytes, value.encode = .ok bytes ∧
      (∀ rest, Value.decode (bytes ++ rest) = .ok value) ∧
      ∀ part, part <+: bytes → part ≠ bytes →
        Value.decode part = .error (ErrorKind.serialization (.unreadable "value"))) ∧
    ∀ (bytes : List UInt8) (object : LiveRef), Value.decode bytes ≠ .ok (.live object) := by
  refine ⟨?_, fun storable fits => ?_, fun bytes object decoded => ?_⟩
  · cases value <;> simp [encode, content?, type]
  · rcases exists_encode storable fits with ⟨bytes, encoded, reads⟩
    exact ⟨bytes, encoded, decodeFront_of_reads reads "value",
      fun part isPrefix strict => decodeFront_of_prefix steady_read? reads isPrefix strict "value"⟩
  · rcases decodeFront_eq_ok decoded with ⟨rest, taken⟩
    exact type_ne_live_of_read? taken rfl

/-- A text of thirty-two bytes, the first length that does not go into the marker.
Here it is cut right before its length. -/
theorem encode_carries_text : ∃ bytes,
    (string "abcdefghijklmnopqrstuvwxyz-01234").encode = .ok bytes ∧
      Value.decode (bytes ++ [0xc0]) = .ok (.string "abcdefghijklmnopqrstuvwxyz-01234") ∧
      Value.decode (bytes.take 9) = .error (ErrorKind.serialization (.unreadable "value")) := by
  have fits : TextFits (string "abcdefghijklmnopqrstuvwxyz-01234") := by
    intro text same
    cases same
    decide
  rcases (encode_carries (string "abcdefghijklmnopqrstuvwxyz-01234")).2.1 nofun fits with
    ⟨bytes, encoded, carried, cut⟩
  refine ⟨bytes, encoded, carried [0xc0], cut _ (List.take_prefix 9 bytes) fun same => ?_⟩
  have size : (string "abcdefghijklmnopqrstuvwxyz-01234").encode.map List.length = .ok 42 := by rfl
  rw [encoded, Except.map, Except.ok.injEq, ← same, List.length_take] at size
  omega

end Value

end EntityBase
