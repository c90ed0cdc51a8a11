import EntityBase.Error
import EntityBase.MessagePack.Fields

namespace EntityBase

/-!
# Values as MessagePack

A value is written as a map of one entry, from the name of its kind to its
content.  A live value cannot be written, and nothing that is read is one.  A
kind of value by itself is written as its name, and an identifier as its word.

When read, a kind may also be given by its position, and by itself also as the
key of a map of one entry that holds nil.
-/

open MessagePack

/-- The name of each kind of value in writing, in the order of positions. -/
def ValueType.wireNames : List String :=
  ["Bool", "Int", "Float", "String", "EntityRef", "Live"]

def ValueType.wireName : ValueType → String
  | .bool => "Bool"
  | .int => "Int"
  | .float => "Float"
  | .string => "String"
  | .entityRef => "EntityRef"
  | .live => "Live"

/-- The kind at a position. -/
def ValueType.ofPosition? : Nat → Option ValueType
  | 0 => some .bool
  | 1 => some .int
  | 2 => some .float
  | 3 => some .string
  | 4 => some .entityRef
  | 5 => some .live
  | _ => none

def ValueType.ofHead? (head : Head) : Option ValueType :=
  (head.position? ValueType.wireNames).bind ValueType.ofPosition?

def ValueType.encode (type : ValueType) : List UInt8 :=
  writeText type.wireName

def ValueType.read? : Reader ValueType := fun bytes => do
  let (head, rest) ← Head.read? bytes
  match head with
  | .map 1 =>
      let (type, rest) ← readScalar ValueType.ofHead? rest
      let (content, rest) ← Head.read? rest
      if content.isNil then return (type, rest) else none
  | head => return (← ValueType.ofHead? head, rest)

def EntityId.encode (id : EntityId) : List UInt8 :=
  (Head.unsigned id.raw.toNat).write

def EntityId.ofHead? (head : Head) : Option EntityId :=
  (head.natural? UInt64.size).map fun word => ⟨UInt64.ofNat word⟩

def EntityId.read? : Reader EntityId :=
  readScalar EntityId.ofHead?

namespace Value

/-- The bytes of a value's content.  A live value has none. -/
def content? : Value → Option (List UInt8)
  | .bool flag => some (Head.bool flag).write
  | .int number => some (Head.ofInt number.toInt).write
  | .float number => some (Head.float64 number.bits).write
  | .string text => some (writeText text)
  | .ref id => some id.encode
  | .live _ => none

def encode (value : Value) : Except Error (List UInt8) :=
  match value.content? with
  | some content => .ok ((Head.map 1).write ++ writeText value.type.wireName ++ content)
  | none => .error (ErrorKind.serialization .liveValue)

/-- The integer that a head holds, if it fits. -/
def integerOfHead? (head : Head) : Option Int64 :=
  head.integer?.bind fun number =>
    if Int64.minValue.toInt ≤ number ∧ number ≤ Int64.maxValue.toInt then
      some (Int64.ofInt number)
    else none

/-- The content that a head holds for a value of a kind. -/
def ofHead? (type : ValueType) (head : Head) : Option Value :=
  match type with
  | .bool => head.flag?.map .bool
  | .int => (integerOfHead? head).map .int
  | .float => head.float?.map .float
  | .string => head.text?.map .string
  | .entityRef => (EntityId.ofHead? head).map .ref
  | .live => none

def read? : Reader Value := fun bytes => do
  let (head, rest) ← Head.read? bytes
  match head with
  | .map 1 =>
      let (type, rest) ← readScalar ValueType.ofHead? rest
      readScalar (ofHead? type) rest
  | _ => none

end Value

/-- The item at the front of the bytes, with a fault if there is none. -/
def decodeFront {α : Type} (reader : Reader α) (what : String) (bytes : List UInt8) :
    Except Error α :=
  match reader bytes with
  | some (item, _) => .ok item
  | none => .error (ErrorKind.serialization (.unreadable what))

def Value.decode (bytes : List UInt8) : Except Error Value :=
  decodeFront Value.read? "value" bytes

def ValueType.decode (bytes : List UInt8) : Except Error ValueType :=
  decodeFront ValueType.read? "type" bytes

def EntityId.decode (bytes : List UInt8) : Except Error EntityId :=
  decodeFront EntityId.read? "identifier" bytes

end EntityBase
