import EntityBase.Decimal.Shortest
import EntityBase.EntityId
import EntityBase.Text.Quoted

namespace EntityBase

/-!
# Attribute values

An attribute holds one of six kinds of value.  Five of them are plain data
and can be written down; the sixth is a handle on an object of the host
process, which means nothing outside that process.

Equality is structural, and for floating-point values that means equality of
bit patterns.  Values of different kinds are never equal, even when one could
be read as the other.  The total order on values exists so that values can be
keys of an index; it refines this equality and carries no other meaning.
-/

/-- A handle on a host object.  It does not keep the object alive, and two
handles are equal exactly when they were made from the same object. -/
structure LiveRef where
  serial : Nat
deriving DecidableEq, Repr

namespace LiveRef

instance : Ord LiveRef :=
  ⟨compareOn serial⟩

instance : Std.TransOrd LiveRef :=
  inferInstanceAs (Std.TransCmp (compareOn serial))

instance : Std.LawfulEqOrd LiveRef where
  eq_of_compare {first second} same := by
    cases first
    cases second
    exact congrArg LiveRef.mk (Std.LawfulEqOrd.eq_of_compare (α := Nat) same)

end LiveRef

inductive ValueType where
  | bool
  | int
  | float
  | string
  | entityRef
  | live
deriving DecidableEq, Repr

namespace ValueType

/-- The name of a kind, as declarations and messages use it. -/
def display : ValueType → String
  | .bool => "bool"
  | .int => "int"
  | .float => "float"
  | .string => "string"
  | .entityRef => "entity-ref"
  | .live => "live"

/-- Whether values of the kind may be unique keys.  Floating-point values may
not: their bitwise equality is not the one a declaration would mean. -/
def isHashable (type : ValueType) : Bool :=
  type ≠ .float

/-- Whether values of the kind may leave the process. -/
def isSerializable (type : ValueType) : Bool :=
  type ≠ .live

/-- Whether a declaration of the first kind takes values of the second.  The
kinds must agree, except that a floating-point declaration takes integers. -/
def accepts (declared actual : ValueType) : Bool :=
  declared = actual ∨ (declared = .float ∧ actual = .int)

end ValueType

inductive Value where
  | bool (flag : Bool)
  | int (number : Int64)
  | float (number : Binary64)
  | string (text : String)
  | ref (id : EntityId)
  | live (object : LiveRef)
deriving DecidableEq

namespace Value

def type : Value → ValueType
  | .bool _ => .bool
  | .int _ => .int
  | .float _ => .float
  | .string _ => .string
  | .ref _ => .entityRef
  | .live _ => .live

def flag? : Value → Option Bool
  | .bool flag => some flag
  | _ => none

def integer? : Value → Option Int64
  | .int number => some number
  | _ => none

def float? : Value → Option Binary64
  | .float number => some number
  | _ => none

def text? : Value → Option String
  | .string text => some text
  | _ => none

def entity? : Value → Option EntityId
  | .ref id => some id
  | _ => none

def live? : Value → Option LiveRef
  | .live object => some object
  | _ => none

/-- The text of a value inside a message.  A live value has no text of its
own, since nothing about a handle would mean anything to a reader. -/
def display : Value → String
  | .bool flag => if flag then "true" else "false"
  | .int number => toString number.toInt
  | .float number => number.display
  | .string text => text
  | .ref id => id.display
  | .live _ => "<live>"

/-- The text of a value under inspection.  Strings are quoted and references
take their long form. -/
def inspect : Value → String
  | .string text => Text.quoted text
  | .ref id => id.inspect
  | value => value.display

/-! ## The order on values -/

/-- A position for each kind, and the payload as a number and a string. -/
def sortKey : Value → Nat × Nat × String
  | .bool flag => (0, flag.toNat, "")
  | .int number => (1, number.toUInt64.toNat, "")
  | .float number => (2, number.bits.toNat, "")
  | .string text => (3, 0, text)
  | .ref id => (4, id.raw.toNat, "")
  | .live object => (5, object.serial, "")

theorem sortKey_injective {first second : Value}
    (same : first.sortKey = second.sortKey) : first = second := by
  cases first <;> cases second <;> simp [sortKey] at same ⊢
  case bool.bool first second => cases first <;> cases second <;> simp_all
  case int.int first second =>
    cases first; cases second; exact congrArg Int64.ofUInt64 (UInt64.toNat_inj.1 same)
  case float.float first second =>
    cases first; cases second; exact congrArg Binary64.mk (UInt64.toNat_inj.1 same)
  case string.string => exact same
  case ref.ref first second =>
    cases first; cases second; exact congrArg EntityId.mk (UInt64.toNat_inj.1 same)
  case live.live first second => cases first; cases second; exact congrArg LiveRef.mk same

/-- Values are ordered by kind first and by payload second. -/
instance : Ord Value :=
  ⟨compareLex (compareOn (·.sortKey.1))
    (compareLex (compareOn (·.sortKey.2.1)) (compareOn (·.sortKey.2.2)))⟩

instance : Std.TransOrd Value :=
  inferInstanceAs (Std.TransCmp (compareLex (compareOn (fun value : Value => value.sortKey.1))
    (compareLex (compareOn (·.sortKey.2.1)) (compareOn (·.sortKey.2.2)))))

/-- The order separates distinct values, so it may key an index. -/
instance : Std.LawfulEqOrd Value where
  eq_of_compare {first second} same := by
    rcases compareLex_eq_eq.1 same with ⟨kinds, rest⟩
    rcases compareLex_eq_eq.1 rest with ⟨numbers, texts⟩
    exact sortKey_injective (Prod.ext (Std.LawfulEqOrd.eq_of_compare kinds)
      (Prod.ext (Std.LawfulEqOrd.eq_of_compare numbers) (Std.LawfulEqOrd.eq_of_compare texts)))

end Value

end EntityBase
