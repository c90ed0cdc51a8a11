namespace EntityBase

/-!
# Entity identifiers

An identifier is one 64-bit word.  Stores hand them out in increasing order
and never hand one out twice, so an identifier that outlives its entity
cannot come to name another one.  The largest word is set aside to mean
"no entity".

Two written forms exist.  The short form appears inside messages; the long
form is the one shown when a value is inspected.
-/

/-- The name of an entity inside the stores that share one allocator. -/
structure EntityId where
  raw : UInt64
deriving DecidableEq, Repr

namespace EntityId

/-- The identifier that stands for no entity. -/
def null : EntityId :=
  ⟨0xffffffffffffffff⟩

def isNull (id : EntityId) : Bool :=
  id = null

instance : Inhabited EntityId :=
  ⟨null⟩

/-- Identifiers are ordered by their words, which is the order of allocation. -/
instance : Ord EntityId :=
  ⟨compareOn raw⟩

instance : Std.TransOrd EntityId :=
  inferInstanceAs (Std.TransCmp (compareOn raw))

instance : Std.LawfulEqOrd EntityId where
  eq_of_compare {first second} same := by
    cases first
    cases second
    exact congrArg EntityId.mk (Std.LawfulEqOrd.eq_of_compare (α := UInt64) same)

/-- The word in decimal, or the word `null` for the reserved identifier. -/
private def wordText (id : EntityId) : String :=
  if id.isNull then "null" else Nat.repr id.raw.toNat

def display (id : EntityId) : String :=
  "Entity(" ++ id.wordText ++ ")"

/-- The long written form, as in `EntityId(3)`. -/
def inspect (id : EntityId) : String :=
  "EntityId(" ++ id.wordText ++ ")"

end EntityId

end EntityBase
