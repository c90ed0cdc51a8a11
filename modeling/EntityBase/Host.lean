import EntityBase.Value
import Std.Data.ExtTreeMap

namespace EntityBase

/-!
# The host's objects

The host owns the live objects and may drop one at any time, bound or not.
What the library needs from it is whether the object behind a handle is still
held, and of which class it is.

A project is an object that someone holds while asking about it: its handle
and class, the identifier it claims, and how it describes itself.  The host
promises that the identifier does not change during the object's life; where
that promise matters and can be seen to be broken, it is checked.
-/

/-- The distributable name of a project. -/
structure ProjectId where
  text : String
deriving DecidableEq, Repr

namespace ProjectId

instance : Ord ProjectId :=
  ⟨compareOn text⟩

instance : Std.TransOrd ProjectId :=
  inferInstanceAs (Std.TransCmp (compareOn text))

instance : Std.LawfulEqOrd ProjectId where
  eq_of_compare {first second} same := by
    cases first
    cases second
    exact congrArg ProjectId.mk (Std.LawfulEqOrd.eq_of_compare (α := String) same)

def inspect (id : ProjectId) : String :=
  "ProjectId(" ++ Text.quoted id.text ++ ")"

end ProjectId

/-- A project object in the hands of its user. -/
structure Project where
  object : LiveRef
  className : String
  id : ProjectId
  description : String
deriving DecidableEq

/-- The description of a project that has none of its own. -/
def ProjectId.describe (id : ProjectId) : String :=
  "project '" ++ id.text ++ "'"

/-- The objects that the host holds, each with its class. -/
structure Host where
  held : Std.ExtTreeMap LiveRef String := ∅
deriving DecidableEq

namespace Host

def holds (host : Host) (object : LiveRef) : Bool :=
  host.held.contains object

def holdsA (host : Host) (className : String) (object : LiveRef) : Bool :=
  host.held[object]? = some className

def take (host : Host) (object : LiveRef) (className : String) : Host :=
  ⟨host.held.insert object className⟩

def drop (host : Host) (object : LiveRef) : Host :=
  ⟨host.held.erase object⟩

end Host

end EntityBase
