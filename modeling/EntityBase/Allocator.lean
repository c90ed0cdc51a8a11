import EntityBase.EntityId
import Std.Data.ExtTreeMap

namespace EntityBase

/-!
# Allocators

An allocator is a handle on a counter of identifiers handed out.  Copies of a
handle share the counter, and so do all the snapshots that carry it: this is
what keeps their identifiers apart.  Since a handle is only a name, the
counters themselves are a value of their own, passed to whatever allocates.

A counter is one word and would wrap after `2 ^ 64` allocations.
-/

/-- A handle on a counter. -/
structure Allocator where
  family : Nat
deriving DecidableEq, Repr

/-- The counters of all allocators made so far. -/
structure Allocators where
  /-- How many identifiers each family has handed out; absent means none. -/
  counters : Std.ExtTreeMap Nat UInt64 := ∅
  families : Nat := 0
deriving DecidableEq

namespace Allocators

instance : EmptyCollection Allocators :=
  ⟨{}⟩

def fresh (allocators : Allocators) : Allocator × Allocators :=
  (⟨allocators.families⟩, { allocators with families := allocators.families + 1 })

/-- How many identifiers an allocator's family has handed out. -/
def allocated (allocators : Allocators) (allocator : Allocator) : UInt64 :=
  (allocators.counters[allocator.family]?).getD 0

/-- Hand out the next identifier of a family. -/
def allocate (allocators : Allocators) (allocator : Allocator) : EntityId × Allocators :=
  let next := allocators.allocated allocator
  (⟨next⟩, { allocators with counters := allocators.counters.insert allocator.family (next + 1) })

/-! ## Counts after each operation -/

@[simp]
theorem allocated_fresh (allocators : Allocators) (other : Allocator) :
    allocators.fresh.2.allocated other = allocators.allocated other :=
  rfl

/-- An identifier is the count before it was handed out. -/
@[simp]
theorem raw_allocate (allocators : Allocators) (allocator : Allocator) :
    (allocators.allocate allocator).1.raw = allocators.allocated allocator :=
  rfl

/-- Handing out an identifier moves its own family's count and no other. -/
theorem allocated_allocate (allocators : Allocators) (allocator other : Allocator) :
    (allocators.allocate allocator).2.allocated other =
      if allocator = other then allocators.allocated allocator + 1
      else allocators.allocated other := by
  simp only [allocate, allocated, Std.ExtTreeMap.getElem?_insert]
  by_cases same : allocator = other
  · simp [same]
  · have families : allocator.family ≠ other.family := by
      intro equal
      cases allocator
      cases other
      exact same (congrArg Allocator.mk equal)
    simp [same, families]

end Allocators

end EntityBase
