import EntityBase.Allocator

namespace EntityBase

/-!
# Accounting for identifiers

A counter is a word and says nothing of a wrap.  To speak of all identifiers
ever handed out, a history keeps them in a list, in the order of allocation.
The counter accounts for such a list when it shows its length, up to the wrap,
and every entry lies below that length.

An identifier handed out is then new as long as fewer than `2 ^ 64` have been
handed out before it.  This is the only place where that bound is used.
-/

namespace Allocators

variable {allocators : Allocators} {allocator other : Allocator} {issued : List EntityId}

/-- The counter of an allocator shows how many identifiers a list holds, all
of which it has handed out. -/
structure Accounts (allocators : Allocators) (allocator : Allocator) (issued : List EntityId) :
    Prop where
  counter : allocators.allocated allocator = UInt64.ofNat issued.length
  below : ∀ id ∈ issued, id.raw.toNat < issued.length

/-- Below the wrap, the identifier handed out next is greater than all before. -/
theorem Accounts.lt_allocate (accounts : allocators.Accounts allocator issued)
    (few : issued.length < UInt64.size) {id : EntityId} (member : id ∈ issued) :
    id.raw < (allocators.allocate allocator).1.raw := by
  rw [UInt64.lt_iff_toNat_lt, raw_allocate, accounts.counter, UInt64.toNat_ofNat_of_lt' few]
  exact accounts.below id member

theorem Accounts.allocate_notMem (accounts : allocators.Accounts allocator issued)
    (few : issued.length < UInt64.size) : (allocators.allocate allocator).1 ∉ issued :=
  fun repeated => UInt64.lt_irrefl _ (accounts.lt_allocate few repeated)

/-- The word that is set aside would be the last one handed out. -/
theorem Accounts.allocate_ne_null (accounts : allocators.Accounts allocator issued)
    (few : issued.length < UInt64.size - 1) :
    (allocators.allocate allocator).1 ≠ EntityId.null := by
  intro null
  have raw := congrArg (fun id => id.raw.toNat) null
  have below : issued.length < UInt64.size := by omega
  simp only [raw_allocate, accounts.counter, UInt64.toNat_ofNat_of_lt' below, EntityId.null] at raw
  rw [raw] at few
  exact absurd few (by decide)

theorem Accounts.allocate (accounts : allocators.Accounts allocator issued) :
    (allocators.allocate allocator).2.Accounts allocator
      (issued ++ [(allocators.allocate allocator).1]) where
  counter := by
    rw [allocated_allocate, if_pos rfl, accounts.counter, List.length_append, List.length_singleton,
      UInt64.ofNat_add]
    rfl
  below := by
    intro id member
    rw [List.length_append, List.length_singleton]
    rcases List.mem_append.mp member with old | last
    · exact Nat.lt_succ_of_lt (accounts.below id old)
    · rw [List.mem_singleton.mp last, raw_allocate, accounts.counter]
      exact Nat.lt_succ_of_le (Nat.mod_le issued.length _)

/-- An allocation elsewhere leaves the account as it is. -/
theorem Accounts.allocate_of_ne (accounts : allocators.Accounts allocator issued)
    (different : other ≠ allocator) : (allocators.allocate other).2.Accounts allocator issued where
  counter := by rw [allocated_allocate, if_neg different, accounts.counter]
  below := accounts.below

end Allocators

end EntityBase
