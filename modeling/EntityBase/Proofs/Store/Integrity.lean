import Mathlib.Data.List.Permutation
import EntityBase.Proofs.Store.Lookup

namespace EntityBase

/-!
# What every snapshot promises

The main statements on stores, for every snapshot of every lawful history in
which fewer than `2 ^ 64` identifiers have been handed out.  The records are
what the schema says and no reference dangles; and the index agrees with the
records, so that reading through it is reading them.

The bound is on the allocator of the snapshot alone.  Other allocators of the
same world may have wrapped.
-/

namespace World

/-! ## A history for example

A small history with what makes the theorems hard: a delete that cascades, an
identifier that is taken again by an insertion, and a type registered late.
-/

namespace Sample

/-- Owners are told apart by their key. -/
def owner : EntityType :=
  { name := "Owner"
    attributes := [{ field := "key", kind := .value .string, unique := true }] }

/-- Dependents go with their owner. -/
def dependent : EntityType :=
  { name := "Dependent"
    attributes := [
      { field := "owner", kind := .reference "Owner", cascade := true },
      { field := "rank", kind := .value .int, indexed := true }] }

/-- An owner that was deleted along with its dependent. -/
def deleted : World :=
  ([.register owner,
    .create "Owner" [("key", .string "first")],
    .register dependent,
    .create "Dependent" [("owner", .ref ⟨0⟩), ("rank", .int 1)],
    .delete .ascending ⟨0⟩] : List StoreCall).foldl World.advance ({} : World).withNew

/-- The owner's identifier is in use again, and so is its key, and it has a
new dependent. -/
def restored : World :=
  (deleted.advance (.insert ⟨0⟩ "Owner" [("key", .string "first")])).advance
    (.create "Dependent" [("owner", .ref ⟨0⟩), ("rank", .int 2)])

theorem lawful_deleted : deleted.Lawful :=
  Lawful.advances (.new .start) (by simp [StoreCall.inserted?])

theorem issued_deleted :
    (deleted.stores.head?.map fun store => deleted.issued store.allocator) = some [⟨0⟩, ⟨1⟩] := by
  cbv

theorem lawful_restored : restored.Lawful := by
  unfold restored
  refine (lawful_deleted.advance _ ?_).advance _ (by simp [StoreCall.inserted?])
  intro store id brought newest
  cases brought
  have issued := issued_deleted
  rw [newest] at issued
  have handed : deleted.issued store.allocator = [⟨0⟩, ⟨1⟩] := Option.some.inj issued
  rw [HandedOut, handed]
  exact List.mem_cons_self

theorem newest_restored :
    (restored.stores.head?.map fun store =>
      (store.size, store.index.size, (restored.issued store.allocator).length)) =
      some (2, 3, 3) := by
  cbv

/-- The newest snapshot of the example: two records, which hold three keys. -/
theorem exists_newest : ∃ store, restored.stores.head? = some store ∧
    store.size = 2 ∧ store.index.size = 3 ∧ (restored.issued store.allocator).length = 3 := by
  rcases Option.map_eq_some_iff.mp newest_restored with ⟨store, newest, sizes⟩
  exact ⟨store, newest, congrArg Prod.fst sizes, congrArg (·.2.1) sizes, congrArg (·.2.2) sizes⟩

end Sample

/-! ## Records -/

variable {world : World} {store : Store}

/-- The records of a lawful snapshot stand under their own identifiers and
conform to registered types, their references lead to live entities of the
declared types, and no two entities of a type share a unique value. -/
theorem integrity_of_lawful (lawful : world.Lawful) (member : store ∈ world.stores)
    (few : (world.issued store.allocator).length < UInt64.size) : store.Integrity :=
  ((lawful.keeps member).coherent few).integrity

theorem integrity_of_lawful_sample : ∃ store, Sample.restored.Lawful ∧
    store ∈ Sample.restored.stores ∧ (Sample.restored.issued store.allocator).length < UInt64.size ∧
    store.size = 2 ∧ store.Integrity := by
  rcases Sample.exists_newest with ⟨store, newest, size, -, issued⟩
  have member := List.mem_of_mem_head? newest
  have few : (Sample.restored.issued store.allocator).length < UInt64.size := by rw [issued]; decide
  exact ⟨store, Sample.lawful_restored, member, few, size,
    integrity_of_lawful Sample.lawful_restored member few⟩

/-! ## The index -/

/-- The index of a lawful snapshot holds an entity under a key exactly when
the entity's record holds that value in an indexed attribute.  No key stands
for an empty set.  A lookup is then a scan of the records, a unique attribute
never has two matches, and there is one key for each value held. -/
theorem index_of_lawful (lawful : world.Lawful) (member : store ∈ world.stores)
    (few : (world.issued store.allocator).length < UInt64.size) :
    (∀ (id : EntityId) (key : IndexKey), id ∈ store.index.find key ↔ store.Holds id key) ∧
    (∀ (key : IndexKey) (members : EntitySet),
      store.index.entries[key]? = some members → members ≠ ∅) ∧
    (∀ (type : EntityType) (declared : Attribute) (value : Value),
      store.schema.find? type.name = some type → declared ∈ type.attributes →
      declared.isIndexed = true →
        store.find type.name declared.field value = .ok ⟨type.name, declared.field, value,
          store.scan type.name declared.field value⟩ ∧
        (declared.unique = true →
          ∃ answer, store.single type.name declared.field value = .ok answer ∧
            ∀ id, answer = some id ↔ id ∈ store.scan type.name declared.field value)) ∧
    ∃ keys : Finset IndexKey,
      (∀ key, key ∈ keys ↔ ∃ id, store.Holds id key) ∧ store.index.size = keys.card := by
  have coherent := (lawful.keeps member).coherent few
  refine ⟨coherent.indexed, store.index.inhabited, ?_, ?_⟩
  · intro type declared value found declares indexed
    have scanned : store.index.find ⟨type.name, declared.field, value⟩ = _ :=
      coherent.index_find_eq_scan found declares rfl indexed
    constructor
    · have registered := (coherent.schema.find?_eq_some_iff type.name type).mp found
      have known := (coherent.schema.attribute?_eq_some_iff registered.1 declared.field declared).mpr
        ⟨declares, rfl⟩
      rw [store.find_eq_ok_of_indexed value found known indexed, scanned]
    · intro unique
      have alike : ∀ first second, store.Holds first ⟨type.name, declared.field, value⟩ →
          store.Holds second ⟨type.name, declared.field, value⟩ → first = second :=
        fun _ _ => coherent.eq_of_holds found declares rfl unique
      rcases coherent.single_eq_ok found declares rfl indexed alike with ⟨answer, single, holds⟩
      refine ⟨answer, single, fun id => ?_⟩
      rw [holds, ← coherent.indexed, scanned]
  · exact ⟨store.heldKeys, store.mem_heldKeys_iff, coherent.index_size⟩

/-- The newest snapshot of the example holds three values that can be looked
up, though there has been a fourth. -/
theorem index_of_lawful_sample : ∃ store, Sample.restored.Lawful ∧
    store ∈ Sample.restored.stores ∧ (Sample.restored.issued store.allocator).length < UInt64.size ∧
    ∃ keys : Finset IndexKey,
      (∀ key, key ∈ keys ↔ ∃ id, store.Holds id key) ∧ keys.card = 3 := by
  rcases Sample.exists_newest with ⟨store, newest, -, size, issued⟩
  have member := List.mem_of_mem_head? newest
  have few : (Sample.restored.issued store.allocator).length < UInt64.size := by rw [issued]; decide
  rcases index_of_lawful Sample.lawful_restored member few with ⟨-, -, -, keys, held, counted⟩
  exact ⟨store, Sample.lawful_restored, member, few, keys, held, counted.symm.trans size⟩

end World

end EntityBase
