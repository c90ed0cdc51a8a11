import EntityBase.Proofs.Store.Creation
import EntityBase.Proofs.Store.Deletion

namespace EntityBase

/-!
# Snapshots within a list of identifiers

A snapshot lies within a list of identifiers if they include those of its
entities.  Every operation takes snapshots within the identifiers handed out to
others, once its own are among them.  An identifier that is not in the list is
then free in the snapshot, and this is how a new identifier is known to replace
nothing.
-/

namespace Store

variable {store next : Store} {allocator : Allocator} {issued more : List EntityId} {id : EntityId}

/-- A snapshot of an allocator whose entities have identifiers from a list. -/
structure Within (store : Store) (allocator : Allocator) (issued : List EntityId) : Prop where
  allocator : store.allocator = allocator
  live : ∀ (id : EntityId) (record : Record), store.get? id = some record → id ∈ issued

theorem Within.mono (within : store.Within allocator issued) (grows : issued ⊆ more) :
    store.Within allocator more :=
  ⟨within.allocator, fun id record live => grows (within.live id record live)⟩

theorem Within.get?_eq_none (within : store.Within allocator issued) (new : id ∉ issued) :
    store.get? id = none := by
  apply Option.eq_none_iff_forall_ne_some.mpr
  intro record live
  exact new (within.live id record live)

theorem Within.place (within : store.Within allocator issued) (draft : Draft)
    (member : id ∈ issued) : (store.place id draft).Within allocator issued := by
  refine ⟨within.allocator, fun other record live => ?_⟩
  rw [get?_place] at live
  split at live
  · rename_i same
    exact same ▸ member
  · exact within.live other record live

theorem Within.register (within : store.Within allocator issued) {type : EntityType}
    (done : store.register type = .ok next) : next.Within allocator issued := by
  rcases register_eq_ok done with ⟨schema, -, rfl⟩
  exact ⟨within.allocator, within.live⟩

theorem Within.insert (within : store.Within allocator issued) {entityType : String}
    {supplied : List (String × Value)} (member : id ∈ issued)
    (done : store.insert id entityType supplied = .ok next) : next.Within allocator issued := by
  rcases insert_eq_ok_iff.mp done with ⟨-, draft, -, rfl⟩
  exact within.place draft member

theorem Within.create (within : store.Within allocator issued) {allocators after : Allocators}
    {entityType : String} {supplied : List (String × Value)}
    (done : store.create allocators entityType supplied = .ok (id, next, after)) :
    next.Within allocator (issued ++ [id]) := by
  rcases create_eq_ok done with ⟨draft, -, -, rfl, -⟩
  exact (within.mono (List.subset_append_left _ _)).place draft (by simp)

theorem Within.deleteArranged (within : store.Within allocator issued) {arrangement : Arrangement}
    {removed : List EntityId} (done : store.deleteArranged arrangement id = .ok (next, removed)) :
    next.Within allocator issued := by
  refine ⟨(allocator_deleteArranged done).trans within.allocator, fun other record live => ?_⟩
  exact within.live other record ((get?_deleteArranged_iff done other record).mp live).1

theorem Within.delete (within : store.Within allocator issued) {removed : List EntityId}
    (done : store.delete id = .ok (next, removed)) : next.Within allocator issued :=
  within.deleteArranged done

end Store

end EntityBase
