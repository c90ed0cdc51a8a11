import EntityBase.Proofs.Engine.Lineage
import EntityBase.Proofs.Identity.Process

namespace EntityBase

/-!
# Bindings in a lineage

A lineage is what carries a fact about one snapshot to another.  When a local
entity was created, its shared entity had the identifier of the object's
project.  The lineage remembers it, and it then holds in every snapshot that has
them both.
-/

namespace Identity

variable {lineage later : Lineage} {store next : Store} {identityOf : LiveRef → ProjectId}
  {allocator : Allocator}

/-- A coherent snapshot with the identity types whose records are in the
lineage. -/
structure Descends (lineage : Lineage) (store : Store) : Prop where
  coherent : store.Coherent
  installed : Installed store
  born : ∀ (id : EntityId) (record : Record), store.get? id = some record →
    lineage id = some record

theorem Descends.mono (descends : Descends lineage store) (extends_ : later.Extends lineage) :
    Descends later store :=
  ⟨descends.coherent, descends.installed, fun id record live =>
    extends_ id record (descends.born id record live)⟩

theorem Descends.register (descends : Descends lineage store) {type : EntityType}
    (done : store.register type = .ok next) : Descends lineage next := by
  refine ⟨descends.coherent.register done, descends.installed.register done, ?_⟩
  rcases Store.register_eq_ok done with ⟨schema, -, rfl⟩
  exact descends.born

theorem Descends.delete (descends : Descends lineage store) {id : EntityId}
    {removed : List EntityId} (done : store.delete id = .ok (next, removed)) :
    Descends lineage next where
  coherent := descends.coherent.delete done
  installed := descends.installed.of_schema_eq (Store.schema_deleteArranged done)
  born other record live :=
    descends.born other record ((Store.get?_deleteArranged_iff done other record).mp live).1

theorem Descends.insert (descends : Descends lineage store) {id : EntityId} {entityType : String}
    {supplied : List (String × Value)} (done : store.insert id entityType supplied = .ok next)
    (recorded : lineage id = some ⟨id, entityType, assemble supplied⟩) : Descends lineage next := by
  have records := Store.get?_of_insert done
  refine ⟨descends.coherent.insert done, ?_, fun other record live => ?_⟩
  · rcases Store.insert_eq_ok_iff.mp done with ⟨-, draft, -, rfl⟩
    exact descends.installed.of_schema_eq rfl
  · rw [records] at live
    split at live
    · rename_i same
      cases live
      exact same ▸ recorded
    · exact descends.born other record live

theorem Descends.create (descends : Descends lineage store) {allocators after : Allocators}
    {id : EntityId} {entityType : String} {supplied : List (String × Value)}
    (done : store.create allocators entityType supplied = .ok (id, next, after))
    (new : lineage id = none) : Descends (lineage.add ⟨id, entityType, assemble supplied⟩) next := by
  have free : store.get? id = none := by
    apply Option.eq_none_iff_forall_ne_some.mpr
    intro record live
    rw [descends.born id record live] at new
    cases new
  exact (descends.mono (Lineage.add_extends new)).insert (Store.insert_of_create done free)
    (Lineage.add_self _)

theorem Descends.apply (descends : Descends lineage store) {write : Write}
    (recorded : write.Recorded lineage) (done : write.apply store = .ok next) :
    Descends lineage next := by
  cases write with
  | create id entityType supplied => exact descends.insert done recorded
  | delete id =>
      rcases Outcome.map_eq_ok_iff.mp done with ⟨⟨_, removed⟩, deleted, rfl⟩
      exact descends.delete deleted

/-! ## Attested bindings -/

/-- Every local entity was created for an object and refers to a shared entity
of the object's project. -/
def Attested (identityOf : LiveRef → ProjectId) (lineage : Lineage) : Prop :=
  ∀ (id : EntityId) (record : Record), lineage id = some record → record.entityType = localType →
    ∃ shared object other, record.attributes[sharedField]? = some (.ref shared) ∧
      record.attributes[objectField]? = some (.live object) ∧ lineage shared = some other ∧
      other.attributes[projectIdField]? = some (projectKey (identityOf object))

theorem Attested.isShared (attested : Attested identityOf lineage)
    (descends : Descends lineage store) {id shared : EntityId} {object : LiveRef}
    (isBound : IsBound store id shared object) : IsShared store shared (identityOf object) := by
  rcases isBound.exists_isShared descends.coherent descends.installed with
    ⟨projectId, referenced, referencedLive, kind, -⟩
  rcases isBound with ⟨record, live, typed, refers, wraps⟩
  rcases attested id record (descends.born id record live) typed with
    ⟨_, _, ancestor, leads, holds, known, held⟩
  cases refers.symm.trans leads
  cases wraps.symm.trans holds
  cases (descends.born shared referenced referencedLive).symm.trans known
  exact ⟨referenced, referencedLive, kind, held⟩

theorem assemble_binding (shared : EntityId) (object : LiveRef) :
    (assemble [(sharedField, .ref shared), (objectField, .live object)])[sharedField]? =
        some (Value.ref shared) ∧
      (assemble [(sharedField, .ref shared), (objectField, .live object)])[objectField]? =
        some (Value.live object) := by
  have different : compare objectField sharedField ≠ .eq := by
    rw [Ne, Std.LawfulEqOrd.compare_eq_iff_eq]
    decide
  unfold assemble
  rw [List.foldl_cons, List.foldl_cons, List.foldl_nil]
  constructor
  · rw [Std.ExtTreeMap.getElem?_insert, if_neg different, Std.ExtTreeMap.getElem?_insert_self]
  · exact Std.ExtTreeMap.getElem?_insert_self

/-- A shared entity that is there after another kind of creation was there
before it. -/
theorem isShared_of_create {allocators after : Allocators}
    {id other : EntityId} {entityType : String} {supplied : List (String × Value)}
    {projectId : ProjectId}
    (done : store.create allocators entityType supplied = .ok (id, next, after))
    (different : entityType ≠ sharedType) (isShared : IsShared next other projectId) :
    IsShared store other projectId := by
  rcases isShared with ⟨record, live, typed, held⟩
  rw [Store.get?_of_create done] at live
  split at live
  · cases live
    exact absurd typed different
  · exact ⟨record, live, typed, held⟩

/-- A licensed creation keeps a lineage attested. -/
theorem Attested.create (attested : Attested identityOf lineage) (descends : Descends lineage store)
    {allocators after : Allocators} {id : EntityId} {entityType : String}
    {supplied : List (String × Value)}
    (licensed : Licensed identityOf store (.create entityType supplied))
    (done : store.create allocators entityType supplied = .ok (id, next, after))
    (new : lineage id = none) :
    Attested identityOf (lineage.add ⟨id, entityType, assemble supplied⟩) := by
  intro other record known typed
  unfold Lineage.add at known
  split at known
  · cases known
    rcases licensed typed with ⟨shared, object, rfl, projects⟩
    have descended := descends.create done new
    have live := (Store.get?_of_create done id).trans (if_pos rfl)
    have ⟨refers, wraps⟩ := assemble_binding shared object
    rcases exists_binding descended.coherent descended.installed live typed with
      ⟨target, -, projectId, same, -, isShared⟩
    cases refers.symm.trans same
    -- The shared entity is not the new entity, so the licence speaks of it.
    have before := isShared_of_create done
      (ne_of_eq_of_ne typed sharedType_ne_localType.symm) isShared
    rcases isShared with ⟨referenced, referencedLive, -, held⟩
    rw [projects projectId before] at held
    exact ⟨shared, object, referenced, refers, wraps, descended.born _ _ referencedLive, held⟩
  · rcases attested other record known typed with
      ⟨shared, object, referenced, refers, wraps, born, held⟩
    exact ⟨shared, object, referenced, refers, wraps, Lineage.add_extends new _ _ born, held⟩

end Identity

end EntityBase
