import EntityBase.Identity.Binding
import EntityBase.Proofs.Engine.Writes
import EntityBase.Proofs.Store.Lookup

namespace EntityBase

/-!
# Identity records

On a coherent store with both types installed, every record of the types has
its full shape: a shared entity has a project identifier, and a local entity
has a live object and a reference to a shared entity that is there.  Looking
an entity up by one of its values is then the same as naming it by its shape,
and reading its record succeeds.
-/

namespace Identity

variable {store next : Store} {id shared : EntityId} {projectId : ProjectId} {object : LiveRef}

structure Installed (store : Store) : Prop where
  shared : store.schema.find? sharedType = some sharedDeclaration
  bound : store.schema.find? localType = some localDeclaration

/-- An entity is a live shared entity of a project. -/
def IsShared (store : Store) (id : EntityId) (projectId : ProjectId) : Prop :=
  ∃ record, store.get? id = some record ∧ record.entityType = sharedType ∧
    record.attributes[projectIdField]? = some (projectKey projectId)

/-- An entity is a live local entity of an object, with a reference. -/
def IsBound (store : Store) (id shared : EntityId) (object : LiveRef) : Prop :=
  ∃ record, store.get? id = some record ∧ record.entityType = localType ∧
    record.attributes[sharedField]? = some (.ref shared) ∧
    record.attributes[objectField]? = some (.live object)

theorem Installed.register (installed : Installed store) {type : EntityType}
    (done : store.register type = .ok next) : Installed next := by
  rcases Store.register_eq_ok done with ⟨schema, registered, rfl⟩
  exact ⟨Schema.find?_register_of_some registered installed.shared,
    Schema.find?_register_of_some registered installed.bound⟩

theorem Installed.of_schema_eq (installed : Installed store) (same : next.schema = store.schema) :
    Installed next :=
  ⟨same ▸ installed.shared, same ▸ installed.bound⟩

theorem IsShared.projectId_eq {other : ProjectId} (first : IsShared store id projectId)
    (second : IsShared store id other) : projectId = other := by
  rcases first with ⟨record, live, -, held⟩
  rcases second with ⟨same, sameLive, -, sameHeld⟩
  cases live.symm.trans sameLive
  have values : projectKey projectId = projectKey other := Option.some.inj (held.symm.trans sameHeld)
  cases projectId
  cases other
  exact congrArg ProjectId.mk (Value.string.inj values)

theorem IsBound.eq {other : EntityId} {wrapped : LiveRef} (first : IsBound store id shared object)
    (second : IsBound store id other wrapped) : shared = other ∧ object = wrapped := by
  rcases first with ⟨record, live, -, refers, wraps⟩
  rcases second with ⟨same, sameLive, -, sameRefers, sameWraps⟩
  cases live.symm.trans sameLive
  cases refers.symm.trans sameRefers
  cases wraps.symm.trans sameWraps
  exact ⟨rfl, rfl⟩

/-! ## Shapes -/

/-- A shared entity is looked up by its project identifier. -/
theorem holds_project_iff (installed : Installed store) (id : EntityId) (projectId : ProjectId) :
    store.Holds id ⟨sharedType, projectIdField, projectKey projectId⟩ ↔
      IsShared store id projectId := by
  constructor
  · rintro ⟨record, -, -, live, typed, -, -, -, -, held⟩
    exact ⟨record, live, typed, held⟩
  · rintro ⟨record, live, typed, held⟩
    exact ⟨record, sharedDeclaration, _, live, typed, installed.shared, List.mem_cons_self, rfl,
      rfl, held⟩

section Shapes

variable (coherent : store.Coherent) (installed : Installed store)
include coherent installed

theorem exists_isShared {record : Record} (live : store.get? id = some record)
    (typed : record.entityType = sharedType) : ∃ projectId, IsShared store id projectId := by
  rcases coherent.integrity.conforms id record live with ⟨type, found, conforms⟩
  rw [typed, installed.shared] at found
  cases found
  rcases conforms.holds _ List.mem_cons_self with ⟨value, held, fits⟩
  have isText : ValueType.accepts .string value.type = true := fits
  cases value with
  | string text => exact ⟨⟨text⟩, record, live, typed, held⟩
  | _ => simp [ValueType.accepts, Value.type] at isText

/-- A local entity has both its attributes, and its shared entity is there. -/
theorem exists_binding {record : Record} (live : store.get? id = some record)
    (typed : record.entityType = localType) :
    ∃ shared object projectId, record.attributes[sharedField]? = some (.ref shared) ∧
      record.attributes[objectField]? = some (.live object) ∧ IsShared store shared projectId := by
  rcases coherent.integrity.conforms id record live with ⟨type, found, conforms⟩
  rw [typed, installed.bound] at found
  cases found
  have members := List.forall_mem_cons.mp conforms.holds
  rcases members.1 with ⟨_, refers, shared, referenced, rfl, sharedLive, sharedTyped⟩
  rcases members.2 _ List.mem_cons_self with ⟨_, wraps, object, rfl⟩
  rcases exists_isShared coherent installed sharedLive sharedTyped with ⟨projectId, isShared⟩
  exact ⟨shared, object, projectId, refers, wraps, isShared⟩

theorem IsBound.exists_isShared (isBound : IsBound store id shared object) :
    ∃ projectId, IsShared store shared projectId := by
  rcases isBound with ⟨record, live, typed, refers, -⟩
  rcases exists_binding coherent installed live typed with ⟨other, -, projectId, same, -, isShared⟩
  cases refers.symm.trans same
  exact ⟨projectId, isShared⟩

/-- A local entity is looked up by its object. -/
theorem holds_object_iff (id : EntityId) (object : LiveRef) :
    store.Holds id ⟨localType, objectField, .live object⟩ ↔ ∃ shared, IsBound store id shared object := by
  constructor
  · rintro ⟨record, -, -, live, typed, -, -, -, -, held⟩
    rcases exists_binding coherent installed live typed with ⟨shared, -, -, refers, -, -⟩
    exact ⟨shared, record, live, typed, refers, held⟩
  · rintro ⟨shared, record, live, typed, -, held⟩
    exact ⟨record, localDeclaration, _, live, typed, installed.bound,
      List.mem_cons_of_mem _ List.mem_cons_self, rfl, rfl, held⟩

/-- A local entity is looked up by its shared entity. -/
theorem holds_reference_iff (id shared : EntityId) :
    store.Holds id ⟨localType, sharedField, .ref shared⟩ ↔ ∃ object, IsBound store id shared object := by
  constructor
  · rintro ⟨record, -, -, live, typed, -, -, -, -, held⟩
    rcases exists_binding coherent installed live typed with ⟨-, object, -, -, wraps, -⟩
    exact ⟨object, record, live, typed, held, wraps⟩
  · rintro ⟨object, record, live, typed, held, -⟩
    exact ⟨record, localDeclaration, _, live, typed, installed.bound, List.mem_cons_self, rfl, rfl,
      held⟩

/-- A project identifier has one shared entity at most. -/
theorem IsShared.id_eq {other : EntityId} (first : IsShared store id projectId)
    (second : IsShared store other projectId) : id = other :=
  coherent.eq_of_holds installed.shared List.mem_cons_self rfl rfl
    ((holds_project_iff installed id projectId).mpr first)
    ((holds_project_iff installed other projectId).mpr second)

/-- A shared entity has one local entity at most. -/
theorem IsBound.id_eq {other : EntityId} {wrapped : LiveRef} (first : IsBound store id shared object)
    (second : IsBound store other shared wrapped) : id = other :=
  coherent.eq_of_holds installed.bound List.mem_cons_self rfl rfl
    ((holds_reference_iff coherent installed id shared).mpr ⟨object, first⟩)
    ((holds_reference_iff coherent installed other shared).mpr ⟨wrapped, second⟩)

end Shapes

end Identity

end EntityBase
