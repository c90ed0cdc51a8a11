import EntityBase.Proofs.Identity.Records

namespace EntityBase

/-!
# Answers of the identity lookups

A lookup of an identity goes by a value and then reads the record that it has
found.  In an active transaction on a coherent store, neither step can fail
for want of anything in the store.  What remains is that more than one entity
might hold the value.  The schema excludes that for project identifiers, but
not for live objects; for those it is a hypothesis here.
-/

namespace Identity

variable {transaction : Transaction} {id : EntityId} {projectId : ProjectId} {record : Record}

/-! ## Reading -/

theorem single_eq (active : transaction.isActive = true) (entityType field : String)
    (value : Value) :
    transaction.single entityType field value = transaction.store.single entityType field value := by
  rw [Transaction.single, Transaction.current_eq_ok_iff.mpr ⟨active, rfl⟩]
  rfl

theorem find_eq (active : transaction.isActive = true) (entityType field : String) (value : Value) :
    transaction.find entityType field value = transaction.store.find entityType field value := by
  rw [Transaction.find, Transaction.current_eq_ok_iff.mpr ⟨active, rfl⟩]
  rfl

theorem record_eq_ok (active : transaction.isActive = true)
    (live : transaction.store.get? id = some record) :
    Identity.record transaction id = .ok record := by
  have got : transaction.get? id = .ok (some record) := by
    rw [Transaction.get?, Transaction.current_eq_ok_iff.mpr ⟨active, rfl⟩]
    exact congrArg Except.ok live
  rw [Identity.record, got]
  rfl

theorem SharedEntity.ofRecord_eq_ok (typed : record.entityType = sharedType)
    (held : record.attributes[projectIdField]? = some (projectKey projectId)) :
    SharedEntity.ofRecord record = .ok ⟨record.id, projectId⟩ := by
  unfold SharedEntity.ofRecord expectType expectValue
  rw [if_pos typed, held]
  rfl

theorem sharedAt_eq_ok (active : transaction.isActive = true)
    (coherent : transaction.store.Coherent) (isShared : IsShared transaction.store id projectId) :
    sharedAt transaction id = .ok ⟨id, projectId⟩ := by
  rcases isShared with ⟨record, live, typed, held⟩
  rw [sharedAt, record_eq_ok active live]
  change SharedEntity.ofRecord record = _
  rw [SharedEntity.ofRecord_eq_ok typed held, coherent.integrity.ownId id record live]

/-- A local entity is read for a user who holds its object. -/
theorem LocalEntity.ofRecord_eq_ok {host : Host} {className : String} {shared : EntityId} {object : LiveRef}
    (held : host.held[object]? = some className) (typed : record.entityType = localType)
    (refers : record.attributes[sharedField]? = some (.ref shared))
    (wraps : record.attributes[objectField]? = some (.live object)) :
    LocalEntity.ofRecord host className record = .ok ⟨record.id, shared, object⟩ := by
  have holds : host.holds object = true := by
    rw [Host.holds, Std.ExtTreeMap.contains_eq_isSome_getElem?, held]
    rfl
  have ofClass : host.holdsA className object = true := by
    rw [Host.holdsA, held]
    exact decide_eq_true rfl
  rw [LocalEntity.ofRecord, expectType, if_pos typed, expectValue, refers, expectValue, wraps]
  change (if ¬ host.holds object = true then _ else _) = _
  rw [if_neg (not_not.mpr holds), if_neg (not_not.mpr ofClass)]
  rfl

/-! ## Lookups -/

section Answers

variable (active : transaction.isActive = true) (coherent : transaction.store.Coherent)
  (installed : Installed transaction.store)
include active coherent installed

theorem sharedFor?_eq_ok (projectId : ProjectId) :
    ∃ answer, sharedFor? transaction projectId = .ok answer ∧
      ∀ shared, answer = some shared ↔
        shared.projectId = projectId ∧ IsShared transaction.store shared.id projectId := by
  have looked : ∃ answer,
      transaction.store.single sharedType projectIdField (projectKey projectId) = .ok answer ∧
        ∀ id, answer = some id ↔ _ :=
    coherent.single_eq_ok installed.shared List.mem_cons_self rfl rfl
      fun _ _ => coherent.eq_of_holds installed.shared List.mem_cons_self rfl rfl
  rcases looked with ⟨answer, single, holds⟩
  simp only [holds_project_iff installed] at holds
  rw [sharedFor?, single_eq active, single]
  cases answer with
  | none =>
      refine ⟨none, rfl, fun shared => ⟨fun impossible => ?_, fun meets => ?_⟩⟩
      · cases impossible
      · cases (holds shared.id).mpr meets.2
  | some id =>
      have isShared := (holds id).mp rfl
      refine ⟨some ⟨id, projectId⟩, ?_, fun shared => ⟨fun same => ?_, fun meets => ?_⟩⟩
      · change (do return some (← sharedAt transaction id)) = _
        rw [sharedAt_eq_ok active coherent isShared]
        rfl
      · cases same
        exact ⟨rfl, isShared⟩
      · cases (holds shared.id).mpr meets.2
        rw [← meets.1]

variable {host : Host} {project : Project}

/-- An object's local entity is found by the object, where objects are bound once. -/
theorem single_object_eq_ok {object : LiveRef}
    (once : ∀ first second left right, IsBound transaction.store first left object →
      IsBound transaction.store second right object → first = second) :
    ∃ answer, transaction.single localType objectField (.live object) = .ok answer ∧
      ∀ id, answer = some id ↔ ∃ shared, IsBound transaction.store id shared object := by
  rw [single_eq active]
  simp only [← holds_object_iff coherent installed]
  refine coherent.single_eq_ok installed.bound (List.mem_cons_of_mem _ List.mem_cons_self) rfl rfl
    fun first second left right => ?_
  rcases (holds_object_iff coherent installed first object).mp left with ⟨leftShared, isLeft⟩
  rcases (holds_object_iff coherent installed second object).mp right with ⟨rightShared, isRight⟩
  exact once first second leftShared rightShared isLeft isRight

/-- The local entity of an object, where objects are bound once. -/
theorem localOf?_eq_ok (held : host.held[project.object]? = some project.className)
    (once : ∀ first second left right, IsBound transaction.store first left project.object →
      IsBound transaction.store second right project.object → first = second) :
    ∃ answer, localOf? host transaction project = .ok answer ∧
      ∀ bound, answer = some bound ↔ bound.object = project.object ∧
        IsBound transaction.store bound.id bound.shared project.object := by
  rcases single_object_eq_ok active coherent installed once with ⟨answer, single, holds⟩
  rw [localOf?, single]
  cases answer with
  | none =>
      refine ⟨none, rfl, fun bound => ⟨fun impossible => ?_, fun meets => ?_⟩⟩
      · cases impossible
      · cases (holds bound.id).mpr ⟨bound.shared, meets.2⟩
  | some id =>
      rcases (holds id).mp rfl with ⟨shared, isBound⟩
      have ⟨record, live, typed, refers, wraps⟩ := isBound
      have read := LocalEntity.ofRecord_eq_ok held typed refers wraps
      rw [coherent.integrity.ownId id record live] at read
      refine ⟨some ⟨id, shared, project.object⟩, ?_, fun bound => ⟨fun same => ?_, fun meets => ?_⟩⟩
      · change (do return some (← LocalEntity.ofRecord host project.className
          (← Identity.record transaction id))) = _
        rw [record_eq_ok active live]
        change (do return some (← LocalEntity.ofRecord host project.className record)) = _
        rw [read]
        rfl
      · cases same
        exact ⟨rfl, isBound⟩
      · rcases bound with ⟨other, otherShared, object⟩
        cases (holds other).mpr ⟨otherShared, meets.2⟩
        rcases meets with ⟨rfl, otherBound⟩
        rw [(isBound.eq otherBound).1]

theorem sharedOf?_eq_ok (held : host.held[project.object]? = some project.className)
    (once : ∀ first second left right, IsBound transaction.store first left project.object →
      IsBound transaction.store second right project.object → first = second) :
    ∃ answer, sharedOf? host transaction project = .ok answer ∧
      ∀ shared, answer = some shared ↔ IsShared transaction.store shared.id shared.projectId ∧
        ∃ id, IsBound transaction.store id shared.id project.object := by
  rcases localOf?_eq_ok active coherent installed held once with ⟨answer, found, answers⟩
  rw [sharedOf?, found]
  cases answer with
  | none =>
      refine ⟨none, rfl, fun shared => ⟨fun impossible => ?_, fun ⟨_, id, isBound⟩ => ?_⟩⟩
      · cases impossible
      · cases (answers ⟨id, shared.id, project.object⟩).mpr ⟨rfl, isBound⟩
  | some bound =>
      have isBound := ((answers bound).mp rfl).2
      rcases isBound.exists_isShared coherent installed with ⟨projectId, isShared⟩
      refine ⟨some ⟨bound.shared, projectId⟩, ?_, fun shared => ⟨fun same => ?_, ?_⟩⟩
      · change (do return some (← sharedAt transaction bound.shared)) = _
        rw [sharedAt_eq_ok active coherent isShared]
        rfl
      · cases same
        exact ⟨isShared, bound.id, isBound⟩
      · rintro ⟨otherShared, id, otherBound⟩
        cases (answers ⟨id, shared.id, project.object⟩).mpr ⟨rfl, otherBound⟩
        rw [isShared.projectId_eq otherShared]

/-- Whether an object is bound, once or more often. -/
theorem isBound_eq_ok : ∃ answer, isBound transaction project = .ok answer ∧
    (answer = true ↔ ∃ id shared, IsBound transaction.store id shared project.object) := by
  have registered := ((coherent.schema.find?_eq_some_iff _ _).mp installed.bound).1
  have known := (coherent.schema.attribute?_eq_some_iff registered objectField _).mpr
    ⟨List.mem_cons_of_mem _ List.mem_cons_self, rfl⟩
  have found := transaction.store.find_eq_ok_of_indexed (.live project.object) installed.bound known
    rfl
  rw [isBound, find_eq active, found]
  refine ⟨_, rfl, ?_⟩
  have occupied := coherent.index_contains_iff ⟨localType, objectField, .live project.object⟩
  simp only [holds_object_iff coherent installed, Index.contains_eq_true_iff] at occupied
  rw [← occupied, Bool.not_eq_true', Bool.eq_false_iff, Ne, Std.ExtTreeSet.isEmpty_iff]

end Answers

end Identity

end EntityBase
