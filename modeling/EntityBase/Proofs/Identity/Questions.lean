import EntityBase.Proofs.Identity.Resolution

namespace EntityBase

/-!
# Questions about one project

The lookups of identities are questions to a transaction, by a project identifier,
by an object or by a shared entity.  Each concerns one project.  It reads the
shared entity of that project and the local entity under it, and no others.

So a change to a snapshot that keeps these two records is not seen by the
question, whatever else the change does, and the answer is the same to the word.
This includes the errors, which are about the object found and not about what
else there is.
-/

namespace Identity

/-- A lookup with its arguments. -/
inductive Question where
  | sharedFor? (projectId : ProjectId)
  | localOf? (project : Project)
  | sharedOf? (project : Project)
  | sharedOf (project : Project)
  | isBound (project : Project)
  | projectOf? (className : String) (received : SharedEntity)
  | projectOf (className : String) (received : SharedEntity)
  | toShared (project : Project)
  | toLocal (project : Project)
  | toLive? (className : String) (received : SharedEntity)
  | toLive (className : String) (received : SharedEntity)

inductive Reply where
  | shared (found : Option SharedEntity)
  | bound (found : Option LocalEntity)
  | object (found : Option LiveRef)
  | whether (answer : Bool)

namespace Question

def ask (host : Host) (transaction : Transaction) : (question : Question) → Except Error Reply
  | .sharedFor? projectId => (Identity.sharedFor? transaction projectId).map .shared
  | .localOf? project => (Identity.localOf? host transaction project).map .bound
  | .sharedOf? project => (Identity.sharedOf? host transaction project).map .shared
  | .sharedOf project => (Identity.sharedOf host transaction project).map (.shared ∘ some)
  | .isBound project => (Identity.isBound transaction project).map .whether
  | .projectOf? className received =>
      (Identity.projectOf? host transaction className received).map .object
  | .projectOf className received =>
      (Identity.projectOf host transaction className received).map (.object ∘ some)
  | .toShared project => (Identity.toShared host transaction project).map (.shared ∘ some)
  | .toLocal project => (Identity.toLocal host transaction project).map (.bound ∘ some)
  | .toLive? className received =>
      (Identity.toLive? host transaction className received).map .object
  | .toLive className received =>
      (Identity.toLive host transaction className received).map (.object ∘ some)

/-- The project that a question is about.  An object stands for the project it
belongs to, whatever its user claims. -/
def concerns (identityOf : LiveRef → ProjectId) : Question → ProjectId
  | .sharedFor? projectId => projectId
  | .localOf? project | .sharedOf? project | .sharedOf project | .isBound project
  | .toShared project | .toLocal project => identityOf project.object
  | .projectOf? _ received | .projectOf _ received | .toLive? _ received | .toLive _ received =>
      received.projectId

end Question

variable {identityOf : LiveRef → ProjectId} {projectId other : ProjectId} {before after : Transaction}
  {id : EntityId} {host : Host} {project : Project} {className : String} {received : SharedEntity}

/-! ## Snapshots that spare the other projects -/

/-- A snapshot has lost some records of another, and none of a shared or a local
entity of other projects than one. -/
structure Spares (identityOf : LiveRef → ProjectId) (projectId : ProjectId) (before after : Store) :
    Prop where
  only : ∀ (id : EntityId) (record : Record), after.get? id = some record →
    before.get? id = some record
  shared : ∀ (id : EntityId) (other : ProjectId), IsShared before id other → other ≠ projectId →
    after.get? id = before.get? id
  bound : ∀ (id shared : EntityId) (object : LiveRef), IsBound before id shared object →
    identityOf object ≠ projectId → after.get? id = before.get? id

theorem IsShared.of_get?_eq {before after : Store} (same : after.get? id = before.get? id) :
    IsShared after id projectId ↔ IsShared before id projectId := by
  rw [IsShared, IsShared, same]

theorem IsBound.of_get?_eq {before after : Store} {shared : EntityId} {object : LiveRef}
    (same : after.get? id = before.get? id) :
    IsBound after id shared object ↔ IsBound before id shared object := by
  rw [IsBound, IsBound, same]

namespace Spares

variable {before after : Store} (spares : Spares identityOf projectId before after)
include spares

theorem isShared_iff (elsewhere : other ≠ projectId) :
    IsShared after id other ↔ IsShared before id other := by
  constructor
  · rintro ⟨record, live, shape⟩
    exact ⟨record, spares.only id record live, shape⟩
  · intro isShared
    exact (IsShared.of_get?_eq (spares.shared id other isShared elsewhere)).mpr isShared

theorem isBound_iff {shared : EntityId} {object : LiveRef}
    (elsewhere : identityOf object ≠ projectId) :
    IsBound after id shared object ↔ IsBound before id shared object := by
  constructor
  · rintro ⟨record, live, shape⟩
    exact ⟨record, spares.only id record live, shape⟩
  · intro isBound
    exact (IsBound.of_get?_eq (spares.bound id shared object isBound elsewhere)).mpr isBound

end Spares

/-! ## Reading -/

theorem record_congr (wasActive : before.isActive = true) (isActive : after.isActive = true)
    (same : after.store.get? id = before.store.get? id) : record after id = record before id := by
  have got : after.get? id = before.get? id := by
    simp only [Transaction.get?, Transaction.current_eq, wasActive, isActive, if_true]
    exact congrArg Except.ok same
  rw [record, record, got]

theorem sharedAt_congr (wasActive : before.isActive = true) (isActive : after.isActive = true)
    (same : after.store.get? id = before.store.get? id) : sharedAt after id = sharedAt before id := by
  rw [sharedAt, sharedAt, record_congr wasActive isActive same]

/-- A local entity that is read is the one that stands there. -/
theorem LocalEntity.eq_of_ofRecord {record : Record} {entity : LocalEntity} {shared : EntityId}
    {object : LiveRef}
    (refers : record.attributes[sharedField]? = some (.ref shared))
    (wraps : record.attributes[objectField]? = some (.live object))
    (read : LocalEntity.ofRecord host className record = .ok entity) :
    entity = ⟨record.id, shared, object⟩ := by
  unfold LocalEntity.ofRecord expectType expectValue at read
  rw [refers, wraps] at read
  split at read
  · change (if ¬ host.holds object = true then _ else _) = _ at read
    split at read
    · cases read
    · split at read <;> cases read
      rfl
  · cases read

/-! ## Lookups -/

/-- Two transactions at work, the second on a snapshot that has lost records of
one project. -/
structure Alike (identityOf : LiveRef → ProjectId) (projectId : ProjectId)
    (before after : Transaction) : Prop where
  wasActive : before.isActive = true
  isActive : after.isActive = true
  wasCoherent : before.store.Coherent
  isCoherent : after.store.Coherent
  wasInstalled : Installed before.store
  isInstalled : Installed after.store
  one : OneBinding identityOf before.store
  spares : Spares identityOf projectId before.store after.store

namespace Alike

variable (alike : Alike identityOf projectId before after)
include alike

theorem sharedFor?_eq_of_iff
    (kept : ∀ id, IsShared after.store id other ↔ IsShared before.store id other) :
    sharedFor? after other = sharedFor? before other := by
  rcases sharedFor?_eq_ok alike.wasActive alike.wasCoherent alike.wasInstalled other with
    ⟨was, looked, wasAnswer⟩
  rcases sharedFor?_eq_ok alike.isActive alike.isCoherent alike.isInstalled other with
    ⟨answer, looksNow, isAnswer⟩
  have same : answer = was := Option.ext fun shared => by
    rw [isAnswer, wasAnswer, kept]
  rw [looksNow, looked, same]

theorem sharedFor?_eq (elsewhere : other ≠ projectId) :
    sharedFor? after other = sharedFor? before other :=
  alike.sharedFor?_eq_of_iff fun _ => alike.spares.isShared_iff elsewhere

/-- The local entity of an object of another project is found as before, and
stands as before. -/
theorem single_object_eq {object : LiveRef} (elsewhere : identityOf object ≠ projectId) :
    ∃ answer, before.single localType objectField (.live object) = .ok answer ∧
      after.single localType objectField (.live object) = .ok answer ∧
      ∀ id, answer = some id → after.store.get? id = before.store.get? id ∧
        ∃ shared, IsBound before.store id shared object := by
  have bound : ∀ id shared, IsBound after.store id shared object ↔
      IsBound before.store id shared object := fun _ _ => alike.spares.isBound_iff elsewhere
  have once := fun first second left right => alike.one.oneForObject first second left right object
  rcases single_object_eq_ok alike.wasActive alike.wasCoherent alike.wasInstalled once with
    ⟨was, looked, wasAnswer⟩
  rcases single_object_eq_ok alike.isActive alike.isCoherent alike.isInstalled
    (fun first second left right isFirst isSecond =>
      once first second left right ((bound _ _).mp isFirst) ((bound _ _).mp isSecond)) with
    ⟨answer, looksNow, isAnswer⟩
  have same : answer = was := Option.ext fun id => by
    simp only [isAnswer, wasAnswer, bound]
  refine ⟨was, looked, same ▸ looksNow, fun id found => ?_⟩
  rcases (wasAnswer id).mp found with ⟨shared, isBound⟩
  exact ⟨alike.spares.bound id shared object isBound elsewhere, shared, isBound⟩

theorem localOf?_eq (elsewhere : identityOf project.object ≠ projectId) :
    localOf? host after project = localOf? host before project := by
  rcases alike.single_object_eq elsewhere with ⟨answer, looked, looksNow, found⟩
  rw [localOf?, localOf?, looked, looksNow]
  cases answer with
  | none => rfl
  | some id =>
      change (do return some (← LocalEntity.ofRecord host project.className (← record after id))) =
        (do return some (← LocalEntity.ofRecord host project.className (← record before id)))
      rw [record_congr alike.wasActive alike.isActive (found id rfl).1]

/-- What the local entity of an object refers to. -/
theorem isBound_of_localOf? {bound : LocalEntity} (elsewhere : identityOf project.object ≠ projectId)
    (looked : localOf? host before project = .ok (some bound)) :
    IsBound before.store bound.id bound.shared project.object := by
  rcases alike.single_object_eq elsewhere with ⟨answer, single, -, found⟩
  rcases Outcome.bind_eq_ok_iff.mp looked with ⟨same, alsoSingle, looked⟩
  cases single.symm.trans alsoSingle
  cases answer with
  | none => cases looked
  | some id =>
      rcases (found id rfl).2 with ⟨shared, isBound⟩
      have ⟨there, live, typed, refers, wraps⟩ := isBound
      rcases Outcome.bind_eq_ok_iff.mp looked with ⟨same, alsoLive, looked⟩
      cases (record_eq_ok alike.wasActive live).symm.trans alsoLive
      rcases Outcome.bind_eq_ok_iff.mp looked with ⟨entity, read, same⟩
      cases same
      rw [LocalEntity.eq_of_ofRecord refers wraps read, alike.wasCoherent.integrity.ownId id there live]
      exact isBound

theorem sharedOf?_eq (elsewhere : identityOf project.object ≠ projectId) :
    sharedOf? host after project = sharedOf? host before project := by
  rw [sharedOf?, sharedOf?, alike.localOf?_eq elsewhere]
  cases looked : localOf? host before project with
  | error error => rfl
  | ok answer =>
      cases answer with
      | none => rfl
      | some bound =>
          have isShared := alike.one.isShared (alike.isBound_of_localOf? elsewhere looked)
          change (do return some (← sharedAt after bound.shared)) =
            (do return some (← sharedAt before bound.shared))
          rw [sharedAt_congr alike.wasActive alike.isActive
            (alike.spares.shared _ _ isShared elsewhere)]

theorem isBound_eq (elsewhere : identityOf project.object ≠ projectId) :
    Identity.isBound after project = Identity.isBound before project := by
  have looked : ∃ was, Identity.isBound before project = .ok was ∧ (was = true ↔ _) :=
    isBound_eq_ok alike.wasActive alike.wasCoherent alike.wasInstalled
  have looksNow : ∃ answer, Identity.isBound after project = .ok answer ∧ (answer = true ↔ _) :=
    isBound_eq_ok alike.isActive alike.isCoherent alike.isInstalled
  rcases looked with ⟨was, looked, wasAnswer⟩
  rcases looksNow with ⟨answer, looksNow, isAnswer⟩
  have same : answer = was := by
    rw [Bool.eq_iff_iff, isAnswer, wasAnswer]
    simp only [alike.spares.isBound_iff elsewhere]
  rw [looksNow, looked, same]

theorem resolve?_eq (elsewhere : received.projectId ≠ projectId) :
    resolve? after received = resolve? before received := by
  rcases resolve?_eq_ok alike.wasActive alike.wasCoherent alike.wasInstalled received with
    ⟨was, looked, wasAnswer⟩
  rcases resolve?_eq_ok alike.isActive alike.isCoherent alike.isInstalled received with
    ⟨answer, looksNow, isAnswer⟩
  have same : answer = was := Option.ext fun own => by
    rw [isAnswer, wasAnswer, alike.spares.isShared_iff elsewhere]
  rw [looksNow, looked, same]

/-- The local entity under the shared entity of another project is found as
before, and stands as before. -/
theorem single_reference_eq {shared : EntityId} (isShared : IsShared before.store shared other)
    (elsewhere : other ≠ projectId) :
    ∃ answer, before.single localType sharedField (.ref shared) = .ok answer ∧
      after.single localType sharedField (.ref shared) = .ok answer ∧
      ∀ id, answer = some id → after.store.get? id = before.store.get? id := by
  have ofOther : ∀ {id : EntityId} {object : LiveRef}, IsBound before.store id shared object →
      identityOf object ≠ projectId := by
    intro id object isBound
    rw [(alike.one.isShared isBound).projectId_eq isShared]
    exact elsewhere
  rcases single_reference_eq_ok alike.wasActive alike.wasCoherent alike.wasInstalled shared with
    ⟨was, looked, wasAnswer⟩
  rcases single_reference_eq_ok alike.isActive alike.isCoherent alike.isInstalled shared with
    ⟨answer, looksNow, isAnswer⟩
  have bound : ∀ id object, IsBound after.store id shared object ↔
      IsBound before.store id shared object := by
    intro id object
    constructor
    · rintro ⟨record, live, shape⟩
      exact ⟨record, alike.spares.only id record live, shape⟩
    · exact fun isBound => (alike.spares.isBound_iff (ofOther isBound)).mpr isBound
  have same : answer = was := Option.ext fun id => by
    simp only [isAnswer, wasAnswer, bound]
  refine ⟨was, looked, same ▸ looksNow, fun id found => ?_⟩
  rcases (wasAnswer id).mp found with ⟨object, isBound⟩
  exact alike.spares.bound id shared object isBound (ofOther isBound)

theorem projectOf?_eq (elsewhere : received.projectId ≠ projectId) :
    projectOf? host after className received = projectOf? host before className received := by
  rcases resolve?_eq_ok alike.wasActive alike.wasCoherent alike.wasInstalled received with
    ⟨resolved, resolves, owns⟩
  rw [projectOf?, projectOf?, alike.resolve?_eq elsewhere, resolves]
  cases resolved with
  | none => rfl
  | some own =>
      rcases alike.single_reference_eq ((owns own).mp rfl).2 elsewhere with
        ⟨answer, looked, looksNow, found⟩
      change (after.single localType sharedField (.ref own.id) >>= _) =
        (before.single localType sharedField (.ref own.id) >>= _)
      rw [looked, looksNow]
      cases answer with
      | none => rfl
      | some id =>
          change (record after id >>= _) = (record before id >>= _)
          rw [record_congr alike.wasActive alike.isActive (found id rfl)]

/-- A question about another project is answered as before, whoever is held by
the host and whatever class is asked for. -/
theorem ask_eq {question : Question} (elsewhere : question.concerns identityOf ≠ projectId)
    (host : Host) : question.ask host after = question.ask host before := by
  cases question with
  | sharedFor? other => exact congrArg (Except.map _) (alike.sharedFor?_eq elsewhere)
  | localOf? project => exact congrArg (Except.map _) (alike.localOf?_eq elsewhere)
  | sharedOf? project => exact congrArg (Except.map _) (alike.sharedOf?_eq elsewhere)
  | isBound project => exact congrArg (Except.map _) (alike.isBound_eq elsewhere)
  | projectOf? className received => exact congrArg (Except.map _) (alike.projectOf?_eq elsewhere)
  | toLive? className received => exact congrArg (Except.map _) (alike.projectOf?_eq elsewhere)
  | sharedOf project =>
      simp only [Question.ask, Identity.sharedOf, alike.sharedOf?_eq elsewhere]
  | projectOf className received =>
      simp only [Question.ask, Identity.projectOf, alike.projectOf?_eq elsewhere]
  | toShared project =>
      simp only [Question.ask, Identity.toShared, alike.sharedOf?_eq elsewhere]
  | toLocal project =>
      simp only [Question.ask, Identity.toLocal, alike.localOf?_eq elsewhere]
  | toLive className received =>
      simp only [Question.ask, Identity.toLive, alike.projectOf?_eq elsewhere]

end Alike

end Identity

end EntityBase
