import EntityBase.Proofs.Identity.Effect
import EntityBase.Proofs.Identity.Questions
import EntityBase.Proofs.Identity.Teardown

namespace EntityBase

/-!
# Operations on one project leave the others alone

A teardown and an unbinding are each one delete, and a delete cascades through
whatever types a host has declared.  Such types may tie several projects together,
and an entity that refers to two of them goes with the first that is torn down.
It does not take the second along.  What depends on something is what refers to
it, and the identity entities refer to nothing but a local entity to its shared
one.  A cascade can therefore leave a project through user entities but never
enter one.
-/

namespace Identity

variable {identityOf : LiveRef → ProjectId} {projectId other : ProjectId} {store : Store}
  {id root shared : EntityId} {object : LiveRef} {issued removed : List EntityId}
  {start now : Workspace} {host : Host} {project : Project}

/-! ## What identity entities depend on -/

/-- A local entity depends on its shared entity and on nothing else. -/
theorem IsBound.eq_of_depends (isBound : IsBound store id shared object) (coherent : store.Coherent)
    (installed : Installed store) (depends : store.Depends id root) : id = root ∨ shared = root := by
  rcases Relation.ReflTransGen.cases_head depends with same | ⟨target, refers, rest⟩
  · exact .inl same
  · rcases isBound.exists_isShared coherent installed with ⟨projectId, isShared⟩
    rcases isBound with ⟨record, live, typed, leads, -⟩
    rcases refers with ⟨same, type, declared, sameLive, found, member, -, cascades, held⟩
    cases live.symm.trans sameLive
    cases (typed ▸ found).symm.trans installed.bound
    rcases List.mem_pair.mp member with rfl | rfl
    · cases leads.symm.trans held
      exact .inr (isShared.eq_of_depends installed rest)
    · cases cascades

theorem IsBound.depends (isBound : IsBound store id shared object) (installed : Installed store) :
    store.Depends id shared := by
  rcases isBound with ⟨record, live, typed, refers, -⟩
  exact .single ⟨record, localDeclaration, _, live, typed ▸ installed.bound, List.mem_cons_self, rfl,
    rfl, refers⟩

/-! ## One delete -/

/-- A delete has been written.  Its target and all that depends on it are gone,
and nothing else has changed. -/
structure Removed (start : Workspace) (root : EntityId) (removed : List EntityId) (now : Workspace) :
    Prop where
  written : now = { start with transaction := { start.transaction with
    store := now.transaction.store
    log := start.transaction.log ++ [.delete root] } }
  deletes : start.transaction.store.delete root = .ok (now.transaction.store, removed)
  without : start.transaction.store.Without {other | start.transaction.store.Depends other root}
    now.transaction.store removed

/-- A delete is refused for a plain reference into what it would remove, or else
carried out. -/
structure DeleteEffect (start : Workspace) (root : EntityId) (outcome : Except Error (List EntityId))
    (now : Workspace) : Prop where
  guarded : start.transaction.store.Protected {other | start.transaction.store.Depends other root} →
    ∃ owner victim field, ¬ start.transaction.store.Depends owner root ∧
      start.transaction.store.Depends victim root ∧
      start.transaction.store.Refers false owner victim ∧
      outcome = .error (ErrorKind.constraintViolation (.stillReferenced victim owner field)) ∧
      now = start
  free : ¬ start.transaction.store.Protected {other | start.transaction.store.Depends other root} →
    ∃ removed, outcome = .ok removed ∧ Removed start root removed now

theorem deleteEffect_of_ready {outcome : Except Error (List EntityId)} (ready : Ready issued start)
    (live : start.transaction.store.contains root = true)
    (done : Work.after (Work.delete root) start = (outcome, now)) :
    DeleteEffect start root outcome now := by
  rw [Work.after_delete] at done
  constructor
  · intro outside
    rcases ready.coherent.deleteArranged_of_outside .ascending live outside with
      ⟨owner, victim, field, stays, goes, refers, refused⟩
    rw [Transaction.delete_of_refused ready.active refused] at done
    cases done
    exact ⟨owner, victim, field, stays, goes, refers, rfl, rfl⟩
  · intro free
    rcases ready.coherent.exists_deleteArranged_of_free .ascending live free with
      ⟨store, removed, removes⟩
    rw [Transaction.delete_of_removes ready.active removes] at done
    cases done
    exact ⟨removed, rfl, rfl, removes, ready.coherent.without_deleteArranged removes⟩

theorem DeleteEffect.eq_of_error {outcome : Except Error (List EntityId)} {error : Error}
    (effect : DeleteEffect start root outcome now) (failed : outcome = .error error) : now = start := by
  by_cases outside : start.transaction.store.Protected
    {other | start.transaction.store.Depends other root}
  · rcases effect.guarded outside with ⟨-, -, -, -, -, -, -, same⟩
    exact same
  · rcases effect.free outside with ⟨removed, done, -⟩
    cases failed.symm.trans done

theorem DeleteEffect.removed_of_ok {outcome : Except Error (List EntityId)}
    (effect : DeleteEffect start root outcome now) (done : outcome = .ok removed) :
    Removed start root removed now := by
  by_cases outside : start.transaction.store.Protected
    {other | start.transaction.store.Depends other root}
  · rcases effect.guarded outside with ⟨owner, victim, field, -, -, -, failed, -⟩
    cases failed.symm.trans done
  · rcases effect.free outside with ⟨others, same, removes⟩
    cases done.symm.trans same
    exact removes

namespace Removed

variable (removes : Removed start root removed now)
include removes

theorem root_mem : root ∈ removed :=
  (removes.without.names root).mpr .refl

theorem get?_of_stays (stays : ¬ start.transaction.store.Depends id root) :
    now.transaction.store.get? id = start.transaction.store.get? id :=
  Option.ext fun record => (removes.without.records id record).trans (and_iff_left stays)

theorem get?_of_get? {record : Record} (live : now.transaction.store.get? id = some record) :
    start.transaction.store.get? id = some record :=
  ((removes.without.records id record).mp live).1

theorem isActive : now.transaction.isActive = start.transaction.isActive := by
  rw [removes.written]
  rfl

theorem isShared_of_isShared (isShared : IsShared now.transaction.store id projectId) :
    IsShared start.transaction.store id projectId := by
  rcases isShared with ⟨record, live, shape⟩
  exact ⟨record, removes.get?_of_get? live, shape⟩

theorem isBound_of_isBound (isBound : IsBound now.transaction.store id shared object) :
    IsBound start.transaction.store id shared object := by
  rcases isBound with ⟨record, live, shape⟩
  exact ⟨record, removes.get?_of_get? live, shape⟩

theorem not_live {record : Record} : now.transaction.store.get? root ≠ some record :=
  fun live => ((removes.without.records root record).mp live).2 .refl

/-- The transaction is still at work, and questions about other projects do not
notice. -/
theorem alike (ready : Ready issued start) (one : OneBinding identityOf start.transaction.store)
    (spares : Spares identityOf projectId start.transaction.store now.transaction.store) :
    Alike identityOf projectId start.transaction now.transaction where
  wasActive := ready.active
  isActive := removes.isActive.trans ready.active
  wasCoherent := ready.coherent
  isCoherent := ready.coherent.delete removes.deletes
  wasInstalled := ready.installed
  isInstalled := ready.installed.of_schema_eq removes.without.schema
  one := one
  spares := spares

end Removed

/-! ## Teardowns -/

/-- What the removal of a project's shared entity takes, besides entities of other
types that depend on it, and what it leaves. -/
structure TornDown (identityOf : LiveRef → ProjectId) (projectId : ProjectId) (start : Workspace)
    (shared : EntityId) (removed : List EntityId) (now : Workspace) : Prop
    extends Removed start shared removed now where
  root : shared ∈ removed
  bound : ∀ id object, IsBound start.transaction.store id shared object → id ∈ removed
  onlyShared : ∀ id ∈ removed, ∀ other, IsShared start.transaction.store id other → id = shared
  onlyBound : ∀ id ∈ removed, ∀ other object, IsBound start.transaction.store id other object →
    other = shared
  unknown : sharedFor? now.transaction projectId = .ok none
  elsewhere : ∀ (host : Host) (question : Question), question.concerns identityOf ≠ projectId →
    question.ask host now.transaction = question.ask host start.transaction

/-- What a teardown does to a workspace. -/
structure TeardownEffect (identityOf : LiveRef → ProjectId) (projectId : ProjectId)
    (start : Workspace) (outcome : Except Error (List EntityId)) (now : Workspace) : Prop where
  /-- Nothing is returned exactly if nothing carries the identifier. -/
  nothing : outcome = .ok [] ↔ ∀ shared, ¬ IsShared start.transaction.store shared projectId
  unwritten : outcome = .ok [] → now = start
  deletes : ∀ shared, IsShared start.transaction.store shared projectId →
    DeleteEffect start shared outcome now
  removes : ∀ shared removed, IsShared start.transaction.store shared projectId →
    outcome = .ok removed → TornDown identityOf projectId start shared removed now
  fails : ∀ error, outcome = .error error → now = start

/-- What depends on a shared entity spares the other projects. -/
theorem Removed.spares_of_isShared (removes : Removed start shared removed now)
    (ready : Ready issued start) (one : OneBinding identityOf start.transaction.store)
    (isShared : IsShared start.transaction.store shared projectId) :
    Spares identityOf projectId start.transaction.store now.transaction.store where
  only _ _ := removes.get?_of_get?
  shared id other isOther elsewhere := by
    refine removes.get?_of_stays fun depends => elsewhere ?_
    cases isOther.eq_of_depends ready.installed depends
    exact isOther.projectId_eq isShared
  bound id other object isBound elsewhere := by
    refine removes.get?_of_stays fun depends => ?_
    rcases isBound.eq_of_depends ready.coherent ready.installed depends with same | same
    · exact isShared.ne_of_isBound isBound same
    · exact elsewhere ((one.isShared (same ▸ isBound)).projectId_eq isShared)

theorem Removed.tornDown (removes : Removed start shared removed now) (ready : Ready issued start)
    (one : OneBinding identityOf start.transaction.store)
    (isShared : IsShared start.transaction.store shared projectId) :
    TornDown identityOf projectId start shared removed now := by
  have ⟨_, coherent, installed, _, _⟩ := ready
  have alike := removes.alike ready one (removes.spares_of_isShared ready one isShared)
  refine ⟨removes, removes.root_mem, ?_, ?_, ?_, ?_, fun host question elsewhere =>
    alike.ask_eq elsewhere host⟩
  · intro id object isBound
    exact (removes.without.names id).mpr (isBound.depends installed)
  · intro id member other isOther
    exact isOther.eq_of_depends installed ((removes.without.names id).mp member)
  · intro id member other object isBound
    exact (isBound.eq_of_depends coherent installed ((removes.without.names id).mp member)).resolve_left
      (isShared.ne_of_isBound isBound)
  · rcases sharedFor?_eq_ok alike.isActive alike.isCoherent alike.isInstalled projectId with
      ⟨answer, looked, answers⟩
    cases answer with
    | none => exact looked
    | some found =>
        have ⟨record, live, shape⟩ := ((answers found).mp rfl).2
        have same := (removes.isShared_of_isShared ⟨record, live, shape⟩).id_eq coherent installed isShared
        exact absurd (same ▸ live) removes.not_live

theorem contains_of_isShared (isShared : IsShared store id projectId) : store.contains id = true := by
  rcases isShared with ⟨record, live, -⟩
  exact (Store.contains_eq_true_iff store id).mpr ⟨record, live⟩

theorem contains_of_isBound (isBound : IsBound store id shared object) : store.contains id = true := by
  rcases isBound with ⟨record, live, -⟩
  exact (Store.contains_eq_true_iff store id).mpr ⟨record, live⟩

section Teardown

variable {outcome : Except Error (List EntityId)} (ready : Ready issued start)
  (done : Work.after (teardown projectId) start = (outcome, now))
include ready done

theorem teardown_of_unknown
    (unknown : ∀ shared, ¬ IsShared start.transaction.store shared projectId) :
    outcome = .ok [] ∧ now = start := by
  rcases sharedFor?_eq_ok ready.active ready.coherent ready.installed projectId with
    ⟨answer, looked, answers⟩
  cases answer with
  | some found => exact absurd ((answers found).mp rfl).2 (unknown found.id)
  | none =>
      rw [teardown, Work.after_bind, Work.after_look, looked] at done
      cases done
      exact ⟨rfl, rfl⟩

theorem teardown_of_isShared (isShared : IsShared start.transaction.store shared projectId) :
    DeleteEffect start shared outcome now := by
  rcases sharedFor?_eq_ok ready.active ready.coherent ready.installed projectId with
    ⟨answer, looked, answers⟩
  cases (answers ⟨shared, projectId⟩).mpr ⟨rfl, isShared⟩
  rw [teardown_of_found looked] at done
  exact deleteEffect_of_ready ready (contains_of_isShared isShared) done

theorem teardownEffect_of_ready (one : OneBinding identityOf start.transaction.store) :
    TeardownEffect identityOf projectId start outcome now := by
  have nothing : outcome = .ok [] ↔ ∀ shared, ¬ IsShared start.transaction.store shared projectId := by
    constructor
    · intro empty shared isShared
      have removes := (teardown_of_isShared ready done isShared).removed_of_ok empty
      exact List.not_mem_nil removes.root_mem
    · exact fun unknown => (teardown_of_unknown ready done unknown).1
  refine ⟨nothing, fun empty => (teardown_of_unknown ready done (nothing.mp empty)).2,
    fun shared isShared => teardown_of_isShared ready done isShared,
    fun shared removed isShared succeeded => ?_, fun error failed => ?_⟩
  · exact ((teardown_of_isShared ready done isShared).removed_of_ok succeeded).tornDown ready one isShared
  · by_cases known : ∃ shared, IsShared start.transaction.store shared projectId
    · rcases known with ⟨shared, isShared⟩
      exact (teardown_of_isShared ready done isShared).eq_of_error failed
    · cases failed.symm.trans (nothing.mpr (not_exists.mp known))

end Teardown

/-! ## Unbindings -/

/-- What the removal of an object's local entity takes, besides entities of other
types that depend on it, and what it leaves. -/
structure Unbound (identityOf : LiveRef → ProjectId) (project : Project) (start : Workspace)
    (id : EntityId) (removed : List EntityId) (now : Workspace) : Prop
    extends Removed start id removed now where
  root : id ∈ removed
  onlyBound : ∀ other ∈ removed, ∀ shared object,
    IsBound start.transaction.store other shared object → other = id
  /-- Shared entities stay. -/
  shared : ∀ other projectId, IsShared now.transaction.store other projectId ↔
    IsShared start.transaction.store other projectId
  sharedFor : ∀ projectId, sharedFor? now.transaction projectId = sharedFor? start.transaction projectId
  elsewhere : ∀ (host : Host) (question : Question),
    question.concerns identityOf ≠ identityOf project.object →
    question.ask host now.transaction = question.ask host start.transaction

/-- What an unbinding does to a workspace. -/
structure UnbindEffect (identityOf : LiveRef → ProjectId) (project : Project) (start : Workspace)
    (outcome : Except Error Bool) (now : Workspace) : Prop where
  unbound : (∀ id shared, ¬ IsBound start.transaction.store id shared project.object) →
    outcome = .ok false ∧ now = start
  deletes : ∀ id shared, IsBound start.transaction.store id shared project.object →
    ∃ deleted, DeleteEffect start id deleted now ∧ outcome = deleted.map fun _ => true
  removes : ∀ id shared, IsBound start.transaction.store id shared project.object →
    outcome = .ok true → ∃ removed, Unbound identityOf project start id removed now
  /-- The answer is whether the object was bound, and then it is not. -/
  answers : ∀ answer, outcome = .ok answer → isBound start.transaction project = .ok answer ∧
    isBound now.transaction project = .ok false
  fails : ∀ error, outcome = .error error → now = start

theorem Removed.spares_of_isBound (removes : Removed start id removed now) (ready : Ready issued start)
    (isBound : IsBound start.transaction.store id shared object) :
    Spares identityOf (identityOf object) start.transaction.store now.transaction.store where
  only _ _ := removes.get?_of_get?
  shared other projectId isOther _ := by
    refine removes.get?_of_stays fun depends => ?_
    exact isOther.ne_of_isBound isBound (isOther.eq_of_depends ready.installed depends).symm
  bound other left wrapped otherBound elsewhere := by
    refine removes.get?_of_stays fun depends => ?_
    rcases otherBound.eq_of_depends ready.coherent ready.installed depends with same | same
    · exact elsewhere (congrArg identityOf (isBound.eq (same ▸ otherBound)).2.symm)
    · rcases otherBound.exists_isShared ready.coherent ready.installed with ⟨projectId, isShared⟩
      exact isShared.ne_of_isBound isBound same.symm

theorem Removed.unbound (removes : Removed start id removed now) (ready : Ready issued start)
    (one : OneBinding identityOf start.transaction.store)
    (isBound : IsBound start.transaction.store id shared project.object) :
    Unbound identityOf project start id removed now := by
  have ⟨_, coherent, installed, _, _⟩ := ready
  have alike : Alike identityOf (identityOf project.object) start.transaction now.transaction :=
    removes.alike ready one (removes.spares_of_isBound ready isBound)
  have kept : ∀ other projectId, IsShared now.transaction.store other projectId ↔
      IsShared start.transaction.store other projectId := by
    refine fun other projectId => ⟨removes.isShared_of_isShared, fun isOther => ?_⟩
    have stays : ¬ start.transaction.store.Depends other id := fun depends =>
      isOther.ne_of_isBound isBound (isOther.eq_of_depends installed depends).symm
    exact (IsShared.of_get?_eq (removes.get?_of_stays stays)).mpr isOther
  refine ⟨removes, removes.root_mem, ?_, kept,
    fun projectId => alike.sharedFor?_eq_of_iff fun other => kept other projectId,
    fun host question elsewhere => alike.ask_eq elsewhere host⟩
  intro other member left object otherBound
  have depends := (removes.without.names other).mp member
  refine (otherBound.eq_of_depends coherent installed depends).resolve_right fun same => ?_
  rcases otherBound.exists_isShared coherent installed with ⟨projectId, isShared⟩
  exact isShared.ne_of_isBound isBound same.symm

theorem isBound_eq_true (active : now.transaction.isActive = true)
    (coherent : now.transaction.store.Coherent) (installed : Installed now.transaction.store)
    (isBound : IsBound now.transaction.store id shared project.object) :
    Identity.isBound now.transaction project = .ok true := by
  have looked : ∃ answer, Identity.isBound now.transaction project = .ok answer ∧ _ :=
    isBound_eq_ok active coherent installed
  rcases looked with ⟨answer, looked, answers⟩
  rw [looked, answers.mpr ⟨id, shared, isBound⟩]

theorem isBound_eq_false (active : now.transaction.isActive = true)
    (coherent : now.transaction.store.Coherent) (installed : Installed now.transaction.store)
    (free : ∀ id shared, ¬ IsBound now.transaction.store id shared project.object) :
    Identity.isBound now.transaction project = .ok false := by
  have looked : ∃ answer, Identity.isBound now.transaction project = .ok answer ∧ _ :=
    isBound_eq_ok active coherent installed
  rcases looked with ⟨answer, looked, answers⟩
  have no : answer = false := Bool.eq_false_iff.mpr fun isTrue => by
    rcases answers.mp isTrue with ⟨id, shared, isBound⟩
    exact free id shared isBound
  rw [looked, no]

section Unbind

variable {outcome : Except Error Bool} (ready : Ready issued start)
  (one : OneBinding identityOf start.transaction.store) (live : Live host identityOf project)
  (done : Work.after (unbind host project) start = (outcome, now))
include ready one live done

theorem unbind_of_unbound
    (free : ∀ id shared, ¬ IsBound start.transaction.store id shared project.object) :
    outcome = .ok false ∧ now = start := by
  rcases localOf?_eq_ok ready.active ready.coherent ready.installed live.held
    (fun first second left right => one.oneForObject first second left right project.object) with
    ⟨answer, looked, answers⟩
  cases answer with
  | some bound => exact absurd ((answers bound).mp rfl).2 (free _ _)
  | none =>
      rw [unbind, Work.after_bind, Work.after_look, looked] at done
      cases done
      exact ⟨rfl, rfl⟩

theorem unbind_of_isBound (isBound : IsBound start.transaction.store id shared project.object) :
    ∃ deleted, DeleteEffect start id deleted now ∧ outcome = deleted.map fun _ => true := by
  rcases localOf?_eq_ok ready.active ready.coherent ready.installed live.held
    (fun first second left right => one.oneForObject first second left right project.object) with
    ⟨answer, looked, answers⟩
  cases (answers ⟨id, shared, project.object⟩).mpr ⟨rfl, isBound⟩
  rw [unbind, Work.after_bind, Work.after_look, looked] at done
  change Work.after (Work.delete id >>= fun _ => Pure.pure true) start = _ at done
  rw [Work.after_bind] at done
  rcases deleted : Work.after (Work.delete id) start with ⟨result, next⟩
  have effect := deleteEffect_of_ready ready (contains_of_isBound isBound) deleted
  rw [deleted] at done
  cases result with
  | ok removed =>
      cases done
      exact ⟨_, effect, rfl⟩
  | error error =>
      cases done
      exact ⟨_, effect, rfl⟩

theorem unbindEffect_of_unbound
    (free : ∀ id shared, ¬ IsBound start.transaction.store id shared project.object) :
    UnbindEffect identityOf project start outcome now := by
  rcases unbind_of_unbound ready one live done free with ⟨rfl, rfl⟩
  have unbound := isBound_eq_false ready.active ready.coherent ready.installed free
  exact
    { unbound := fun _ => ⟨rfl, rfl⟩
      deletes := fun id shared isBound => absurd isBound (free id shared)
      removes := fun id shared isBound => absurd isBound (free id shared)
      answers := by
        intro answer same
        cases same
        exact ⟨unbound, unbound⟩
      fails := by
        intro error failed
        cases failed }

theorem unbindEffect_of_isBound
    (isBound : IsBound start.transaction.store id shared project.object) :
    UnbindEffect identityOf project start outcome now := by
  have only : ∀ other left, IsBound start.transaction.store other left project.object → other = id :=
    fun other left otherBound => one.oneForObject other id left shared project.object otherBound isBound
  rcases unbind_of_isBound ready one live done isBound with ⟨deleted, effect, rfl⟩
  have unbound : ∀ removed, deleted = .ok removed → Unbound identityOf project start id removed now :=
    fun removed succeeded => (effect.removed_of_ok succeeded).unbound ready one isBound
  exact
    { unbound := fun free => absurd isBound (free id shared)
      deletes := by
        intro other left otherBound
        cases only other left otherBound
        exact ⟨deleted, effect, rfl⟩
      removes := by
        intro other left otherBound succeeded
        cases only other left otherBound
        rcases Outcome.map_eq_ok_iff.mp succeeded with ⟨removed, same, -⟩
        exact ⟨removed, unbound removed same⟩
      answers := by
        intro answer succeeded
        rcases Outcome.map_eq_ok_iff.mp succeeded with ⟨removed, same, rfl⟩
        have removes := (unbound removed same).toRemoved
        have free : ∀ other left, ¬ IsBound now.transaction.store other left project.object := by
          intro other left otherBound
          have ⟨record, there, _⟩ := otherBound
          cases only other left (removes.isBound_of_isBound otherBound)
          exact removes.not_live there
        exact ⟨isBound_eq_true ready.active ready.coherent ready.installed isBound,
          isBound_eq_false (removes.isActive.trans ready.active)
            (ready.coherent.delete removes.deletes)
            (ready.installed.of_schema_eq removes.without.schema) free⟩
      fails := fun error failed => effect.eq_of_error (Outcome.map_eq_error_iff.mp failed) }

theorem unbindEffect_of_ready : UnbindEffect identityOf project start outcome now := by
  by_cases bound : ∃ id shared, IsBound start.transaction.store id shared project.object
  · rcases bound with ⟨id, shared, isBound⟩
    exact unbindEffect_of_isBound ready one live done isBound
  · exact unbindEffect_of_unbound ready one live done fun id shared isBound => bound ⟨id, shared, isBound⟩

end Unbind

/-! ## All runs -/

/-- Let anything permitted happen in a process, and then tear any project down in
a transaction that is active, or unbind an object that is held.  The one takes the
shared entity of the project with what depends on it, the other the local entity of
the object with what depends on that; each does so or changes nothing.  Questions
about other projects are answered as before. -/
theorem isolation_of_run {world : World} {engine : Engine} {events : List Event} {process : Process}
    {place : Nat} {handle : Handle} (mayStart : MayStart world engine)
    (permitted : ∀ event ∈ events, event.Permitted identityOf)
    (ran : (⟨Session.start world engine, host⟩ : Process).run events = process)
    (there : process.session.handles[place]? = some handle)
    (active : handle.transaction.isActive = true)
    (few : process.session.issued.length < UInt64.size) :
    (∀ projectId outcome now,
      Work.after (teardown projectId) ⟨handle.transaction, process.session.allocators⟩ = (outcome, now) →
        TeardownEffect identityOf projectId ⟨handle.transaction, process.session.allocators⟩ outcome
          now) ∧
    (∀ project outcome now, Live process.host identityOf project →
      Work.after (unbind process.host project) ⟨handle.transaction, process.session.allocators⟩ =
        (outcome, now) →
        UnbindEffect identityOf project ⟨handle.transaction, process.session.allocators⟩ outcome
          now) := by
  rcases ready_of_run mayStart permitted ran there active few with ⟨ready, one⟩
  exact ⟨fun projectId outcome now done => teardownEffect_of_ready ready done one,
    fun project outcome now live done => unbindEffect_of_ready ready one live done⟩

namespace Sample

/-- A world of one store, with a project and a memo that goes with it. -/
def diary : World :=
  ([.register sharedDeclaration,
    .register localDeclaration,
    .register memo,
    .create sharedType [(projectIdField, projectKey ⟨"A"⟩)],
    .create "Memo" [("project", .ref ⟨0⟩)]] : List StoreCall).foldl World.advance ({} : World).withNew

def pages : Store :=
  diary.stores.head?.getD (Store.new ∅).1

/-- An object of another project. -/
def guest : Project :=
  { object := ⟨0⟩, className := "Project", id := ⟨"B"⟩, description := "guest" }

/-- The guest is held when a transaction begins. -/
def hosting : Process :=
  (⟨Session.start diary { store := pages }, {}⟩ : Process).run [.take ⟨0⟩ "Project", .plain .begin]

/-- The guest is bound in it. -/
def hosted : Process :=
  hosting.step (.bind 0 guest)

/-- The type and the two attributes of a record. -/
def outline (record : Record) : String × Option Value × Option Value :=
  (record.entityType, record.attributes[projectIdField]?, record.attributes["project"]?)

theorem keys_pages : pages.records.keys = [⟨0⟩, ⟨1⟩] := by
  cbv

theorem outline_project :
    (pages.get? ⟨0⟩).map outline = some (sharedType, some (projectKey ⟨"A"⟩), none) := by
  cbv

theorem outline_memo : (pages.get? ⟨1⟩).map outline = some ("Memo", none, some (.ref ⟨0⟩)) := by
  cbv

/-- There is the shared entity and there is the memo. -/
theorem eq_of_pages {id : EntityId} {record : Record} (live : pages.get? id = some record) :
    (id = ⟨0⟩ ∧ record.entityType = sharedType) ∨ (id = ⟨1⟩ ∧ record.entityType = "Memo") := by
  have listed := (Session.Sample.contains_iff_mem_keys keys_pages id).mp
    ((Store.contains_eq_true_iff pages id).mpr ⟨record, live⟩)
  rcases List.mem_pair.mp listed with rfl | rfl
  · have shape := outline_project
    rw [live] at shape
    exact .inl ⟨rfl, congrArg Prod.fst (Option.some.inj shape)⟩
  · have shape := outline_memo
    rw [live] at shape
    exact .inr ⟨rfl, congrArg Prod.fst (Option.some.inj shape)⟩

theorem isShared_pages : IsShared pages ⟨0⟩ ⟨"A"⟩ := by
  rcases Option.map_eq_some_iff.mp outline_project with ⟨record, live, shape⟩
  exact ⟨record, live, congrArg Prod.fst shape, congrArg (·.2.1) shape⟩

theorem unknown_pages (id : EntityId) : ¬ IsShared pages id ⟨"B"⟩ := by
  rintro ⟨record, live, typed, held⟩
  rcases eq_of_pages live with ⟨rfl, -⟩ | ⟨-, memo⟩
  · exact absurd (isShared_pages.projectId_eq ⟨record, live, typed, held⟩) (by decide)
  · exact absurd (typed.symm.trans memo) (by decide)

theorem find?_memo : pages.schema.find? "Memo" = some memo := by
  cbv

theorem mayStart_diary : MayStart diary { store := pages } where
  lawful := World.Lawful.advances (.new .start) (by simp [StoreCall.inserted?])
  member := Session.Sample.newest_mem (by cbv)
  installed := ⟨by cbv, by cbv⟩
  unbound id record live := by
    rcases eq_of_pages live with ⟨-, typed⟩ | ⟨-, typed⟩
    · rw [typed]
      exact sharedType_ne_localType
    · rw [typed]
      decide

theorem live_guest : Live hosted.host (fun _ => ⟨"B"⟩) guest :=
  ⟨rfl, by simp [hosted, hosting, Process.run, Process.step, Process.work, Host.take, guest]⟩

/-- What happens until the guest is bound. -/
def arriving : List Event :=
  [.take ⟨0⟩ "Project", .plain .begin, .bind 0 guest]

theorem permitted_arriving : ∀ event ∈ arriving, event.Permitted fun _ => ⟨"B"⟩ := by
  simp [arriving, Event.Permitted, guest]

theorem issued_hosted : hosted.session.issued.length < UInt64.size := by
  have issued : (diary.issued pages.allocator).length = 2 := by cbv
  exact mayStart_diary.issued_run_lt {} permitted_arriving (by rw [issued]; decide)

/-- The working snapshot after the binding: two projects, the guest's with a
binding and the other one with a memo.  No plain reference leads anywhere. -/
structure Hosted (store : Store) (id shared : EntityId) : Prop where
  first : IsShared store ⟨0⟩ ⟨"A"⟩
  memo : store.Depends ⟨1⟩ ⟨0⟩
  second : IsShared store shared ⟨"B"⟩
  bound : IsBound store id shared ⟨0⟩
  free : ∀ owner target, ¬ store.Refers false owner target

theorem exists_hosted : ∃ handle id shared, hosted.session.handles[0]? = some handle ∧
    handle.transaction.isActive = true ∧ Hosted handle.transaction.store id shared := by
  have begun : ∃ handle, hosting.session.handles[0]? = some handle ∧
      handle.transaction.isActive = true ∧ handle.transaction.store = pages := ⟨_, rfl, rfl, rfl⟩
  rcases begun with ⟨handle, there, active, opened⟩
  have grows := (hosting.issued_step (.bind 0 guest)).length_le
  have permitted : ∀ event ∈ ([.take ⟨0⟩ "Project", .plain .begin] : List Event),
      event.Permitted fun _ => ⟨"B"⟩ := by simp [Event.Permitted]
  have few : hosting.session.issued.length < UInt64.size :=
    Nat.lt_of_le_of_lt grows issued_hosted
  rcases ready_of_run mayStart_diary permitted rfl there active few with ⟨ready, one⟩
  have live : Live hosting.host (fun _ => ⟨"B"⟩) guest :=
    ⟨rfl, by simp [hosting, Process.run, Process.step, Host.take, guest]⟩
  rcases ended : Work.after (Identity.bind hosting.host guest)
    ⟨handle.transaction, hosting.session.allocators⟩ with ⟨outcome, now⟩
  have stepped := Process.step_bind there ended
  have fewThen := issued_hosted
  rw [hosted, stepped, Session.put, List.length_append] at fewThen
  have unknown : ∀ shared, ¬ IsShared handle.transaction.store shared ⟨"B"⟩ := by
    rw [opened]
    exact unknown_pages
  rcases (bindEffect_of_ready ready one live ended fewThen).founded unknown with
    ⟨id, shared, -, wrote⟩
  have kept : ∀ {other record}, pages.get? other = some record →
      now.transaction.store.get? other = some record := fun before =>
    (wrote.records _ _).mpr (.inl ⟨opened.symm ▸ before, Set.notMem_empty _⟩)
  have noted : now.transaction.store.schema.find? "Memo" = some memo := by
    rw [wrote.schema, opened]
    exact find?_memo
  refine ⟨{ handle with transaction := now.transaction }, id, shared, ?_, wrote.ready.active, ?_, ?_,
    wrote.isShared_of_created List.mem_cons_self,
    wrote.isBound_of_created (List.mem_cons_of_mem _ List.mem_cons_self), ?_⟩
  · rw [hosted, stepped]
    exact Session.getElem?_put there
  · rcases isShared_pages with ⟨record, before, shape⟩
    exact ⟨record, kept before, shape⟩
  · rcases Option.map_eq_some_iff.mp outline_memo with ⟨record, before, shape⟩
    have typed : record.entityType = "Memo" := congrArg Prod.fst shape
    exact .single ⟨record, memo, _, kept before, typed ▸ noted, List.mem_cons_self, rfl, rfl,
      congrArg (·.2.2) shape⟩
  · intro owner target refers
    rcases (Store.contains_eq_true_iff _ _).mp (Store.contains_owner refers) with ⟨record, stands⟩
    have installed := wrote.ready.installed
    rcases (wrote.records owner record).mp stands with ⟨before, -⟩ | ⟨_, _, created, rfl⟩
    · rcases eq_of_pages (opened ▸ before) with ⟨-, typed⟩ | ⟨-, typed⟩
      · exact not_refers_of_shared installed stands typed refers
      · rcases refers with ⟨same, type, declared, alsoStands, found, member, -, plain, -⟩
        cases stands.symm.trans alsoStands
        cases (typed ▸ found).symm.trans noted
        cases List.mem_singleton.mp member
        cases plain
    · rcases List.mem_pair.mp created with first | second
      · cases first
        exact not_refers_of_shared installed stands rfl refers
      · cases second
        exact not_refers_of_local installed stands rfl refers

end Sample

/-- The other project is torn down and takes its memo along.  The guest's entities
stay, and the guest is answered about as before.  If the guest is unbound instead,
its shared entity stays. -/
theorem isolation_of_run_hosted : ∃ handle id shared removed torn unbound,
    Sample.hosted.session.handles[0]? = some handle ∧
      Sample.Hosted handle.transaction.store id shared ∧
      Work.after (teardown ⟨"A"⟩) ⟨handle.transaction, Sample.hosted.session.allocators⟩ =
        (.ok removed, torn) ∧
      ⟨0⟩ ∈ removed ∧ ⟨1⟩ ∈ removed ∧ shared ∉ removed ∧ id ∉ removed ∧
      (Question.sharedOf? Sample.guest).ask Sample.hosted.host torn.transaction =
        (Question.sharedOf? Sample.guest).ask Sample.hosted.host handle.transaction ∧
      Work.after (unbind Sample.hosted.host Sample.guest)
        ⟨handle.transaction, Sample.hosted.session.allocators⟩ = (.ok true, unbound) ∧
      isBound unbound.transaction Sample.guest = .ok false ∧
      IsShared unbound.transaction.store shared ⟨"B"⟩ := by
  rcases Sample.exists_hosted with ⟨handle, id, shared, there, active, store⟩
  have free : ∀ root, ¬ handle.transaction.store.Protected
      {other | handle.transaction.store.Depends other root} :=
    fun root ⟨owner, victim, _, _, refers⟩ => store.free owner victim refers
  rcases torn : Work.after (teardown ⟨"A"⟩) ⟨handle.transaction, Sample.hosted.session.allocators⟩ with
    ⟨outcome, now⟩
  rcases freed : Work.after (unbind Sample.hosted.host Sample.guest)
    ⟨handle.transaction, Sample.hosted.session.allocators⟩ with ⟨answer, later⟩
  rcases isolation_of_run Sample.mayStart_diary Sample.permitted_arriving rfl there active
    Sample.issued_hosted with ⟨teardowns, unbindings⟩
  have teardown := teardowns _ _ _ torn
  have unbinding := unbindings _ _ _ Sample.live_guest freed
  rcases (teardown.deletes ⟨0⟩ store.first).free (free _) with ⟨removed, rfl, removes⟩
  have tornDown := teardown.removes ⟨0⟩ removed store.first rfl
  rcases unbinding.deletes id shared store.bound with ⟨deleted, effect, rfl⟩
  rcases effect.free (free _) with ⟨taken, rfl, -⟩
  rcases unbinding.removes id shared store.bound rfl with ⟨others, unbound⟩
  refine ⟨handle, id, shared, removed, now, later, there, store, torn, tornDown.root,
    (removes.without.names _).mpr store.memo, ?_, ?_,
    tornDown.elsewhere Sample.hosted.host (.sharedOf? Sample.guest) (by decide), freed,
    (unbinding.answers true rfl).2, (unbound.shared _ _).mpr store.second⟩
  · intro member
    cases tornDown.onlyShared shared member ⟨"B"⟩ store.second
    exact absurd (store.first.projectId_eq store.second) (by decide)
  · intro member
    cases tornDown.onlyBound id member shared ⟨0⟩ store.bound
    exact absurd (store.first.projectId_eq store.second) (by decide)

end Identity

end EntityBase
