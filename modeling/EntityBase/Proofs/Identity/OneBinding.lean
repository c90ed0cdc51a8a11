import EntityBase.Proofs.Identity.Tracing

namespace EntityBase

/-!
# One identity, one binding

However bindings, teardowns, conflicts and dropped objects follow on one
another, a project has one shared entity at most in any snapshot, a shared
entity one local entity, and an object one local entity.  The first two are
unique attributes.  The third is declared nowhere.  It holds because a local
entity leads from its object to the shared entity of the object's one project,
and from there uniqueness leads back.

The lookups of an object that somebody holds therefore always have an answer.
-/

namespace Identity

variable {lineage : Lineage} {identityOf : LiveRef → ProjectId} {store : Store}

/-- What a snapshot promises of identities, where each object belongs to one
project. -/
structure OneBinding (identityOf : LiveRef → ProjectId) (store : Store) : Prop where
  /-- Every shared entity has a project. -/
  identified : ∀ (id : EntityId) (record : Record), store.get? id = some record →
    record.entityType = sharedType → ∃ projectId, IsShared store id projectId
  /-- Every local entity has an object, and refers to the live shared entity of
  the object's project. -/
  leads : ∀ (id : EntityId) (record : Record), store.get? id = some record →
    record.entityType = localType →
    ∃ shared object, IsBound store id shared object ∧ IsShared store shared (identityOf object)
  oneShared : ∀ (first second : EntityId) (projectId : ProjectId), IsShared store first projectId →
    IsShared store second projectId → first = second
  oneForShared : ∀ (first second shared : EntityId) (left right : LiveRef),
    IsBound store first shared left → IsBound store second shared right → first = second
  oneForObject : ∀ (first second left right : EntityId) (object : LiveRef),
    IsBound store first left object → IsBound store second right object → first = second

theorem OneBinding.isShared (one : OneBinding identityOf store) {id shared : EntityId}
    {object : LiveRef} (isBound : IsBound store id shared object) :
    IsShared store shared (identityOf object) := by
  have ⟨record, live, typed, _⟩ := isBound
  rcases one.leads id record live typed with ⟨other, wrapped, same, isShared⟩
  rcases isBound.eq same with ⟨rfl, rfl⟩
  exact isShared

/-- Descent from an attested lineage is what it takes. -/
theorem Descends.oneBinding (descends : Descends lineage store)
    (attested : Attested identityOf lineage) : OneBinding identityOf store := by
  have ⟨coherent, installed, _⟩ := descends
  refine ⟨fun id record => exists_isShared coherent installed, ?_,
    fun _ _ _ => IsShared.id_eq coherent installed,
    fun _ _ _ _ _ => IsBound.id_eq coherent installed, ?_⟩
  · intro id record live typed
    rcases exists_binding coherent installed live typed with ⟨shared, object, -, refers, wraps, -⟩
    have isBound : IsBound store id shared object := ⟨record, live, typed, refers, wraps⟩
    exact ⟨shared, object, isBound, attested.isShared descends isBound⟩
  · intro first second left right object isFirst isSecond
    -- Both lead to the shared entity of the object's project, which has one.
    have same := IsShared.id_eq coherent installed (attested.isShared descends isFirst)
      (attested.isShared descends isSecond)
    exact IsBound.id_eq coherent installed isFirst (same ▸ isSecond)

/-- How the lookups of a transaction answer about an object and about project
identifiers: they succeed, and find exactly what is there. -/
structure Answers (identityOf : LiveRef → ProjectId) (host : Host) (transaction : Transaction)
    (project : Project) : Prop where
  localOf : ∃ answer, localOf? host transaction project = .ok answer ∧
    ∀ bound, answer = some bound ↔
      bound.object = project.object ∧
        IsBound transaction.store bound.id bound.shared project.object
  sharedFor : ∀ projectId, ∃ answer, sharedFor? transaction projectId = .ok answer ∧
    ∀ shared, answer = some shared ↔
      shared.projectId = projectId ∧ IsShared transaction.store shared.id projectId
  sharedOf : ∃ answer, sharedOf? host transaction project = .ok answer ∧
    ∀ shared, answer = some shared ↔
      shared.projectId = identityOf project.object ∧
        ∃ id, IsBound transaction.store id shared.id project.object
  isBound : ∃ answer, isBound transaction project = .ok answer ∧
    (answer = true ↔ ∃ id shared, IsBound transaction.store id shared project.object)

/-- An active transaction answers about any object that is held. -/
theorem Descends.answers {transaction : Transaction} {host : Host} {project : Project}
    (descends : Descends lineage transaction.store) (attested : Attested identityOf lineage)
    (active : transaction.isActive = true)
    (held : host.held[project.object]? = some project.className) :
    Answers identityOf host transaction project := by
  have ⟨coherent, installed, _⟩ := descends
  have once := fun first second left right =>
    (descends.oneBinding attested).oneForObject first second left right project.object
  refine ⟨localOf?_eq_ok active coherent installed held once,
    sharedFor?_eq_ok active coherent installed, ?_, isBound_eq_ok active coherent installed⟩
  rcases sharedOf?_eq_ok active coherent installed held once with ⟨answer, looked, answers⟩
  refine ⟨answer, looked, fun shared => (answers shared).trans ⟨?_, ?_⟩⟩
  · rintro ⟨isShared, id, isBound⟩
    exact ⟨isShared.projectId_eq (attested.isShared descends isBound), id, isBound⟩
  · rintro ⟨same, id, isBound⟩
    exact ⟨same ▸ attested.isShared descends isBound, id, isBound⟩

/-! ## All runs -/

/-- A process may start on an engine whose snapshot was made by a lawful
history, has the identity types and no local entities. -/
structure MayStart (world : World) (engine : Engine) : Prop where
  lawful : world.Lawful
  member : engine.store ∈ world.stores
  installed : Installed engine.store
  unbound : ∀ (id : EntityId) (record : Record), engine.store.get? id = some record →
    record.entityType ≠ localType

variable {world : World} {engine : Engine} {host : Host} {events : List Event} {process : Process}

theorem MayStart.accounted (mayStart : MayStart world engine) :
    (Session.start world engine).Accounted engine.store.allocator :=
  Session.Accounted.start mayStart.lawful (mayStart.lawful.keeps mayStart.member).handedOut

theorem MayStart.traced (mayStart : MayStart world engine)
    (few : (world.issued engine.store.allocator).length < UInt64.size) :
    Traced identityOf engine.store.get? (Session.start world engine) :=
  have keeps := mayStart.lawful.keeps mayStart.member
  traced_start (keeps.coherent few) mayStart.installed keeps.handedOut mayStart.unbound

/-- A run stays below the wrap if it starts well below. -/
theorem MayStart.issued_run_lt (mayStart : MayStart world engine) (host : Host)
    (permitted : ∀ event ∈ events, event.Permitted identityOf)
    (few : (world.issued engine.store.allocator).length + 2 * events.length < UInt64.size) :
    ((⟨Session.start world engine, host⟩ : Process).run events).session.issued.length < UInt64.size :=
  Nat.lt_of_le_of_lt (Process.issued_run_le permitted (mayStart.traced (by omega))
    mayStart.accounted few) few

/-- Let anything permitted happen in a process, in any order.  The committed
snapshot and the snapshot of every active transaction have one binding for each
identity, and an active transaction answers every lookup about an object that
is held. -/
theorem one_binding_of_run (mayStart : MayStart world engine)
    (permitted : ∀ event ∈ events, event.Permitted identityOf)
    (ran : (⟨Session.start world engine, host⟩ : Process).run events = process)
    (few : process.session.issued.length < UInt64.size) :
    OneBinding identityOf process.session.engine.store ∧
      ∀ handle ∈ process.session.handles, handle.transaction.isActive = true →
        OneBinding identityOf handle.transaction.store ∧
          ∀ project : Project, process.host.held[project.object]? = some project.className →
            Answers identityOf process.host handle.transaction project := by
  subst ran
  have grows := Process.issued_run ⟨Session.start world engine, host⟩ events
  have start : Traced identityOf _ _ := mayStart.traced (Nat.lt_of_le_of_lt grows.length_le few)
  rcases Process.run_traced permitted start mayStart.accounted few with ⟨lineage, traced⟩
  refine ⟨traced.committed.oneBinding traced.attested, fun handle member active => ?_⟩
  have descends := (traced.working handle member).store
  exact ⟨descends.oneBinding traced.attested,
    fun project held => descends.answers traced.attested active held⟩

namespace Sample

/-- A world of one store, with the identity types. -/
def ground : World :=
  ([.register sharedDeclaration, .register localDeclaration] : List StoreCall).foldl World.advance
    ({} : World).withNew

def snapshot : Store :=
  ground.stores.head?.getD (Store.new ∅).1

/-- All objects belong to one project. -/
def project (serial : Nat) : Project :=
  { object := ⟨serial⟩, className := "Project", id := ⟨"A"⟩, description := "project" }

/-- An object is bound and dropped.  Another takes its place, while a third
transaction tears the project down. -/
def takeover : List Event :=
  [.take ⟨0⟩ "Project",
    .plain .begin,
    .bind 0 (project 0),
    .plain (.commit 0),
    .drop ⟨0⟩,
    .take ⟨1⟩ "Project",
    .plain .begin,
    .plain .begin,
    .bind 1 (project 1),
    .teardown 2 ⟨"A"⟩,
    .plain (.commit 1),
    .plain (.commit 2),
    .plain .begin,
    .bind 3 (project 1)]

theorem exists_newest : ∃ newest, ground.stores.head? = some newest :=
  Option.isSome_iff_exists.mp (by cbv)

theorem mayStart : MayStart ground { store := snapshot } := by
  rcases exists_newest with ⟨newest, first⟩
  have same : snapshot = newest := by rw [snapshot, first, Option.getD_some]
  have vacant : snapshot.records.isEmpty = true := by cbv
  refine ⟨?_, same ▸ List.mem_of_mem_head? first, ⟨by cbv, by cbv⟩, fun id record live => ?_⟩
  · exact World.Lawful.advances (.new .start) (by simp [StoreCall.inserted?])
  · rw [Store.get?, Std.ExtTreeMap.isEmpty_iff.mp vacant] at live
    simp at live

theorem permitted : ∀ event ∈ takeover, event.Permitted fun _ => ⟨"A"⟩ := by
  simp [takeover, Event.Permitted, project]

theorem issued_length : (ground.issued snapshot.allocator).length = 0 := by
  cbv

end Sample

/-- The example ends with one binding for each identity, in the committed
snapshot and in any that is still worked on. -/
theorem one_binding_of_run_takeover : ∃ process,
    (⟨Session.start Sample.ground { store := Sample.snapshot }, {}⟩ : Process).run Sample.takeover =
        process ∧
      process.session.issued.length < UInt64.size ∧
      OneBinding (fun _ => ⟨"A"⟩) process.session.engine.store ∧
      ∀ handle ∈ process.session.handles, handle.transaction.isActive = true →
        OneBinding (fun _ => ⟨"A"⟩) handle.transaction.store := by
  have few := Sample.mayStart.issued_run_lt {} Sample.permitted
    (by rw [Sample.issued_length]; decide)
  rcases one_binding_of_run Sample.mayStart Sample.permitted rfl few with ⟨committed, working⟩
  exact ⟨_, rfl, few, committed, fun handle member active => (working handle member active).1⟩

end Identity

end EntityBase
