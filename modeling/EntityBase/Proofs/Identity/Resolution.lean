import EntityBase.Identity.Query
import EntityBase.Proofs.Identity.OneBinding

namespace EntityBase

/-!
# From shared entities to objects

A shared entity that comes from elsewhere has an identifier that means nothing
here, or something else.  Resolving it looks at that identifier first, and falls
back on the project identifier when the record there is not a shared entity of
the project.  Both ways lead to the same entity, since a project has one shared
entity at most.  So what is returned depends on the project identifier alone.

A lookup of the object behind a shared entity is then a partial map from project
identifiers to objects.  A dropped object, a missing binding and an unknown
project are all answered with nothing, and never with an error.  For a bound
object the map undoes the way from the object to its shared entity.
-/

namespace Identity

variable {transaction : Transaction} {host : Host} {className : String} {record : Record}

theorem isStale_eq {object : LiveRef}
    (wraps : record.attributes[objectField]? = some (.live object)) :
    isStale host record = !host.holds object := by
  rw [isStale, wraps]
  rfl

section Answers

variable (active : transaction.isActive = true) (coherent : transaction.store.Coherent)
  (installed : Installed transaction.store)
include active coherent installed

/-- Whichever way a shared entity is resolved, its project decides. -/
theorem resolve?_eq_ok (received : SharedEntity) :
    ∃ answer, resolve? transaction received = .ok answer ∧
      ∀ own, answer = some own ↔ own.projectId = received.projectId ∧
        IsShared transaction.store own.id received.projectId := by
  rcases sharedFor?_eq_ok active coherent installed received.projectId with
    ⟨answer, looked, answers⟩
  have got : transaction.get? received.id = .ok (transaction.store.get? received.id) := by
    rw [Transaction.get?, Transaction.current_eq_ok_iff.mpr ⟨active, rfl⟩]
    rfl
  refine ⟨answer, ?_, answers⟩
  rw [resolve?, got]
  cases live : transaction.store.get? received.id with
  | none => exact looked
  | some record =>
      change (if record.entityType = sharedType then _ else _) = _
      split
      · rename_i typed
        rcases exists_isShared coherent installed live typed with ⟨projectId, isShared⟩
        rcases isShared with ⟨same, sameLive, sameTyped, held⟩
        cases live.symm.trans sameLive
        have isShared : IsShared transaction.store received.id projectId :=
          ⟨record, live, typed, held⟩
        rw [SharedEntity.ofRecord_eq_ok typed held, coherent.integrity.ownId _ record live]
        change (if projectId = received.projectId then _ else _) = _
        split
        · rename_i claims
          exact congrArg Except.ok
            ((answers ⟨received.id, projectId⟩).mpr ⟨claims, claims ▸ isShared⟩).symm
        · exact looked
      · exact looked

/-- The local entity that refers to a shared entity. -/
theorem single_reference_eq_ok (shared : EntityId) :
    ∃ answer, transaction.single localType sharedField (.ref shared) = .ok answer ∧
      ∀ id, answer = some id ↔ ∃ object, IsBound transaction.store id shared object := by
  rw [single_eq active]
  simp only [← holds_reference_iff coherent installed]
  exact coherent.single_eq_ok installed.bound List.mem_cons_self rfl rfl
    fun _ _ => coherent.eq_of_holds installed.bound List.mem_cons_self rfl rfl

omit coherent installed in
/-- A lookup that finds a binding returns its object unless that was dropped. -/
theorem projectOf?_of_isBound {received own : SharedEntity} {id shared : EntityId}
    {object : LiveRef}
    (ofClass : host.holds object = true → host.held[object]? = some className)
    (resolves : resolve? transaction received = .ok (some own))
    (single : transaction.single localType sharedField (.ref own.id) = .ok (some id))
    (isBound : IsBound transaction.store id shared object) :
    projectOf? host transaction className received =
      .ok (if host.holds object = true then some object else none) := by
  rcases isBound with ⟨record, live, typed, refers, wraps⟩
  refine Outcome.bind_eq_ok_iff.mpr ⟨_, resolves, Outcome.bind_eq_ok_iff.mpr
    ⟨_, single, Outcome.bind_eq_ok_iff.mpr ⟨record, record_eq_ok active live, ?_⟩⟩⟩
  rw [isStale_eq wraps]
  cases holds : host.holds object with
  | false => rfl
  | true =>
      rw [LocalEntity.ofRecord_eq_ok (ofClass holds) typed refers wraps]
      rfl

/-- The object behind a shared entity is the one that is bound for its project,
if it is still held. -/
theorem projectOf?_eq_ok
    (ofClass : ∀ object, host.holds object = true → host.held[object]? = some className)
    (received : SharedEntity) :
    ∃ answer, projectOf? host transaction className received = .ok answer ∧
      ∀ object, answer = some object ↔ host.holds object = true ∧
        ∃ id shared, IsBound transaction.store id shared object ∧
          IsShared transaction.store shared received.projectId := by
  rcases resolve?_eq_ok active coherent installed received with ⟨resolved, resolves, owns⟩
  cases resolved with
  | none =>
      refine ⟨none, Outcome.bind_eq_ok_iff.mpr ⟨_, resolves, rfl⟩, fun object =>
        ⟨fun impossible => ?_, fun ⟨_, _, shared, _, isShared⟩ => ?_⟩⟩
      · cases impossible
      · cases (owns ⟨shared, received.projectId⟩).mpr ⟨rfl, isShared⟩
  | some own =>
      have isOwn := ((owns own).mp rfl).2
      rcases single_reference_eq_ok active coherent installed own.id with ⟨found, single, binds⟩
      -- Whoever is bound for the project is found under its one shared entity.
      have onlyFound : ∀ (id shared : EntityId) (object : LiveRef),
          IsBound transaction.store id shared object →
          IsShared transaction.store shared received.projectId → found = some id := by
        intro id shared object isBound isShared
        cases (owns ⟨shared, received.projectId⟩).mpr ⟨rfl, isShared⟩
        exact (binds id).mpr ⟨object, isBound⟩
      cases found with
      | none =>
          refine ⟨none, Outcome.bind_eq_ok_iff.mpr ⟨_, resolves, Outcome.bind_eq_ok_iff.mpr
            ⟨_, single, rfl⟩⟩, fun object =>
            ⟨fun impossible => ?_, fun ⟨_, id, shared, isBound, isShared⟩ => ?_⟩⟩
          · cases impossible
          · cases onlyFound id shared object isBound isShared
      | some id =>
          rcases (binds id).mp rfl with ⟨object, isBound⟩
          refine ⟨_, projectOf?_of_isBound active (ofClass object) resolves single isBound, fun other =>
            ⟨fun same => ?_, fun ⟨holds, bound, shared, otherBound, isShared⟩ => ?_⟩⟩
          · split at same
            · rename_i holds
              cases same
              exact ⟨holds, id, own.id, isBound, isOwn⟩
            · cases same
          · cases onlyFound bound shared other otherBound isShared
            cases (otherBound.eq isBound).2
            exact if_pos holds

end Answers

/-! ## What the lookups promise -/

variable {lineage : Lineage} {identityOf : LiveRef → ProjectId}
  {objectOf : ProjectId → Option LiveRef} {project : Project}

/-- For shared entities, wherever they come from, a transaction acts as a partial
map from projects to the objects that are bound for them and still held. -/
structure Resolves (host : Host) (className : String) (transaction : Transaction)
    (objectOf : ProjectId → Option LiveRef) : Prop where
  bound : ∀ projectId object, objectOf projectId = some object ↔ host.holds object = true ∧
    ∃ id shared, IsBound transaction.store id shared object ∧
      IsShared transaction.store shared projectId
  projectOf : ∀ shared : SharedEntity,
    projectOf? host transaction className shared = .ok (objectOf shared.projectId)
  toLive : ∀ shared : SharedEntity,
    toLive? host transaction className shared = .ok (objectOf shared.projectId)

/-- The lookups about an object agree on whether it is bound, and the way to its
shared entity leads back to it. -/
structure RoundTrips (host : Host) (className : String) (transaction : Transaction)
    (project : Project) : Prop where
  agree : ∃ bound localEntity shared, isBound transaction project = .ok bound ∧
    localOf? host transaction project = .ok localEntity ∧
    sharedOf? host transaction project = .ok shared ∧
    (bound = true ↔ localEntity.isSome = true) ∧ (localEntity.isSome = true ↔ shared.isSome = true)
  back : isBound transaction project = .ok true →
    ∃ shared, sharedOf host transaction project = .ok shared ∧ shared.projectId = project.id ∧
      projectOf host transaction className shared = .ok project.object

theorem exists_resolves (active : transaction.isActive = true)
    (coherent : transaction.store.Coherent) (installed : Installed transaction.store)
    (ofClass : ∀ object, host.holds object = true → host.held[object]? = some className) :
    ∃ objectOf, Resolves host className transaction objectOf := by
  have answers := fun projectId =>
    projectOf?_eq_ok active coherent installed ofClass ⟨EntityId.null, projectId⟩
  choose objectOf looked bound using answers
  have projectOf : ∀ shared : SharedEntity,
      projectOf? host transaction className shared = .ok (objectOf shared.projectId) := by
    intro shared
    rcases projectOf?_eq_ok active coherent installed ofClass shared with ⟨answer, found, answers⟩
    have same : answer = objectOf shared.projectId :=
      Option.ext fun object => (answers object).trans (bound shared.projectId object).symm
    exact same ▸ found
  exact ⟨objectOf, bound, projectOf, projectOf⟩

/-- A bound object is found again from its shared entity. -/
theorem Resolves.roundTrips (resolves : Resolves host className transaction objectOf)
    (descends : Descends lineage transaction.store) (attested : Attested identityOf lineage)
    (active : transaction.isActive = true)
    (held : host.held[project.object]? = some project.className)
    (constant : project.id = identityOf project.object) :
    RoundTrips host className transaction project := by
  have answers := descends.answers attested active held
  rcases answers.isBound with ⟨bound, looked, isBound⟩
  rcases answers.localOf with ⟨localEntity, localLooked, isLocal⟩
  rcases answers.sharedOf with ⟨shared, sharedLooked, isShared⟩
  have ofLocal : localEntity.isSome = true ↔
      ∃ id shared, IsBound transaction.store id shared project.object := by
    rw [Option.isSome_iff_exists]
    constructor
    · rintro ⟨entity, same⟩
      exact ⟨entity.id, entity.shared, ((isLocal entity).mp same).2⟩
    · rintro ⟨id, shared, binding⟩
      exact ⟨⟨id, shared, project.object⟩, (isLocal _).mpr ⟨rfl, binding⟩⟩
  have ofShared : shared.isSome = true ↔
      ∃ id shared, IsBound transaction.store id shared project.object := by
    rw [Option.isSome_iff_exists]
    constructor
    · rintro ⟨entity, same⟩
      rcases ((isShared entity).mp same).2 with ⟨id, binding⟩
      exact ⟨id, entity.id, binding⟩
    · rintro ⟨id, shared, binding⟩
      exact ⟨⟨shared, identityOf project.object⟩, (isShared _).mpr ⟨rfl, id, binding⟩⟩
  refine ⟨⟨bound, localEntity, shared, looked, localLooked, sharedLooked,
    isBound.trans ofLocal.symm, ofLocal.trans ofShared.symm⟩, fun isTrue => ?_⟩
  cases looked.symm.trans isTrue
  rcases Option.isSome_iff_exists.mp (ofShared.mpr (isBound.mp rfl)) with ⟨entity, rfl⟩
  rcases (isShared entity).mp rfl with ⟨claims, id, binding⟩
  have holds : host.holds project.object = true := by
    rw [Host.holds, Std.ExtTreeMap.contains_eq_isSome_getElem?, held]
    rfl
  have leadsBack : objectOf entity.projectId = some project.object :=
    (resolves.bound _ _).mpr ⟨holds, id, entity.id, binding,
      claims ▸ attested.isShared descends binding⟩
  have found := resolves.projectOf entity
  rw [leadsBack] at found
  exact ⟨entity, Outcome.bind_eq_ok_iff.mpr ⟨_, sharedLooked, rfl⟩, claims.trans constant.symm,
    Outcome.bind_eq_ok_iff.mpr ⟨_, found, rfl⟩⟩

/-! ## All runs -/

/-- All objects that a host holds are of one class. -/
def HoldsOnly (className : String) (host : Host) : Prop :=
  ∀ (object : LiveRef) (other : String), host.held[object]? = some other → other = className

/-- The host only takes objects of one class. -/
def Event.TakesOnly (className : String) : Event → Prop
  | .take _ other => other = className
  | _ => True

theorem HoldsOnly.step {process : Process} (only : HoldsOnly className process.host) {event : Event}
    (takes : event.TakesOnly className) : HoldsOnly className (process.step event).host := by
  cases event with
  | take object other =>
      intro any found held
      simp only [Process.step, Host.take, Std.ExtTreeMap.getElem?_insert] at held
      split at held
      · cases held
        exact takes
      · exact only any found held
  | drop object =>
      intro any found held
      simp only [Process.step, Host.drop, Std.ExtTreeMap.getElem?_erase] at held
      split at held
      · cases held
      · exact only any found held
  | _ => exact only

theorem HoldsOnly.run {process : Process} {events : List Event}
    (only : HoldsOnly className process.host)
    (takes : ∀ event ∈ events, event.TakesOnly className) :
    HoldsOnly className (process.run events).host := by
  induction events generalizing process with
  | nil => exact only
  | cons event rest ih =>
      exact ih (only.step (takes event List.mem_cons_self))
        fun other member => takes other (List.mem_cons_of_mem _ member)

theorem HoldsOnly.ofClass (only : HoldsOnly className host) (object : LiveRef)
    (holds : host.holds object = true) : host.held[object]? = some className := by
  rw [Host.holds, Std.ExtTreeMap.contains_eq_isSome_getElem?] at holds
  rcases Option.isSome_iff_exists.mp holds with ⟨other, held⟩
  rw [held, only object other held]

/-- Let anything permitted happen in a process whose host only ever holds objects
of one class.  An active transaction then acts as a partial map from projects to
objects, whatever identifier a shared entity comes with.  Its lookups about an
object that is held agree on whether it is bound, and lead back to it. -/
theorem resolution_of_run {world : World} {engine : Engine} {events : List Event}
    {process : Process} (mayStart : MayStart world engine)
    (permitted : ∀ event ∈ events, event.Permitted identityOf) (only : HoldsOnly className host)
    (takes : ∀ event ∈ events, event.TakesOnly className)
    (ran : (⟨Session.start world engine, host⟩ : Process).run events = process)
    (few : process.session.issued.length < UInt64.size) :
    ∀ handle ∈ process.session.handles, handle.transaction.isActive = true →
      (∃ objectOf, Resolves process.host className handle.transaction objectOf) ∧
        ∀ project : Project, process.host.held[project.object]? = some project.className →
          project.id = identityOf project.object →
          RoundTrips process.host className handle.transaction project := by
  subst ran
  have grows := Process.issued_run ⟨Session.start world engine, host⟩ events
  have start : Traced identityOf _ _ := mayStart.traced (Nat.lt_of_le_of_lt grows.length_le few)
  rcases Process.run_traced permitted start mayStart.accounted few with ⟨lineage, traced⟩
  intro handle member active
  have descends := (traced.working handle member).store
  have first : HoldsOnly className (⟨Session.start world engine, host⟩ : Process).host := only
  have ofClass := (first.run takes).ofClass
  rcases exists_resolves active descends.coherent descends.installed ofClass with
    ⟨objectOf, resolves⟩
  exact ⟨⟨objectOf, resolves⟩, fun project held constant =>
    resolves.roundTrips descends traced.attested active held constant⟩

namespace Sample

/-- After the takeover, another transaction begins. -/
def afterTakeover : List Event :=
  takeover ++ [.plain .begin]

theorem takes_takeover : ∀ event ∈ afterTakeover, event.TakesOnly "Project" := by
  simp [afterTakeover, takeover, Event.TakesOnly]

theorem permitted_afterTakeover :
    ∀ event ∈ afterTakeover, event.Permitted fun _ => ⟨"A"⟩ := by
  intro event member
  rcases List.mem_append.mp member with old | last
  · exact permitted event old
  · cases List.mem_singleton.mp last
    trivial

/-- The second object is held at the end. -/
theorem held_afterTakeover (session : Session) :
    ((⟨session, {}⟩ : Process).run afterTakeover).host.held[LiveRef.mk 1]? = some "Project" := by
  simp [afterTakeover, takeover, Process.run, Process.step, Process.work, Host.take, Host.drop]

theorem exists_begun (process : Process) :
    ∃ handle ∈ (process.step (.plain .begin)).session.handles, handle.transaction.isActive = true :=
  ⟨_, List.mem_append_right _ (List.mem_singleton_self _), rfl⟩

end Sample

/-- In the example the transaction that begins last resolves every shared entity,
and leads back to the object that is held. -/
theorem resolution_of_run_takeover : ∃ process handle,
    (⟨Session.start Sample.ground { store := Sample.snapshot }, {}⟩ : Process).run
        Sample.afterTakeover = process ∧
      handle ∈ process.session.handles ∧ handle.transaction.isActive = true ∧
      (∃ objectOf, Resolves process.host "Project" handle.transaction objectOf) ∧
      RoundTrips process.host "Project" handle.transaction (Sample.project 1) := by
  have few := Sample.mayStart.issued_run_lt {} Sample.permitted_afterTakeover
    (by rw [Sample.issued_length]; decide)
  have only : HoldsOnly "Project" {} := fun object other held => by simp at held
  have begun := Sample.exists_begun
    ((⟨Session.start Sample.ground { store := Sample.snapshot }, {}⟩ : Process).run Sample.takeover)
  have last : (⟨Session.start Sample.ground { store := Sample.snapshot }, {}⟩ : Process).run
      Sample.afterTakeover = _ := List.foldl_concat _ _ _ _
  rcases begun with ⟨handle, member, active⟩
  have resolution := resolution_of_run Sample.mayStart Sample.permitted_afterTakeover only
    Sample.takes_takeover rfl few handle (last ▸ member) active
  exact ⟨_, handle, rfl, last ▸ member, active, resolution.1,
    resolution.2 (Sample.project 1) (Sample.held_afterTakeover _) rfl⟩

end Identity

end EntityBase
