import EntityBase.Proofs.Engine.Growth
import EntityBase.Proofs.Identity.Resolution

namespace EntityBase

/-!
# Founding identities

Adopting and binding, while nobody drops an object, only ever create: shared
entities, and local ones for objects that are held.  No binding is stale then,
so clearing stale bindings away does nothing.

A binding may allocate two identifiers, and something else may allocate in
between.  Binding is therefore taken in two parts, which seek the identities
that are there or can be adopted, and attach the object to them.
-/

namespace Identity

variable {host : Host} {identityOf : LiveRef → ProjectId} {project : Project} {store : Store}
  {id : EntityId} {shared : SharedEntity} {transaction : Transaction}

/-- The record's object, if it is that of a local entity, is held. -/
def Held (host : Host) (record : Record) : Prop :=
  record.entityType = localType → ∀ object,
    record.attributes[objectField]? = some (.live object) → host.holds object = true

/-- Local entities may be created for objects that are held, where they refer to
the shared entity of the object's project.  Anything else may be created freely,
and nothing deleted. -/
def Founds (host : Host) (identityOf : LiveRef → ProjectId) (store : Store) (edit : Edit) : Prop :=
  Licensed identityOf store edit ∧ edit.Adds (Held host)

/-- A snapshot with one binding for each identity, all of objects that are
held. -/
structure Founded (host : Host) (identityOf : LiveRef → ProjectId) (store : Store) : Prop where
  coherent : store.Coherent
  installed : Installed store
  one : OneBinding identityOf store
  held : ∀ (id : EntityId) (record : Record), store.get? id = some record → Held host record

/-- Somebody holds an object, and asks for its one project. -/
structure Live (host : Host) (identityOf : LiveRef → ProjectId) (project : Project) : Prop where
  constant : project.id = identityOf project.object
  held : host.held[project.object]? = some project.className

theorem Live.holds (live : Live host identityOf project) : host.holds project.object = true := by
  rw [Host.holds, Std.ExtTreeMap.contains_eq_isSome_getElem?, live.held]
  rfl

/-! ## The two parts of a binding -/

/-- The binding of an object, or else the shared entity to bind it to. -/
def seek (host : Host) (project : Project) : Work (LocalEntity ⊕ SharedEntity) := do
  match ← Work.look (localOf? host · project) with
  | some bound =>
      let shared ← Work.look (sharedAt · bound.shared)
      if shared.projectId = project.id then return .inl bound
      else throw (ErrorKind.invariantViolation
        (.rebound project.description shared.id shared.projectId.text project.id.text) : Error)
  | none => return .inr (← adoptId project.id)

/-- Bind an object to a shared entity. -/
def attach (host : Host) (project : Project) (shared : SharedEntity) : Work LocalEntity := do
  pruneStale host shared
  let id ← Work.create localType
    [(sharedField, .ref shared.id), (objectField, .live project.object)]
  return ⟨id, shared.id, project.object⟩

theorem bind_eq (host : Host) (project : Project) :
    bind host project = (do
      match ← seek host project with
      | .inl bound => return bound
      | .inr shared => attach host project shared) := by
  rw [Identity.bind, seek, bind_assoc]
  refine bind_congr fun found => ?_
  cases found with
  | none => rw [bind_assoc]; rfl
  | some bound =>
      rw [bind_assoc]
      refine bind_congr fun shared => ?_
      by_cases claims : shared.projectId = project.id
      · rw [if_pos claims, if_pos claims, pure_bind]
      · rw [if_neg claims, if_neg claims]
        rfl

/-! ## What they write -/

theorem active_of_single {entityType field : String} {value : Value} {answer : Option EntityId}
    (looked : transaction.single entityType field value = .ok answer) :
    transaction.isActive = true := by
  rw [Transaction.single, Outcome.bind_eq_ok_iff] at looked
  rcases looked with ⟨store, current, -⟩
  exact (Transaction.current_eq_ok_iff.mp current).1

theorem active_of_localOf? {answer : Option LocalEntity}
    (looked : localOf? host transaction project = .ok answer) : transaction.isActive = true := by
  rw [localOf?, Outcome.bind_eq_ok_iff] at looked
  rcases looked with ⟨found, single, -⟩
  exact active_of_single single

theorem live_of_record {record : Record} (looked : Identity.record transaction id = .ok record) :
    transaction.store.get? id = some record := by
  rw [Identity.record, Outcome.bind_eq_ok_iff] at looked
  rcases looked with ⟨found, got, answered⟩
  rw [Transaction.get?, Outcome.bind_eq_ok_iff] at got
  rcases got with ⟨store, current, same⟩
  rw [(Transaction.current_eq_ok_iff.mp current).2]
  cases found with
  | none => cases answered
  | some other =>
      cases answered
      exact Except.ok.inj same

/-- Work that is never begun does nothing. -/
theorem Leads.of_impossible {α : Type} {permitted : Store → Edit → Prop} {limit : Nat}
    {before : Store → Prop} {work : Work α} {after : α → Store → Prop}
    (impossible : ∀ store, ¬ before store) : Leads permitted limit before work after :=
  fun _ met => (impossible _ met).elim

theorem adoptId_founds (projectId : ProjectId) :
    Leads (Founds host identityOf) 1 (fun store => store.Coherent ∧ Installed store)
      (adoptId projectId) fun own store =>
        own.projectId = projectId ∧ IsShared store own.id projectId := by
  unfold adoptId
  refine Leads.bind (Nat.le_refl (0 + 1)) Leads.look fun found => ?_
  cases found with
  | some own =>
      refine Leads.pure ?_
      rintro _ ⟨⟨coherent, installed⟩, transaction, rfl, looked⟩
      rcases sharedFor?_eq_ok (active_of_sharedFor? looked) coherent installed projectId with
        ⟨answer, same, answers⟩
      cases looked.symm.trans same
      exact (answers own).mp rfl
  | none =>
      refine Leads.bind (Nat.le_refl (1 + 0)) (Leads.create fun store _ => ⟨?_, fun id => ?_⟩)
        fun id => Leads.pure ?_
      · exact fun same => absurd same sharedType_ne_localType
      · exact fun same => absurd same sharedType_ne_localType
      · rintro next ⟨store, allocators, others, -, done⟩
        exact ⟨rfl, _, (Store.get?_of_create done id).trans (if_pos rfl), rfl, by simp [assemble]⟩

/-- Where all bound objects are held, no binding is cleared away. -/
theorem pruneStale_founds {permitted : Store → Edit → Prop} {before : Store → Prop}
    (founded : ∀ store, before store → Founded host identityOf store) (shared : SharedEntity) :
    Leads permitted 0 before (pruneStale host shared) fun _ => before := by
  unfold pruneStale
  refine Leads.bind (Nat.le_refl (0 + 0)) Leads.look fun found => ?_
  cases found with
  | none => exact Leads.pure fun _ met => met.1
  | some id =>
      refine Leads.bind (Nat.le_refl (0 + 0)) Leads.look fun record => ?_
      split
      · rename_i stale
        refine Leads.of_impossible ?_
        rintro _ ⟨⟨met, transaction, rfl, looked⟩, reader, same, read⟩
        have ⟨coherent, installed, _, held⟩ := founded _ met
        rcases single_reference_eq_ok (active_of_single looked) coherent installed shared.id with
          ⟨answer, single, binds⟩
        cases looked.symm.trans single
        rcases (binds id).mp rfl with ⟨object, bound, live, typed, -, wraps⟩
        cases live.symm.trans (same ▸ live_of_record read)
        rw [isStale_eq wraps, held id record live typed object wraps] at stale
        cases stale
      · exact Leads.pure fun _ met => met.1.1

variable (live : Live host identityOf project)
include live

theorem seek_founds :
    Leads (Founds host identityOf) 1 (Founded host identityOf) (seek host project)
      fun found store => found.elim
        (fun bound => bound.object = project.object ∧
          IsBound store bound.id bound.shared project.object ∧
          IsShared store bound.shared project.id)
        fun shared => IsShared store shared.id project.id := by
  unfold seek
  refine Leads.bind (Nat.le_refl (0 + 1)) Leads.look fun found => ?_
  cases found with
  | none =>
      refine Leads.bind (Nat.le_refl (1 + 0)) ((adoptId_founds project.id).mono ?_ fun _ _ met => met)
        fun shared => Leads.pure fun _ met => met.2
      exact fun store met => ⟨met.1.coherent, met.1.installed⟩
  | some bound =>
      refine Leads.bind (Nat.le_refl (0 + 1)) Leads.look fun shared => ?_
      split
      · refine Leads.pure ?_
        rintro _ ⟨⟨⟨coherent, installed, one, -⟩, transaction, rfl, looked⟩, -⟩
        rcases localOf?_eq_ok (active_of_localOf? looked) coherent installed live.held
          fun first second left right => one.oneForObject first second left right project.object with
          ⟨answer, same, answers⟩
        cases looked.symm.trans same
        rcases (answers bound).mp rfl with ⟨wraps, isBound⟩
        exact ⟨wraps, isBound, live.constant ▸ one.isShared isBound⟩
      · exact Leads.throw _

theorem attach_founds (shared : SharedEntity) :
    Leads (Founds host identityOf) 1
      (fun store => Founded host identityOf store ∧ IsShared store shared.id project.id)
      (attach host project shared) fun entity store =>
        entity = ⟨entity.id, shared.id, project.object⟩ ∧
          IsBound store entity.id shared.id project.object := by
  unfold attach
  refine Leads.bind (Nat.le_refl (0 + 1)) (pruneStale_founds (fun _ met => met.1) shared) fun _ => ?_
  have ⟨refers, wraps⟩ := assemble_binding shared.id project.object
  refine Leads.bind (Nat.le_refl (1 + 0)) (Leads.create fun store met => ⟨fun _ => ?_, fun id => ?_⟩)
    fun id => Leads.pure ?_
  · exact ⟨shared.id, project.object, rfl, fun projectId isShared =>
      (isShared.projectId_eq met.2).trans live.constant⟩
  · intro _ object held
    cases wraps.symm.trans held
    exact live.holds
  · rintro next ⟨store, allocators, others, -, done⟩
    exact ⟨rfl, _, (Store.get?_of_create done id).trans (if_pos rfl), rfl, refers, wraps⟩

end Identity

end EntityBase
