import EntityBase.Proofs.Identity.Lookups
import EntityBase.Proofs.Identity.Work

namespace EntityBase

/-!
# Which local entities are created

Local entities are created by binding alone, and only with a reference to the
shared entity of the project that the object claims.  More exactly: when the
creation is made, the entity that is referred to has that project's identifier
if it is a shared entity at all.  Between finding the shared entity and creating
the local one, a stale binding may be cleared away.  That deletes entities, but
what it leaves is unchanged, so what was found still says the same if it is
still there.
-/

namespace Identity

/-- Local entities may be created where they refer to the shared entity of
their object's project.  Anything else may be created and deleted freely. -/
def Licensed (identityOf : LiveRef → ProjectId) (store : Store) : Edit → Prop
  | .create entityType supplied => entityType = localType →
      ∃ shared object, supplied = [(sharedField, .ref shared), (objectField, .live object)] ∧
        ∀ projectId, IsShared store shared projectId → projectId = identityOf object
  | .delete _ => True

variable {identityOf : LiveRef → ProjectId} {store next : Store} {id : EntityId}
  {projectId : ProjectId} {host : Host} {project : Project}

theorem sharedType_ne_localType : sharedType ≠ localType := by
  decide

theorem active_of_sharedFor? {transaction : Transaction} {answer : Option SharedEntity}
    (looked : sharedFor? transaction projectId = .ok answer) : transaction.isActive = true := by
  rw [sharedFor?, Outcome.bind_eq_ok_iff] at looked
  rcases looked with ⟨found, single, -⟩
  rw [Transaction.single, Outcome.bind_eq_ok_iff] at single
  rcases single with ⟨store, current, -⟩
  exact (Transaction.current_eq_ok_iff.mp current).1

theorem isShared_of_delete {removed : List EntityId}
    (done : store.delete id = .ok (next, removed)) {other : EntityId}
    (isShared : IsShared next other projectId) : IsShared store other projectId := by
  rcases isShared with ⟨record, live, typed, held⟩
  exact ⟨record, ((Store.get?_deleteArranged_iff done other record).mp live).1, typed, held⟩

/-- A new shared entity has the project identifier that was asked for. -/
theorem projectId_eq_of_create {allocators after : Allocators} {asked : ProjectId}
    (done : store.create allocators sharedType [(projectIdField, projectKey asked)] =
      .ok (id, next, after)) (isShared : IsShared next id projectId) : projectId = asked := by
  refine isShared.projectId_eq ⟨_, (Store.get?_of_create done id).trans (if_pos rfl), rfl, ?_⟩
  simp [assemble]

/-! ## Operations -/

theorem adoptId_leads (projectId : ProjectId) :
    Leads (Licensed identityOf) 1 (fun store => store.Coherent ∧ Installed store)
      (adoptId projectId) fun shared store =>
        ∀ other, IsShared store shared.id other → other = projectId := by
  unfold adoptId
  refine Leads.bind (Nat.le_refl (0 + 1)) Leads.look fun found => ?_
  cases found with
  | some shared =>
      refine Leads.pure ?_
      rintro _ ⟨⟨coherent, installed⟩, transaction, rfl, looked⟩ other isShared
      rcases sharedFor?_eq_ok (active_of_sharedFor? looked) coherent installed projectId with
        ⟨answer, same, answers⟩
      cases looked.symm.trans same
      rcases (answers shared).mp rfl with ⟨rfl, asked⟩
      exact isShared.projectId_eq asked
  | none =>
      refine Leads.bind (Nat.le_refl (1 + 0))
        (Leads.create fun _ _ same => absurd same sharedType_ne_localType) fun id => Leads.pure ?_
      rintro next ⟨store, allocators, others, -, done⟩ other isShared
      exact projectId_eq_of_create done isShared

theorem adoptId_edits (projectId : ProjectId) : Edits 1 (adoptId projectId) := by
  unfold adoptId
  refine Leads.bind (Nat.le_refl (0 + 1)) Leads.look fun found => ?_
  cases found with
  | some shared => exact Leads.pure fun _ _ => trivial
  | none =>
      exact Leads.bind (Nat.le_refl (1 + 0)) (Leads.create fun _ _ => trivial)
        fun id => Leads.pure fun _ _ => trivial

/-- Clearing a stale binding away keeps what deletes keep. -/
theorem pruneStale_leads {permitted : Store → Edit → Prop} {keeps : Store → Prop}
    (deletable : ∀ store id, permitted store (.delete id))
    (kept : ∀ (store next : Store) (id : EntityId) (removed : List EntityId), keeps store →
      store.delete id = .ok (next, removed) → keeps next) (shared : SharedEntity) :
    Leads permitted 0 keeps (pruneStale host shared) fun _ => keeps := by
  unfold pruneStale
  refine Leads.bind (Nat.le_refl (0 + 0)) Leads.look fun found => ?_
  cases found with
  | none => exact Leads.pure fun _ ⟨met, _⟩ => met
  | some id =>
      refine Leads.bind (Nat.le_refl (0 + 0)) Leads.look fun record => ?_
      split
      · refine Leads.bind (Nat.le_refl (0 + 0)) (Leads.delete fun store _ => deletable store id)
          fun removed => ?_
        exact Leads.pure fun next ⟨store, ⟨⟨met, _⟩, _⟩, done⟩ => kept store next id removed met done
      · exact Leads.pure fun _ ⟨⟨met, _⟩, _⟩ => met

theorem bind_leads (constant : project.id = identityOf project.object) :
    Leads (Licensed identityOf) 2 (fun store => store.Coherent ∧ Installed store)
      (bind host project) fun _ _ => True := by
  unfold Identity.bind
  refine Leads.bind (Nat.le_refl (0 + 2)) Leads.look fun found => ?_
  cases found with
  | some bound =>
      refine Leads.bind (Nat.le_refl (0 + 2)) Leads.look fun shared => ?_
      split
      · exact Leads.pure fun _ _ => trivial
      · exact Leads.throw _
  | none =>
      refine Leads.bind (Nat.le_refl (1 + 1))
        ((adoptId_leads project.id).mono (fun _ met => met.1) fun _ _ met => met) fun shared => ?_
      refine Leads.bind (Nat.le_refl (0 + 1)) (pruneStale_leads (fun _ _ => trivial) ?_ shared) fun _ => ?_
      · exact fun store next id removed met done other isShared =>
          met other (isShared_of_delete done isShared)
      · refine Leads.bind (Nat.le_refl (1 + 0)) (Leads.create fun store met _ => ?_)
          fun id => Leads.pure fun _ _ => trivial
        exact ⟨shared.id, project.object, rfl, fun other isShared => constant ▸ met other isShared⟩

theorem bind_edits (host : Host) (project : Project) : Edits 2 (bind host project) := by
  unfold Identity.bind
  refine Leads.bind (Nat.le_refl (0 + 2)) Leads.look fun found => ?_
  cases found with
  | some bound =>
      refine Leads.bind (Nat.le_refl (0 + 2)) Leads.look fun shared => ?_
      split
      · exact Leads.pure fun _ _ => trivial
      · exact Leads.throw _
  | none =>
      refine Leads.bind (Nat.le_refl (1 + 1))
        ((adoptId_edits project.id).mono (fun _ _ => trivial) fun _ _ met => met) fun shared => ?_
      refine Leads.bind (Nat.le_refl (0 + 1))
        (pruneStale_leads (fun _ _ => trivial) (fun _ _ _ _ met _ => met) shared) fun _ => ?_
      exact Leads.bind (Nat.le_refl (1 + 0)) (Leads.create fun _ _ => trivial)
        fun id => Leads.pure fun _ _ => trivial

theorem unbind_leads {permitted : Store → Edit → Prop}
    (deletable : ∀ store id, permitted store (.delete id)) (before : Store → Prop) :
    Leads permitted 0 before (unbind host project) fun _ _ => True := by
  unfold unbind
  refine Leads.bind (Nat.le_refl (0 + 0)) Leads.look fun found => ?_
  cases found with
  | none => exact Leads.pure fun _ _ => trivial
  | some bound =>
      exact Leads.bind (Nat.le_refl (0 + 0)) (Leads.delete fun store _ => deletable store bound.id)
        fun _ => Leads.pure fun _ _ => trivial

theorem teardown_leads {permitted : Store → Edit → Prop}
    (deletable : ∀ store id, permitted store (.delete id)) (before : Store → Prop) :
    Leads permitted 0 before (teardown projectId) fun _ _ => True := by
  unfold teardown
  refine Leads.bind (Nat.le_refl (0 + 0)) Leads.look fun found => ?_
  cases found with
  | none => exact Leads.pure fun _ _ => trivial
  | some shared =>
      exact (Leads.delete fun store _ => deletable store shared.id).mono (fun _ met => met)
        fun _ _ _ => trivial

end Identity

end EntityBase
