import Mathlib.Data.List.Permutation
import Mathlib.Order.Bounds.Defs
import EntityBase.Proofs.Store.History
import EntityBase.Proofs.Store.References

namespace EntityBase

/-!
# The exact effect of a delete

On a live entity a delete has two outcomes, and the references alone settle
which.  They determine the least set of entities that goes with the one that
was asked for.  Either a plain reference leads into that set from outside, and
the delete is refused with such a reference named; or the set is removed and
nothing else, and each member is listed once.

The walk puts an entity on its stack for every path that leads to it.  That it
lists no entity twice is therefore a fact about the walk and not about the
references.  An entity is no longer among the unvisited ones once it has been
entered, and from then on it waits to be left exactly once.
-/

namespace Store

variable {store next : Store} {arrangement : Arrangement} {id root victim : EntityId}
  {removed doomed : List EntityId} {referrer : Referrer}

/-- A set that goes with an entity: it has the entity, and with each member
whatever refers to that member by a cascading reference. -/
structure Sweeps (store : Store) (root : EntityId) (swept : Set EntityId) : Prop where
  root : root ∈ swept
  dependents : ∀ owner target, target ∈ swept → store.Refers true owner target → owner ∈ swept

/-- A plain reference leads into a set from outside. -/
def Protected (store : Store) (swept : Set EntityId) : Prop :=
  ∃ owner victim, owner ∉ swept ∧ victim ∈ swept ∧ store.Refers false owner victim

/-- One snapshot is another without the entities of a set, and a list names
each of these once. -/
structure Without (store : Store) (swept : Set EntityId) (next : Store)
    (removed : List EntityId) : Prop where
  once : removed.Nodup
  names : ∀ id, id ∈ removed ↔ id ∈ swept
  records : ∀ (id : EntityId) (record : Record),
    next.get? id = some record ↔ store.get? id = some record ∧ id ∉ swept
  schema : next.schema = store.schema
  allocator : next.allocator = store.allocator

/-! ## No entity is listed twice -/

/-- An entity is left once for each time that it waits to be left, and once
more if it has yet to be entered. -/
theorem count_walk_le (store : Store) (arrangement : Arrangement) (unvisited : EntitySet)
    (stack : List CascadeStep) (id : EntityId) :
    (store.walk arrangement unvisited stack).count id ≤
      stack.count (.leave id) + if id ∈ unvisited then 1 else 0 := by
  fun_induction walk store arrangement unvisited stack with
  | case1 unvisited => simp
  | case2 unvisited left rest ih =>
      rw [List.count_cons, List.count_cons]
      by_cases same : left = id
      · subst same
        simp only [beq_self_eq_true, if_true]
        omega
      · simpa [same] using ih
  | case3 unvisited entered rest unseen remaining waiting ih =>
      have noneLeaves : (waiting.reverse.map CascadeStep.enter).count (.leave id) = 0 :=
        List.count_eq_zero_of_not_mem (by simp)
      rw [List.count_append, noneLeaves, List.count_cons] at ih
      rw [List.count_cons_of_ne (by simp)]
      by_cases same : entered = id
      · -- It waits to be left now, and is no longer among the unvisited.
        subst same
        have gone : entered ∉ remaining := by simp [remaining]
        simpa [gone, unseen] using ih
      · have kept : id ∈ remaining ↔ id ∈ unvisited := by
          simp [remaining, Std.ExtTreeSet.mem_erase, same]
        simpa [same, kept] using ih
  | case4 unvisited entered rest seen ih =>
      rwa [List.count_cons_of_ne (by simp)]

theorem nodup_cascadeOrder (store : Store) (arrangement : Arrangement) (root : EntityId) :
    (store.cascadeOrder arrangement root).Nodup := by
  rw [List.nodup_iff_count_le_one]
  intro id
  have bound := count_walk_le store arrangement (store.index.members.insert root) [.enter root] id
  rw [List.count_cons_of_ne (by simp), List.count_nil, Nat.zero_add] at bound
  refine Nat.le_trans bound ?_
  split <;> omega

/-! ## The outcomes -/

theorem deleteArranged_of_absent (absent : store.contains id = false) :
    store.deleteArranged arrangement id = .error (ErrorKind.entityNotFound id) := by
  simp [deleteArranged, absent]

theorem deleteArranged_of_protected (live : store.contains id = true)
    (protects : store.protection? arrangement (store.cascadeOrder arrangement id) =
      some (victim, referrer)) :
    store.deleteArranged arrangement id = .error
      (ErrorKind.constraintViolation (.stillReferenced victim referrer.owner referrer.field)) := by
  simp [deleteArranged, live, protects]

/-- The reference that protects a list leads into it from outside. -/
theorem of_protection?_eq_some
    (protects : store.protection? arrangement doomed = some (victim, referrer)) :
    victim ∈ doomed ∧ referrer ∈ store.referrers arrangement false victim ∧
      referrer.owner ∉ doomed := by
  rcases List.exists_of_findSome?_eq_some protects with ⟨other, member, found⟩
  rcases Option.map_eq_some_iff.mp found with ⟨first, picked, same⟩
  cases same
  exact ⟨member, List.mem_of_find?_eq_some picked, by simpa using List.find?_some picked⟩

/-- What depends on an entity is the least set that goes with it. -/
theorem isLeast_depends (store : Store) (root : EntityId) :
    IsLeast {swept | store.Sweeps root swept} {id | store.Depends id root} := by
  constructor
  · exact ⟨.refl, fun _ _ depends refers => .head refers depends⟩
  · intro swept sweeps id depends
    induction depends using Relation.ReflTransGen.head_induction_on with
    | refl => exact sweeps.root
    | head refers _ ih => exact sweeps.dependents _ _ ih refers

/-- A delete of a protected set is refused, and names a reference by which it
is protected. -/
theorem Coherent.deleteArranged_of_outside (coherent : store.Coherent)
    (arrangement : Arrangement) (live : store.contains id = true)
    (outside : store.Protected {other | store.Depends other id}) :
    ∃ owner victim field, ¬ store.Depends owner id ∧ store.Depends victim id ∧
      store.Refers false owner victim ∧ store.deleteArranged arrangement id =
        .error (ErrorKind.constraintViolation (.stillReferenced victim owner field)) := by
  cases protection : store.protection? arrangement (store.cascadeOrder arrangement id) with
  | none =>
      rcases outside with ⟨owner, victim, stays, goes, refers⟩
      rcases (coherent.mem_referrers_owner_iff arrangement).mpr refers with ⟨referrer, listed, rfl⟩
      have member := (coherent.mem_cascadeOrder_iff arrangement).mpr goes
      have alsoGoes := protection?_eq_none_iff.mp protection victim member referrer listed
      exact absurd ((coherent.mem_cascadeOrder_iff arrangement).mp alsoGoes) stays
  | some found =>
      rcases found with ⟨victim, referrer⟩
      rcases of_protection?_eq_some protection with ⟨goes, listed, stays⟩
      rw [coherent.mem_cascadeOrder_iff] at goes stays
      have refers := (coherent.mem_referrers_owner_iff arrangement).mp ⟨referrer, listed, rfl⟩
      exact ⟨referrer.owner, victim, referrer.field, stays, goes, refers,
        deleteArranged_of_protected live protection⟩

/-- A delete of a live entity that is not protected is carried out. -/
theorem Coherent.exists_deleteArranged_of_free (coherent : store.Coherent)
    (arrangement : Arrangement) (live : store.contains id = true)
    (free : ¬ store.Protected {other | store.Depends other id}) :
    ∃ next removed, store.deleteArranged arrangement id = .ok (next, removed) := by
  refine (coherent.exists_deleteArranged_iff arrangement).mpr ⟨live, fun owner victim goes refers => ?_⟩
  by_contra stays
  exact free ⟨owner, victim, stays, goes, refers⟩

theorem Coherent.without_deleteArranged (coherent : store.Coherent)
    (done : store.deleteArranged arrangement id = .ok (next, removed)) :
    store.Without {other | store.Depends other id} next removed where
  once := by
    rcases deleteArranged_eq_ok done with ⟨-, rfl, -, -⟩
    exact nodup_cascadeOrder store arrangement id
  names other := by
    rcases deleteArranged_eq_ok done with ⟨-, rfl, -, -⟩
    exact coherent.mem_cascadeOrder_iff arrangement
  records _ _ := coherent.get?_deleteArranged_iff done
  schema := schema_deleteArranged done
  allocator := allocator_deleteArranged done

end Store

/-! ## Deletes in lawful histories -/

namespace World

variable {world : World} {store : Store}

/-- What a delete does on any snapshot of a lawful history, up to the wrap of
the counter, and for any arrangement of the index entries.  An entity that is
not live is not found.  For one that is, what is doomed is the least set that
has it and, with each member, whatever refers to that member by a cascading
reference.  If that set is protected, the delete is refused for a reference by
which it is; and otherwise exactly the set is removed. -/
theorem delete_of_lawful (lawful : world.Lawful) (member : store ∈ world.stores)
    (few : (world.issued store.allocator).length < UInt64.size) (arrangement : Arrangement)
    (id : EntityId) :
    (store.contains id = false →
      store.deleteArranged arrangement id = .error (ErrorKind.entityNotFound id)) ∧
    (store.contains id = true →
      ∃ doomed : Set EntityId, IsLeast {swept | store.Sweeps id swept} doomed ∧
        (store.Protected doomed →
          ∃ owner victim field, owner ∉ doomed ∧ victim ∈ doomed ∧
            store.Refers false owner victim ∧ store.deleteArranged arrangement id =
              .error (ErrorKind.constraintViolation (.stillReferenced victim owner field))) ∧
        (¬ store.Protected doomed →
          ∃ next removed, store.deleteArranged arrangement id = .ok (next, removed) ∧
            store.Without doomed next removed)) := by
  have coherent := (lawful.keeps member).coherent few
  refine ⟨Store.deleteArranged_of_absent, fun live => ?_⟩
  refine ⟨{other | store.Depends other id}, store.isLeast_depends id, ?_, ?_⟩
  · exact coherent.deleteArranged_of_outside arrangement live
  · intro free
    rcases coherent.exists_deleteArranged_of_free arrangement live free with ⟨next, removed, done⟩
    exact ⟨next, removed, done, coherent.without_deleteArranged done⟩

/-! ### Two projects for example -/

namespace Sample

def project : EntityType :=
  { name := "Project", attributes := [] }

def team : EntityType :=
  { name := "Team"
    attributes := [{ field := "of", kind := .reference "Project", cascade := true }] }

/-- A task goes with its team, but protects the project that it is for. -/
def task : EntityType :=
  { name := "Task"
    attributes := [
      { field := "team", kind := .reference "Team", cascade := true },
      { field := "for", kind := .reference "Project" }] }

/-- A note goes with its task and with the team that wrote it. -/
def note : EntityType :=
  { name := "Note"
    attributes := [
      { field := "on", kind := .reference "Task", cascade := true },
      { field := "by", kind := .reference "Team", cascade := true }] }

/-- The second project has a team with two tasks and a note on the first of
them.  The first task is for that project too, and the second for the other
one. -/
def projects : World :=
  ([.register project, .register team, .register task, .register note,
    .create "Project" [], .create "Project" [], .create "Team" [("of", .ref ⟨1⟩)],
    .create "Task" [("team", .ref ⟨2⟩), ("for", .ref ⟨1⟩)],
    .create "Task" [("team", .ref ⟨2⟩), ("for", .ref ⟨0⟩)],
    .create "Note" [("on", .ref ⟨3⟩), ("by", .ref ⟨2⟩)]] :
    List StoreCall).foldl World.advance ({} : World).withNew

theorem lawful_projects : projects.Lawful :=
  Lawful.advances (.new .start) (by simp [StoreCall.inserted?])

theorem newest_projects :
    (projects.stores.head?.map fun store =>
      ((projects.issued store.allocator).length,
        (store.contains ⟨9⟩, store.contains ⟨0⟩, store.contains ⟨1⟩),
        (store.delete ⟨0⟩).toOption.map fun (_, removed) => removed,
        (store.delete ⟨1⟩).toOption.map fun (_, removed) => removed)) =
      some (6, (false, true, true), none, some [⟨5⟩, ⟨4⟩, ⟨3⟩, ⟨2⟩, ⟨1⟩]) := by
  cbv

end Sample

/-- All three outcomes.  There is no entity 9.  The first project is protected
by a task of the other one's team.  The second project goes with everything
else, although its task protects it and the note is reached in two ways. -/
theorem delete_of_lawful_projects : ∃ store ∈ Sample.projects.stores, Sample.projects.Lawful ∧
    (Sample.projects.issued store.allocator).length < UInt64.size ∧
    store.deleteArranged .ascending ⟨9⟩ = .error (ErrorKind.entityNotFound ⟨9⟩) ∧
    (∃ doomed : Set EntityId, IsLeast {swept | store.Sweeps ⟨0⟩ swept} doomed ∧
      ∃ owner victim field, owner ∉ doomed ∧ victim ∈ doomed ∧ store.Refers false owner victim ∧
        store.deleteArranged .ascending ⟨0⟩ =
          .error (ErrorKind.constraintViolation (.stillReferenced victim owner field))) ∧
    ∃ doomed : Set EntityId, IsLeast {swept | store.Sweeps ⟨1⟩ swept} doomed ∧
      ∃ next, store.deleteArranged .ascending ⟨1⟩ = .ok (next, [⟨5⟩, ⟨4⟩, ⟨3⟩, ⟨2⟩, ⟨1⟩]) ∧
        store.Without doomed next [⟨5⟩, ⟨4⟩, ⟨3⟩, ⟨2⟩, ⟨1⟩] := by
  rcases Option.map_eq_some_iff.mp Sample.newest_projects with ⟨store, newest, summary⟩
  simp only [Prod.mk.injEq, Store.delete, Option.map_eq_none_iff] at summary
  rcases summary with ⟨issued, ⟨absent, firstLive, secondLive⟩, refused, removed⟩
  have member := List.mem_of_mem_head? newest
  have few : (Sample.projects.issued store.allocator).length < UInt64.size := by rw [issued]; decide
  have outcome := delete_of_lawful Sample.lawful_projects member few .ascending
  refine ⟨store, member, Sample.lawful_projects, few, (outcome ⟨9⟩).1 absent, ?_, ?_⟩
  · rcases (outcome ⟨0⟩).2 firstLive with ⟨doomed, least, refuses, removes⟩
    refine ⟨doomed, least, refuses ?_⟩
    by_contra free
    rcases removes free with ⟨next, all, done, -⟩
    rw [done] at refused
    cases refused
  · rcases (outcome ⟨1⟩).2 secondLive with ⟨doomed, least, refuses, removes⟩
    have free : ¬ store.Protected doomed := by
      intro outside
      rcases refuses outside with ⟨_, _, _, -, -, -, failed⟩
      rw [failed] at removed
      cases removed
    rcases removes free with ⟨next, all, done, without⟩
    rw [done] at removed
    cases Option.some.inj removed
    exact ⟨doomed, least, next, done, without⟩

end World

end EntityBase
