import EntityBase.Proofs.Identity.Adoption
import EntityBase.Proofs.Identity.Founding
import EntityBase.Proofs.Store.Effect

namespace EntityBase

/-!
# What attaching an object writes

A binding that has found the shared entity of its project attaches the object to
it.  It clears the binding of a dropped object away if there is one, and creates
the local entity.

Two things can stand in the way.  A stale binding may be protected, and the
shared entity may belong to an object that is still held.  Neither is met after
something has been written.  Once a stale binding has been cleared away, the
shared entity has no local entity any more, and the new one can be created.
-/

namespace Identity

variable {host : Host} {project : Project} {store : Store} {id shared stale : EntityId}
  {object : LiveRef} {projectId : ProjectId} {issued : List EntityId} {start middle now : Workspace}
  {own : SharedEntity}

/-! ## Local entities -/

/-- What is supplied for the local entity of an object. -/
abbrev bindingOf (shared : EntityId) (object : LiveRef) : List (String × Value) :=
  [(sharedField, .ref shared), (objectField, .live object)]

/-- The report of a shared entity that is bound to another object. -/
def boundElsewhere (shared : EntityId) : Error :=
  Error.atAttribute (.constraintViolation (.taken localType sharedField (.ref shared))) localType
    sharedField

/-- The pairs of a binding pass the first check where the shared entity is there. -/
theorem collect_binding (isShared : IsShared store shared projectId) (object : LiveRef) :
    store.collect localDeclaration ∅ (bindingOf shared object) =
      .ok (assemble (bindingOf shared object)) := by
  rcases isShared with ⟨record, live, typed, -⟩
  have known : localDeclaration.attribute? sharedField =
      some { field := sharedField, kind := .reference sharedType, unique := true, cascade := true } := by
    decide
  have alsoKnown : localDeclaration.attribute? objectField =
      some { field := objectField, kind := .transient, indexed := true } := by decide
  have different : sharedField ≠ objectField := by decide
  rw [Store.collect, Outcome.bind_eq_ok_iff]
  refine ⟨_, Store.attributeOf_eq_ok_iff.mpr known, ?_⟩
  rw [if_neg (by simp), Outcome.bind_eq_ok_iff]
  refine ⟨(), (Store.checkValue_eq_ok_iff _ _ _ _).mpr ⟨shared, record, rfl, live, typed⟩, ?_⟩
  rw [Store.collect, Outcome.bind_eq_ok_iff]
  refine ⟨_, Store.attributeOf_eq_ok_iff.mpr alsoKnown, ?_⟩
  rw [if_neg (by simp [Std.ExtTreeMap.contains_insert, different]), Outcome.bind_eq_ok_iff]
  exact ⟨(), (Store.checkValue_eq_ok_iff _ _ _ _).mpr ⟨object, rfl⟩, rfl⟩

/-- Only that the shared entity is bound already keeps it from being bound. -/
theorem draft_binding (coherent : store.Coherent) (installed : Installed store)
    (isShared : IsShared store shared projectId) (object : LiveRef) :
    ((∃ id other, IsBound store id shared other) →
      store.draft localType (bindingOf shared object) = .error (boundElsewhere shared)) ∧
    ((∀ id other, ¬ IsBound store id shared other) →
      store.draft localType (bindingOf shared object) =
        .ok ⟨localType, assemble (bindingOf shared object)⟩) := by
  have ⟨refers, wraps⟩ := assemble_binding shared object
  have taken : store.index.contains ⟨localType, sharedField, .ref shared⟩ = true ↔
      ∃ id other, IsBound store id shared other := by
    rw [coherent.index_contains_iff]
    simp only [holds_reference_iff coherent installed]
  have drafts : store.draft localType (bindingOf shared object) =
      (localDeclaration.attributes.forM
        (store.checkDeclared localType (assemble (bindingOf shared object))) >>= fun _ =>
          .ok ⟨localType, assemble (bindingOf shared object)⟩) := by
    rw [Store.draft, Store.declaration_eq_ok_iff.mpr installed.bound]
    change (store.collect localDeclaration ∅ (bindingOf shared object) >>= _) = _
    rw [collect_binding isShared]
    rfl
  constructor
  · intro bound
    rw [drafts, Outcome.check_bind_eq_error_iff]
    refine .inl (Outcome.check_bind_eq_error_iff.mpr (.inl ?_))
    rw [Store.checkDeclared, refers]
    exact if_pos ⟨rfl, taken.mpr bound⟩
  · intro free
    have passes : localDeclaration.attributes.forM
        (store.checkDeclared localType (assemble (bindingOf shared object))) = .ok () := by
      refine Outcome.forM_eq_ok_iff.mpr (List.forall_mem_cons.mpr ⟨?_, List.forall_mem_singleton.mpr ?_⟩)
      · rw [Store.checkDeclared, refers]
        refine if_neg fun conflict => ?_
        rcases taken.mp conflict.2 with ⟨id, other, isBound⟩
        exact free id other isBound
      · rw [Store.checkDeclared, wraps]
        refine if_neg fun conflict => ?_
        cases conflict.1
    rw [drafts, passes]
    rfl

/-- A shared entity refers to nothing. -/
theorem not_refers_of_shared (installed : Installed store) {record : Record}
    (live : store.get? id = some record) (typed : record.entityType = sharedType)
    {cascade : Bool} {target : EntityId} : ¬ store.Refers cascade id target := by
  rintro ⟨same, type, declared, sameLive, found, member, leads, -⟩
  cases live.symm.trans sameLive
  cases (typed ▸ found).symm.trans installed.shared
  rw [List.mem_singleton.mp member] at leads
  cases leads

/-- A shared entity depends on itself alone. -/
theorem IsShared.eq_of_depends {root : EntityId} (isShared : IsShared store id projectId)
    (installed : Installed store) (depends : store.Depends id root) : id = root := by
  rcases isShared with ⟨record, live, typed, -⟩
  rcases Relation.ReflTransGen.cases_head depends with same | ⟨target, refers, -⟩
  · exact same
  · exact absurd refers (not_refers_of_shared installed live typed)

theorem IsShared.ne_of_isBound {bound : EntityId} (isShared : IsShared store id projectId)
    (isBound : IsBound store bound shared object) : bound ≠ id := by
  rintro rfl
  rcases isShared with ⟨record, live, typed, -⟩
  rcases isBound with ⟨same, sameLive, sameTyped, -⟩
  cases live.symm.trans sameLive
  exact sharedType_ne_localType (typed.symm.trans sameTyped)

/-- A local entity has no plain reference. -/
theorem not_refers_of_local (installed : Installed store) {record : Record}
    (live : store.get? id = some record) (typed : record.entityType = localType)
    {target : EntityId} : ¬ store.Refers false id target := by
  rintro ⟨same, type, declared, sameLive, found, member, leads, plain, -⟩
  cases live.symm.trans sameLive
  cases (typed ▸ found).symm.trans installed.bound
  rcases List.mem_cons.mp member with rfl | last
  · cases plain
  · rw [List.mem_singleton.mp last] at leads
    cases leads

/-! ## What has been written -/

/-- Writes have taken the entities of a set away and created those that they
name, under identifiers that are new. -/
structure Wrote (issued : List EntityId) (start : Workspace) (swept : Set EntityId)
    (writes : List Write) (now : Workspace) : Prop where
  log : now.transaction.log = start.transaction.log ++ writes
  records : ∀ (id : EntityId) (record : Record), now.transaction.store.get? id = some record ↔
    (start.transaction.store.get? id = some record ∧ id ∉ swept) ∨
      ∃ entityType supplied, .create id entityType supplied ∈ writes ∧
        record = ⟨id, entityType, assemble supplied⟩
  once : (writes.filterMap Write.created?).Nodup
  new : ∀ id ∈ writes.filterMap Write.created?, id ∉ issued
  schema : now.transaction.store.schema = start.transaction.store.schema
  allocator : now.transaction.store.allocator = start.transaction.store.allocator
  /-- The counter has moved by the creations. -/
  ready : Ready (issued ++ writes.filterMap Write.created?) now

theorem Wrote.create (ready : Ready issued start) (few : issued.length < UInt64.size)
    {entityType : String} {supplied : List (String × Value)} {allocators : Allocators}
    (placed : start.transaction.store.create start.allocators entityType supplied =
      .ok (id, store, allocators)) :
    Wrote issued start ∅ [.create id entityType supplied] ⟨{ start.transaction with
      store
      log := start.transaction.log ++ [.create id entityType supplied] }, allocators⟩ := by
  have live := Store.get?_of_create placed
  rcases ready.create few placed with ⟨new, readyNow⟩
  have free := ready.within.get?_eq_none new
  rcases Store.create_eq_ok placed with ⟨draft, -, -, rfl, -⟩
  refine ⟨rfl, fun other record => ?_, List.nodup_singleton id, List.forall_mem_singleton.mpr new, rfl,
    rfl, readyNow⟩
  rw [live]
  by_cases same : id = other
  · subst same
    simp [free, eq_comm]
  · simp [same, Ne.symm same]

theorem Wrote.delete (ready : Ready issued start) {removed : List EntityId}
    (removes : start.transaction.store.delete id = .ok (store, removed)) :
    Wrote issued start {other | start.transaction.store.Depends other id} [.delete id]
      { start with transaction := { start.transaction with
        store
        log := start.transaction.log ++ [.delete id] } } := by
  have without := ready.coherent.without_deleteArranged removes
  have allocator := Store.allocator_deleteArranged removes
  refine ⟨rfl, fun other record => ?_, List.nodup_nil, by simp [Write.created?], without.schema,
    without.allocator, ?_⟩
  · simpa using without.records other record
  · have unchanged : issued ++ [Write.delete id].filterMap Write.created? = issued := by
      simp [Write.created?]
    rw [unchanged]
    exact ⟨ready.active, ready.coherent.delete removes, ready.installed.of_schema_eq without.schema,
      allocator.symm ▸ ready.accounts, allocator.symm ▸ ready.within.delete removes⟩

/-- More creations may follow. -/
theorem Wrote.trans {swept : Set EntityId} {writes more : List Write}
    (first : Wrote issued start swept writes middle)
    (second : Wrote (issued ++ writes.filterMap Write.created?) middle ∅ more now) :
    Wrote issued start swept (writes ++ more) now where
  log := by rw [second.log, first.log, List.append_assoc]
  records id record := by
    rw [second.records, first.records]
    simp only [Set.mem_empty_iff_false, not_false_eq_true, and_true, List.mem_append, or_and_right,
      exists_or, or_assoc]
  once := by
    rw [List.filterMap_append]
    refine first.once.append second.once fun id before after => ?_
    exact second.new id after (List.mem_append_right _ before)
  new id created := by
    rw [List.filterMap_append] at created
    rcases List.mem_append.mp created with before | after
    · exact first.new id before
    · exact fun old => second.new id after (List.mem_append_left _ old)
  schema := second.schema.trans first.schema
  allocator := second.allocator.trans first.allocator
  ready := by
    rw [List.filterMap_append, ← List.append_assoc]
    exact second.ready

/-! ## The steps of a binding -/

section Steps

variable (ready : Ready issued start)
include ready

theorem create_of_unbound (few : issued.length < UInt64.size)
    (isShared : IsShared start.transaction.store shared projectId)
    (free : ∀ id other, ¬ IsBound start.transaction.store id shared other) (object : LiveRef) :
    ∃ id now, Work.after (Work.create localType (bindingOf shared object)) start = (.ok id, now) ∧
      Wrote issued start ∅ [.create id localType (bindingOf shared object)] now := by
  have drafted := (draft_binding ready.coherent ready.installed isShared object).2 free
  have placed := Store.create_of_draft drafted start.allocators
  refine ⟨_, _, ?_, .create ready few placed⟩
  rw [Work.after_create, Transaction.create_of_placed ready.active placed]

theorem create_of_isBound {other : LiveRef}
    (isShared : IsShared start.transaction.store shared projectId)
    (isBound : IsBound start.transaction.store id shared other) (object : LiveRef) :
    Work.after (Work.create localType (bindingOf shared object)) start =
      (.error (boundElsewhere shared), start) := by
  have drafted := (draft_binding ready.coherent ready.installed isShared object).1 ⟨id, other, isBound⟩
  have refused : start.transaction.store.create start.allocators localType (bindingOf shared object) =
      .error (boundElsewhere shared) := by
    rw [Store.create, drafted]
    rfl
  rw [Work.after_create, Transaction.create_of_refused ready.active refused]

theorem pruneStale_of_unbound (free : ∀ id other, ¬ IsBound start.transaction.store id own.id other) :
    Work.after (pruneStale host own) start = (.ok (), start) := by
  rcases single_reference_eq_ok ready.active ready.coherent ready.installed own.id with
    ⟨answer, looked, binds⟩
  cases answer with
  | some id =>
      rcases (binds id).mp rfl with ⟨other, isBound⟩
      exact absurd isBound (free id other)
  | none =>
      rw [pruneStale, Work.after_bind, Work.after_look, looked]
      rfl

/-- A binding is cleared away if its object has been dropped. -/
theorem pruneStale_of_isBound (isBound : IsBound start.transaction.store id own.id object) :
    Work.after (pruneStale host own) start =
      if host.holds object = true then (.ok (), start)
      else match Work.after (Work.delete id) start with
        | (.ok _, now) => (.ok (), now)
        | (.error error, now) => (.error error, now) := by
  rcases single_reference_eq_ok ready.active ready.coherent ready.installed own.id with
    ⟨answer, looked, binds⟩
  cases (binds id).mpr ⟨object, isBound⟩
  rcases isBound with ⟨record, live, -, -, wraps⟩
  have read : Identity.record start.transaction id = .ok record := record_eq_ok ready.active live
  rw [pruneStale, Work.after_bind, Work.after_look, looked]
  change Work.after (Work.look (Identity.record · id) >>= _) start = _
  rw [Work.after_bind, Work.after_look, read]
  change Work.after (if isStale host record = true then Work.delete id >>= fun _ => Pure.pure ()
    else Pure.pure ()) start = _
  rw [isStale_eq wraps]
  cases host.holds object with
  | true => rfl
  | false =>
      change Work.after (Work.delete id >>= fun _ => Pure.pure ()) start = _
      rw [Work.after_bind]
      rcases Work.after (Work.delete id) start with ⟨outcome, now⟩
      cases outcome <;> rfl

/-- A binding that is stale and not protected is cleared away, with what depends
on it. -/
theorem pruneStale_of_stale (isBound : IsBound start.transaction.store stale own.id object)
    (dropped : host.holds object = false)
    (free : ¬ start.transaction.store.Protected
      {other | start.transaction.store.Depends other stale}) :
    ∃ now, Work.after (pruneStale host own) start = (.ok (), now) ∧
      Wrote issued start {other | start.transaction.store.Depends other stale} [.delete stale] now := by
  have ⟨record, live, _⟩ := isBound
  have present := (Store.contains_eq_true_iff start.transaction.store stale).mpr ⟨record, live⟩
  rcases ready.coherent.exists_deleteArranged_of_free .ascending present free with
    ⟨store, removed, removes⟩
  refine ⟨_, ?_, .delete ready removes⟩
  rw [pruneStale_of_isBound ready isBound, if_neg (by simp [dropped]), Work.after_delete,
    Transaction.delete_of_removes ready.active removes]

/-! ## Attaching an object -/

omit ready in
/-- Once nothing stale is in the way, the local entity is created. -/
theorem after_attach_of_pruned (pruned : Work.after (pruneStale host own) start = (.ok (), middle)) :
    Work.after (attach host project own) start =
      match Work.after (Work.create localType (bindingOf own.id project.object)) middle with
      | (.ok id, now) => (.ok ⟨id, own.id, project.object⟩, now)
      | (.error error, now) => (.error error, now) := by
  rw [attach, Work.after_bind, pruned]
  change Work.after (Work.create localType (bindingOf own.id project.object) >>= _) middle = _
  rw [Work.after_bind]
  rcases Work.after (Work.create localType (bindingOf own.id project.object)) middle with ⟨outcome, now⟩
  cases outcome <;> rfl

variable (host project own)

theorem attach_of_unbound (few : issued.length < UInt64.size)
    (isShared : IsShared start.transaction.store own.id projectId)
    (free : ∀ id other, ¬ IsBound start.transaction.store id own.id other) :
    ∃ id now, Work.after (attach host project own) start = (.ok ⟨id, own.id, project.object⟩, now) ∧
      Wrote issued start ∅ [.create id localType (bindingOf own.id project.object)] now := by
  rcases create_of_unbound ready few isShared free project.object with ⟨id, now, created, wrote⟩
  refine ⟨id, now, ?_, wrote⟩
  rw [after_attach_of_pruned (pruneStale_of_unbound ready free), created]

theorem attach_of_held (isShared : IsShared start.transaction.store own.id projectId)
    (isBound : IsBound start.transaction.store id own.id object) (holds : host.holds object = true) :
    Work.after (attach host project own) start = (.error (boundElsewhere own.id), start) := by
  have pruned : Work.after (pruneStale host own) start = (.ok (), start) := by
    rw [pruneStale_of_isBound ready isBound, if_pos holds]
  rw [after_attach_of_pruned pruned, create_of_isBound ready isShared isBound]

/-- A stale binding may be protected. -/
theorem attach_of_protected (isBound : IsBound start.transaction.store stale own.id object)
    (dropped : host.holds object = false)
    (outside : start.transaction.store.Protected
      {other | start.transaction.store.Depends other stale}) :
    ∃ owner victim field, ¬ start.transaction.store.Depends owner stale ∧
      start.transaction.store.Depends victim stale ∧
      start.transaction.store.Refers false owner victim ∧
      Work.after (attach host project own) start = (.error (ErrorKind.constraintViolation
        (.stillReferenced victim owner field)), start) := by
  have ⟨record, live, _⟩ := isBound
  have present := (Store.contains_eq_true_iff start.transaction.store stale).mpr ⟨record, live⟩
  rcases ready.coherent.deleteArranged_of_outside .ascending present outside with
    ⟨owner, victim, field, stays, goes, refers, refused⟩
  refine ⟨owner, victim, field, stays, goes, refers, ?_⟩
  rw [attach, Work.after_bind, pruneStale_of_isBound ready isBound, if_neg (by simp [dropped]),
    Work.after_delete, Transaction.delete_of_refused ready.active refused]

/-- A stale binding that is not protected makes room. -/
theorem attach_of_stale (few : issued.length < UInt64.size)
    (isShared : IsShared start.transaction.store own.id projectId)
    (isBound : IsBound start.transaction.store stale own.id object)
    (dropped : host.holds object = false)
    (free : ¬ start.transaction.store.Protected
      {other | start.transaction.store.Depends other stale}) :
    ∃ id now, Work.after (attach host project own) start = (.ok ⟨id, own.id, project.object⟩, now) ∧
      Wrote issued start {other | start.transaction.store.Depends other stale}
        [.delete stale, .create id localType (bindingOf own.id project.object)] now := by
  rcases pruneStale_of_stale ready isBound dropped free with ⟨middle, pruned, cleared⟩
  -- The shared entity refers to nothing, so it stays, without any binding.
  have stays : IsShared middle.transaction.store own.id projectId := by
    have ⟨shared, live, shape⟩ := isShared
    refine ⟨shared, (cleared.records _ _).mpr (.inl ⟨live, fun goes => ?_⟩), shape⟩
    exact isShared.ne_of_isBound isBound (isShared.eq_of_depends ready.installed goes).symm
  have unbound : ∀ id other, ¬ IsBound middle.transaction.store id own.id other := by
    rintro id other ⟨last, lastLive, shape⟩
    rcases (cleared.records id last).mp lastLive with ⟨before, kept⟩ | ⟨_, _, created, -⟩
    · have same : id = stale :=
        IsBound.id_eq ready.coherent ready.installed ⟨last, before, shape⟩ isBound
      exact kept (same ▸ Relation.ReflTransGen.refl)
    · simp at created
  have fewThen : (issued ++ [Write.delete stale].filterMap Write.created?).length < UInt64.size := by
    simpa [List.filterMap_cons, Write.created?] using few
  rcases create_of_unbound cleared.ready fewThen stays unbound project.object with
    ⟨id, now, created, wrote⟩
  refine ⟨id, now, ?_, cleared.trans wrote⟩
  rw [after_attach_of_pruned pruned, created]

end Steps

end Identity

end EntityBase
