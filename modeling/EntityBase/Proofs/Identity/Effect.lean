import EntityBase.Proofs.Identity.Attachment

namespace EntityBase

/-!
# The exact effect of a binding

What a binding does depends on what there is of the project's identity.  The
object may be bound already; another object may be bound in its place, which is
held or has been dropped; there may be the shared entity alone, or not even
that.  No two of these go together, since an identity has one shared entity, and
this has one local entity.

A binding writes up to three times, and what has been written stays written when
a later step fails.  That it is made completely or not at all is therefore not a
matter of course.  But only those steps fail that find another binding of the
identity, and then nothing has been written yet.
-/

namespace Identity

variable {host : Host} {identityOf : LiveRef → ProjectId} {project : Project}
  {issued : List EntityId} {start now : Workspace} {id shared : EntityId} {object : LiveRef}

/-- The lookups of a transaction about an object find one binding of it. -/
structure Finds (host : Host) (project : Project) (bound : LocalEntity) (transaction : Transaction) :
    Prop where
  localOf : localOf? host transaction project = .ok (some bound)
  sharedOf : sharedOf? host transaction project = .ok (some ⟨bound.shared, project.id⟩)
  sharedFor : sharedFor? transaction project.id = .ok (some ⟨bound.shared, project.id⟩)
  isBound : isBound transaction project = .ok true
  /-- Whatever shared entity of the project is asked about, the object is found. -/
  projectOf : ∀ received : SharedEntity, received.projectId = project.id →
    projectOf host transaction project.className received = .ok project.object

/-- What a binding does to a workspace. -/
structure BindEffect (host : Host) (project : Project) (issued : List EntityId) (start : Workspace)
    (outcome : Except Error LocalEntity) (now : Workspace) : Prop where
  /-- An object that is bound keeps its binding. -/
  already : ∀ id shared, IsBound start.transaction.store id shared project.object →
    outcome = .ok ⟨id, shared, project.object⟩ ∧ now = start
  /-- It is refused if another object is bound that is still held. -/
  contested : ∀ id shared object, IsShared start.transaction.store shared project.id →
    IsBound start.transaction.store id shared object → object ≠ project.object →
    host.holds object = true → outcome = .error (boundElsewhere shared) ∧ now = start
  /-- It is refused if the object bound has been dropped, but a plain reference
  protects the binding or something that would go with it. -/
  guarded : ∀ stale shared object, IsShared start.transaction.store shared project.id →
    IsBound start.transaction.store stale shared object → host.holds object = false →
    start.transaction.store.Protected {other | start.transaction.store.Depends other stale} →
    ∃ owner victim field, ¬ start.transaction.store.Depends owner stale ∧
      start.transaction.store.Depends victim stale ∧
      start.transaction.store.Refers false owner victim ∧
      outcome = .error (ErrorKind.constraintViolation (.stillReferenced victim owner field)) ∧
      now = start
  /-- Unprotected, the binding of a dropped object is replaced. -/
  replaced : ∀ stale shared object, IsShared start.transaction.store shared project.id →
    IsBound start.transaction.store stale shared object → host.holds object = false →
    ¬ start.transaction.store.Protected {other | start.transaction.store.Depends other stale} →
    ∃ id, outcome = .ok ⟨id, shared, project.object⟩ ∧
      Wrote issued start {other | start.transaction.store.Depends other stale}
        [.delete stale, .create id localType (bindingOf shared project.object)] now
  /-- A shared entity that has no binding gets one. -/
  attached : ∀ shared, IsShared start.transaction.store shared project.id →
    (∀ id object, ¬ IsBound start.transaction.store id shared object) →
    ∃ id, outcome = .ok ⟨id, shared, project.object⟩ ∧
      Wrote issued start ∅ [.create id localType (bindingOf shared project.object)] now
  /-- A project that has no shared entity gets both. -/
  founded : (∀ shared, ¬ IsShared start.transaction.store shared project.id) →
    ∃ id shared, outcome = .ok ⟨id, shared, project.object⟩ ∧
      Wrote issued start ∅ [.create shared sharedType [(projectIdField, projectKey project.id)],
        .create id localType (bindingOf shared project.object)] now

/-- A binding that fails has found another one of the identity, and has written
nothing.  After one that succeeds, the object is found. -/
inductive AllOrNothing (host : Host) (project : Project) (start : Workspace) :
    Except Error LocalEntity → Workspace → Prop where
  | nothing (error : Error) (violation : error.isConstraintViolation = true) :
      AllOrNothing host project start (.error error) start
  | all (bound : LocalEntity) (now : Workspace) (finds : Finds host project bound now.transaction) :
      AllOrNothing host project start (.ok bound) now

theorem Live.ne_of_dropped (live : Live host identityOf project) (dropped : host.holds object = false) :
    object ≠ project.object := by
  rintro rfl
  rw [live.holds] at dropped
  cases dropped

theorem attach_edits (host : Host) (project : Project) (own : SharedEntity) :
    Edits 1 (attach host project own) := by
  unfold attach
  refine Leads.bind (Nat.le_refl (0 + 1))
    (pruneStale_leads (fun _ _ => trivial) (fun _ _ _ _ met _ => met) own) fun _ => ?_
  exact Leads.bind (Nat.le_refl (1 + 0)) (Leads.create fun _ _ => trivial)
    fun id => Leads.pure fun _ _ => trivial

/-! ## What is there afterwards -/

section Afterwards

variable {swept : Set EntityId} {writes : List Write} {projectId : ProjectId}
  (wrote : Wrote issued start swept writes now)
include wrote

theorem Wrote.isShared_of_created
    (created : .create shared sharedType [(projectIdField, projectKey projectId)] ∈ writes) :
    IsShared now.transaction.store shared projectId :=
  ⟨_, (wrote.records _ _).mpr (.inr ⟨_, _, created, rfl⟩), rfl, by simp [assemble]⟩

theorem Wrote.isBound_of_created
    (created : .create id localType (bindingOf shared object) ∈ writes) :
    IsBound now.transaction.store id shared object := by
  have ⟨refers, wraps⟩ := assemble_binding shared object
  exact ⟨_, (wrote.records _ _).mpr (.inr ⟨_, _, created, rfl⟩), rfl, refers, wraps⟩

/-- A shared entity that was there is the same as long as it is bound. -/
theorem Wrote.isShared_of_isBound (ready : Ready issued start)
    (before : IsShared start.transaction.store shared projectId)
    (isBound : IsBound now.transaction.store id shared object) :
    IsShared now.transaction.store shared projectId := by
  rcases isBound.exists_isShared wrote.ready.coherent wrote.ready.installed with
    ⟨other, record, live, shape⟩
  rcases before with ⟨old, oldLive, oldShape⟩
  rcases (wrote.records shared record).mp live with ⟨same, -⟩ | ⟨entityType, supplied, created, -⟩
  · cases oldLive.symm.trans same
    exact ⟨record, live, oldShape⟩
  · have new := wrote.new shared (List.mem_filterMap.mpr ⟨_, created, rfl⟩)
    exact absurd (ready.within.live shared old oldLive) new

/-- Writes that create one local entity bind its object once. -/
theorem Wrote.id_eq (unbound : ∀ id shared, ¬ IsBound start.transaction.store id shared object)
    (one : ∀ other supplied, .create other localType supplied ∈ writes ↔
      other = id ∧ supplied = bindingOf shared object)
    {other left : EntityId} (isBound : IsBound now.transaction.store other left object) :
    other = id := by
  rcases isBound with ⟨record, live, typed, shape⟩
  rcases (wrote.records other record).mp live with ⟨before, -⟩ | ⟨entityType, supplied, created, rfl⟩
  · exact absurd ⟨record, before, typed, shape⟩ (unbound other left)
  · cases typed
    exact ((one other supplied).mp created).1

end Afterwards

theorem finds_of_isBound (ready : Ready issued now) (live : Live host identityOf project)
    (isBound : IsBound now.transaction.store id shared project.object)
    (isShared : IsShared now.transaction.store shared project.id)
    (only : ∀ other left, IsBound now.transaction.store other left project.object → other = id) :
    Finds host project ⟨id, shared, project.object⟩ now.transaction := by
  have ⟨active, coherent, installed, _, _⟩ := ready
  have once : ∀ first second left right, IsBound now.transaction.store first left project.object →
      IsBound now.transaction.store second right project.object → first = second :=
    fun first second left right isFirst isSecond =>
      (only first left isFirst).trans (only second right isSecond).symm
  refine ⟨?_, ?_, ?_, ?_, fun received claims => ?_⟩
  · rcases localOf?_eq_ok active coherent installed live.held once with ⟨answer, looked, answers⟩
    rw [looked, (answers ⟨id, shared, project.object⟩).mpr ⟨rfl, isBound⟩]
  · rcases sharedOf?_eq_ok active coherent installed live.held once with ⟨answer, looked, answers⟩
    rw [looked, (answers ⟨shared, project.id⟩).mpr ⟨isShared, id, isBound⟩]
  · rcases sharedFor?_eq_ok active coherent installed project.id with ⟨answer, looked, answers⟩
    rw [looked, (answers ⟨shared, project.id⟩).mpr ⟨rfl, isShared⟩]
  · have looked : ∃ answer, Identity.isBound now.transaction project = .ok answer ∧ _ :=
      isBound_eq_ok active coherent installed
    rcases looked with ⟨answer, looked, answers⟩
    rw [looked, answers.mpr ⟨id, shared, isBound⟩]
  · rcases resolve?_eq_ok active coherent installed received with ⟨answer, resolves, owns⟩
    cases (owns ⟨shared, project.id⟩).mpr ⟨claims.symm, claims.symm ▸ isShared⟩
    rcases single_reference_eq_ok active coherent installed shared with ⟨answer, single, binds⟩
    cases (binds id).mpr ⟨project.object, isBound⟩
    have found := projectOf?_of_isBound active (fun _ => live.held) resolves single isBound
    rw [if_pos live.holds] at found
    exact Outcome.bind_eq_ok_iff.mpr ⟨_, found, rfl⟩

section Found

variable {swept : Set EntityId} {writes : List Write} (wrote : Wrote issued start swept writes now)
  (live : Live host identityOf project)
  (unbound : ∀ id shared, ¬ IsBound start.transaction.store id shared project.object)
  (one : ∀ other supplied, .create other localType supplied ∈ writes ↔
    other = id ∧ supplied = bindingOf shared project.object)
include wrote live unbound one

/-- Writes that bind an object and create its shared entity have it found. -/
theorem Wrote.finds_of_created
    (created : .create shared sharedType [(projectIdField, projectKey project.id)] ∈ writes) :
    Finds host project ⟨id, shared, project.object⟩ now.transaction :=
  finds_of_isBound wrote.ready live (wrote.isBound_of_created ((one _ _).mpr ⟨rfl, rfl⟩))
    (wrote.isShared_of_created created) fun _ _ isBound => wrote.id_eq unbound one isBound

/-- So do writes that bind it to a shared entity that is there. -/
theorem Wrote.finds_of_isShared (ready : Ready issued start)
    (isShared : IsShared start.transaction.store shared project.id) :
    Finds host project ⟨id, shared, project.object⟩ now.transaction :=
  have isBound := wrote.isBound_of_created ((one _ _).mpr ⟨rfl, rfl⟩)
  finds_of_isBound wrote.ready live isBound (wrote.isShared_of_isBound ready isShared isBound)
    fun _ _ otherBound => wrote.id_eq unbound one otherBound

end Found

/-! ## Finding the shared entity -/

section Binding

variable (ready : Ready issued start) (one : OneBinding identityOf start.transaction.store)
  (live : Live host identityOf project)
include ready one live

omit ready in
/-- An object is bound under its project's shared entity or not at all. -/
theorem unbound_of_isShared (isShared : IsShared start.transaction.store shared project.id)
    (other : ∀ id, ¬ IsBound start.transaction.store id shared project.object) :
    ∀ id left, ¬ IsBound start.transaction.store id left project.object := by
  intro id left isBound
  have same := one.oneShared left shared project.id (live.constant ▸ one.isShared isBound) isShared
  exact other id (same ▸ isBound)

omit ready in
theorem unbound_of_other (isShared : IsShared start.transaction.store shared project.id)
    (isBound : IsBound start.transaction.store id shared object) (different : object ≠ project.object) :
    ∀ id left, ¬ IsBound start.transaction.store id left project.object := by
  refine unbound_of_isShared one live isShared fun own ownBound => ?_
  cases one.oneForShared own id shared project.object object ownBound isBound
  exact different (isBound.eq ownBound).2

theorem bind_of_isBound (isBound : IsBound start.transaction.store id shared project.object) :
    Work.after (bind host project) start = (.ok ⟨id, shared, project.object⟩, start) := by
  rcases localOf?_eq_ok ready.active ready.coherent ready.installed live.held
    fun first second left right => one.oneForObject first second left right project.object with
    ⟨answer, looked, answers⟩
  cases (answers ⟨id, shared, project.object⟩).mpr ⟨rfl, isBound⟩
  have read := sharedAt_eq_ok ready.active ready.coherent (one.isShared isBound)
  rw [Identity.bind, Work.after_bind, Work.after_look, looked]
  change Work.after (Work.look (sharedAt · shared) >>= _) start = _
  rw [Work.after_bind, Work.after_look, read]
  change Work.after (if identityOf project.object = project.id then _ else _) start = _
  rw [if_pos live.constant.symm]
  rfl

theorem bind_of_unbound
    (unbound : ∀ id shared, ¬ IsBound start.transaction.store id shared project.object) :
    Work.after (bind host project) start =
      match Work.after (adoptId project.id) start with
      | (.ok own, now) => Work.after (attach host project own) now
      | (.error error, now) => (.error error, now) := by
  rcases localOf?_eq_ok ready.active ready.coherent ready.installed live.held
    fun first second left right => one.oneForObject first second left right project.object with
    ⟨answer, looked, answers⟩
  cases answer with
  | some bound => exact absurd ((answers bound).mp rfl).2 (unbound _ _)
  | none =>
      rw [Identity.bind, Work.after_bind, Work.after_look, looked]
      change Work.after (adoptId project.id >>= fun own => attach host project own) start = _
      rw [Work.after_bind]
      rcases Work.after (adoptId project.id) start with ⟨outcome, now⟩
      cases outcome <;> rfl

theorem bind_of_isShared
    (unbound : ∀ id shared, ¬ IsBound start.transaction.store id shared project.object)
    (isShared : IsShared start.transaction.store shared project.id) :
    Work.after (bind host project) start =
      Work.after (attach host project ⟨shared, project.id⟩) start := by
  rw [bind_of_unbound ready one live unbound,
    adoptId_of_isShared ready.active ready.coherent ready.installed isShared]

/-- A project without a shared entity gets one, which is not bound yet. -/
theorem bind_of_unknown (few : issued.length < UInt64.size)
    (unknown : ∀ shared, ¬ IsShared start.transaction.store shared project.id) :
    ∃ shared middle,
      Work.after (bind host project) start =
        Work.after (attach host project ⟨shared, project.id⟩) middle ∧
      Wrote issued start ∅ [.create shared sharedType [(projectIdField, projectKey project.id)]]
        middle ∧
      IsShared middle.transaction.store shared project.id ∧
      ∀ id object, ¬ IsBound middle.transaction.store id shared object := by
  have unbound : ∀ id shared, ¬ IsBound start.transaction.store id shared project.object :=
    fun id shared isBound => unknown shared (live.constant ▸ one.isShared isBound)
  rcases adoptId_of_unknown ready.active ready.coherent ready.installed unknown with
    ⟨own, middle, adopted, adopts⟩
  have bound := bind_of_unbound ready one live unbound
  rw [adopted] at bound
  cases adopts with
  | found isShared => exact absurd isShared (unknown _)
  | @created shared store allocators _ placed =>
      have wrote := Wrote.create ready few placed
      refine ⟨shared, _, bound, wrote, ?_, ?_⟩
      · exact wrote.isShared_of_created (List.mem_singleton_self _)
      · rintro id object ⟨record, there, typed, refers, wraps⟩
        rcases (wrote.records id record).mp there with ⟨before, -⟩ | ⟨_, _, created, rfl⟩
        · -- What a local entity referred to before had an identifier already.
          rcases IsBound.exists_isShared ready.coherent ready.installed
            ⟨record, before, typed, refers, wraps⟩ with ⟨other, referenced, referencedLive, -⟩
          exact wrote.new shared List.mem_cons_self (ready.within.live _ _ referencedLive)
        · cases List.mem_singleton.mp created
          exact sharedType_ne_localType typed

/-! ## All outcomes -/

variable {outcome : Except Error LocalEntity}
  (done : Work.after (bind host project) start = (outcome, now))

include done in
theorem bound_of_unknown (few : issued.length + (start.handed now).length < UInt64.size)
    (unknown : ∀ shared, ¬ IsShared start.transaction.store shared project.id) :
    ∃ id shared, outcome = .ok ⟨id, shared, project.object⟩ ∧
      Wrote issued start ∅ [.create shared sharedType [(projectIdField, projectKey project.id)],
        .create id localType (bindingOf shared project.object)] now := by
  have fewBefore : issued.length < UInt64.size := Nat.lt_of_le_of_lt (Nat.le_add_right _ _) few
  rcases bind_of_unknown ready one live fewBefore unknown with
    ⟨shared, middle, bound, founded, isShared, free⟩
  rw [bound] at done
  -- Whatever is handed out for the local entity comes on top of the shared one.
  rcases (attach_edits host project ⟨shared, project.id⟩ middle trivial).1 with ⟨handed, -, writes⟩
  rcases writes.handed_eq with ⟨logged, log, -⟩
  rw [done] at log
  rw [Workspace.handed, log, founded.log, List.append_assoc, List.drop_left, List.filterMap_append,
    List.length_append, ← Nat.add_assoc, ← List.length_append] at few
  have fewThen := Nat.lt_of_le_of_lt (Nat.le_add_right _ _) few
  rcases attach_of_unbound host project ⟨shared, project.id⟩ founded.ready fewThen isShared free with
    ⟨id, last, attached, wrote⟩
  cases attached.symm.trans done
  exact ⟨id, shared, rfl, founded.trans wrote⟩

include done in
theorem bindEffect_of_ready (few : issued.length + (start.handed now).length < UInt64.size) :
    BindEffect host project issued start outcome now :=
  have fewBefore : issued.length < UInt64.size := Nat.lt_of_le_of_lt (Nat.le_add_right _ _) few
  { already := by
      intro id shared isBound
      cases (bind_of_isBound ready one live isBound).symm.trans done
      exact ⟨rfl, rfl⟩
    contested := by
      intro id shared object isShared isBound different holds
      have unbound := unbound_of_other one live isShared isBound different
      rw [bind_of_isShared ready one live unbound isShared] at done
      cases (attach_of_held host project _ ready isShared isBound holds).symm.trans done
      exact ⟨rfl, rfl⟩
    guarded := by
      intro stale shared object isShared isBound dropped outside
      have unbound := unbound_of_other one live isShared isBound (live.ne_of_dropped dropped)
      rw [bind_of_isShared ready one live unbound isShared] at done
      rcases attach_of_protected host project ⟨shared, project.id⟩ ready isBound dropped outside with
        ⟨owner, victim, field, stays, goes, refers, refused⟩
      cases refused.symm.trans done
      exact ⟨owner, victim, field, stays, goes, refers, rfl, rfl⟩
    replaced := by
      intro stale shared object isShared isBound dropped free
      have unbound := unbound_of_other one live isShared isBound (live.ne_of_dropped dropped)
      rw [bind_of_isShared ready one live unbound isShared] at done
      rcases attach_of_stale host project ⟨shared, project.id⟩ ready fewBefore isShared isBound dropped
        free with ⟨id, last, attached, wrote⟩
      cases attached.symm.trans done
      exact ⟨id, rfl, wrote⟩
    attached := by
      intro shared isShared free
      have unbound := unbound_of_isShared one live isShared fun id => free id project.object
      rw [bind_of_isShared ready one live unbound isShared] at done
      rcases attach_of_unbound host project ⟨shared, project.id⟩ ready fewBefore isShared free with
        ⟨id, last, attached, wrote⟩
      cases attached.symm.trans done
      exact ⟨id, rfl, wrote⟩
    founded := bound_of_unknown ready one live done few }

/-- Whether an identity that another object is bound to can be had or not. -/
theorem BindEffect.all_or_nothing_of_other
    (effect : BindEffect host project issued start outcome now)
    (isShared : IsShared start.transaction.store shared project.id)
    (isBound : IsBound start.transaction.store id shared object) (different : object ≠ project.object) :
    AllOrNothing host project start outcome now := by
  have unbound := unbound_of_other one live isShared isBound different
  cases holds : host.holds object with
  | true =>
      rcases effect.contested id shared object isShared isBound different holds with ⟨rfl, rfl⟩
      exact .nothing _ rfl
  | false =>
      by_cases outside : start.transaction.store.Protected
        {other | start.transaction.store.Depends other id}
      · rcases effect.guarded id shared object isShared isBound holds outside with
          ⟨owner, victim, field, -, -, -, rfl, rfl⟩
        exact .nothing _ rfl
      · rcases effect.replaced id shared object isShared isBound holds outside with ⟨next, rfl, wrote⟩
        exact .all _ _ (wrote.finds_of_isShared live unbound (by simp) ready isShared)

theorem BindEffect.all_or_nothing
    (effect : BindEffect host project issued start outcome now) :
    AllOrNothing host project start outcome now := by
  by_cases bound : ∃ id shared, IsBound start.transaction.store id shared project.object
  · rcases bound with ⟨id, shared, isBound⟩
    rcases effect.already id shared isBound with ⟨rfl, rfl⟩
    have isShared := live.constant ▸ one.isShared isBound
    exact .all _ _ (finds_of_isBound ready live isBound isShared fun other left otherBound =>
      one.oneForObject other id left shared project.object otherBound isBound)
  have unbound : ∀ id shared, ¬ IsBound start.transaction.store id shared project.object :=
    fun id shared isBound => bound ⟨id, shared, isBound⟩
  by_cases known : ∃ shared, IsShared start.transaction.store shared project.id
  · rcases known with ⟨shared, isShared⟩
    by_cases taken : ∃ id object, IsBound start.transaction.store id shared object
    · rcases taken with ⟨id, object, isBound⟩
      exact effect.all_or_nothing_of_other ready one live isShared isBound
        fun same => unbound id shared (same ▸ isBound)
    · have free : ∀ id object, ¬ IsBound start.transaction.store id shared object :=
        fun id object isBound => taken ⟨id, object, isBound⟩
      rcases effect.attached shared isShared free with ⟨id, rfl, wrote⟩
      exact .all _ _ (wrote.finds_of_isShared live unbound (by simp) ready isShared)
  · rcases effect.founded (not_exists.mp known) with ⟨id, shared, rfl, wrote⟩
    exact .all _ _ (wrote.finds_of_created live unbound (by simp [sharedType_ne_localType.symm])
      List.mem_cons_self)

end Binding

/-! ## All runs -/

/-- A binding is made in its transaction, and leaves the rest of the process as it
is. -/
theorem Process.step_bind {process : Process} {place : Nat} {handle : Handle}
    {outcome : Except Error LocalEntity} (there : process.session.handles[place]? = some handle)
    (done : Work.after (bind process.host project)
      ⟨handle.transaction, process.session.allocators⟩ = (outcome, now)) :
    process.step (.bind place project) = { process with
      session := process.session.put place { handle with transaction := now.transaction }
        now.allocators (Workspace.handed ⟨handle.transaction, process.session.allocators⟩ now) } := by
  rw [Process.step, Process.work, Session.withHandle, there]
  simp only [done]
  rfl

section Runs

variable {world : World} {engine : Engine} {events : List Event} {process : Process} {place : Nat}
  {handle : Handle} (mayStart : MayStart world engine)
  (permitted : ∀ event ∈ events, event.Permitted identityOf)
  (ran : (⟨Session.start world engine, host⟩ : Process).run events = process)
  (there : process.session.handles[place]? = some handle)
  (active : handle.transaction.isActive = true)
include mayStart permitted ran there active

/-- An active transaction of a process is ready to be worked on. -/
theorem ready_of_run (few : process.session.issued.length < UInt64.size) :
    Ready process.session.issued ⟨handle.transaction, process.session.allocators⟩ ∧
      OneBinding identityOf handle.transaction.store := by
  subst ran
  have member := List.mem_of_getElem? there
  have grows := Process.issued_run ⟨Session.start world engine, host⟩ events
  have start : Traced identityOf _ _ := mayStart.traced (Nat.lt_of_le_of_lt grows.length_le few)
  rcases Process.run_traced permitted start mayStart.accounted few with ⟨lineage, traced⟩
  have descends := (traced.working handle member).store
  have accounted := mayStart.accounted.reaches
    (Process.run_moves ⟨Session.start world engine, host⟩ events)
  have within := (accounted.working handle member).store
  have same := within.allocator
  exact ⟨⟨active, descends.coherent, descends.installed, same ▸ accounted.counter, same ▸ within⟩,
    descends.oneBinding traced.attested⟩

/-- Let anything permitted happen in a process, and then bind an object that is
held in a transaction that is active.  What the binding does is settled by what
the working snapshot has of the object's identity; and it is made completely or
not at all. -/
theorem binding_of_run {outcome : Except Error LocalEntity}
    (live : Live process.host identityOf project)
    (done : Work.after (bind process.host project)
      ⟨handle.transaction, process.session.allocators⟩ = (outcome, now))
    (few : (process.step (.bind place project)).session.issued.length < UInt64.size) :
    BindEffect process.host project process.session.issued
        ⟨handle.transaction, process.session.allocators⟩ outcome now ∧
      AllOrNothing process.host project ⟨handle.transaction, process.session.allocators⟩ outcome
        now := by
  have grows := (process.issued_step (.bind place project)).length_le
  rcases ready_of_run mayStart permitted ran there active (Nat.lt_of_le_of_lt grows few) with
    ⟨ready, one⟩
  rw [Process.step_bind there done, Session.put, List.length_append] at few
  have effect := bindEffect_of_ready ready one live done few
  exact ⟨effect, effect.all_or_nothing ready one live⟩

end Runs

namespace Sample

/-- Two objects of the project are held when a transaction begins. -/
def opening : List Event :=
  [.take ⟨0⟩ "Project", .take ⟨1⟩ "Project", .plain .begin]

/-- The first is bound in it, and dropped. -/
def vacating : List Event :=
  opening ++ [.bind 0 (Sample.project 0), .drop ⟨0⟩]

def atWork (events : List Event) : Process :=
  (⟨Session.start ground { store := snapshot }, {}⟩ : Process).run events

theorem opening_begun : ((atWork opening).session.handles[0]?).map (fun handle =>
    (handle.transaction.isActive, handle.transaction.store.records.isEmpty)) =
    some (true, true) := by
  cbv

theorem permitted_vacating : ∀ event ∈ vacating, event.Permitted fun _ => ⟨"A"⟩ := by
  simp [vacating, opening, Event.Permitted, Sample.project]

theorem atWork_concat (events : List Event) (event : Event) :
    atWork (events ++ [event]) = (atWork events).step event :=
  List.foldl_concat _ _ _ _

theorem issued_lt {events : List Event} (few : events.length ≤ 6)
    (permitted : ∀ event ∈ events, event.Permitted fun _ => ⟨"A"⟩) :
    (atWork events).session.issued.length < UInt64.size := by
  refine mayStart.issued_run_lt {} permitted ?_
  rw [issued_length]
  exact Nat.lt_of_le_of_lt (by omega) (by decide : 12 < UInt64.size)

/-- The binding of the first object is stale, and nothing protects it. -/
theorem exists_vacated : ∃ handle id shared, (atWork vacating).session.handles[0]? = some handle ∧
    handle.transaction.isActive = true ∧ IsShared handle.transaction.store shared ⟨"A"⟩ ∧
    IsBound handle.transaction.store id shared ⟨0⟩ ∧
    ¬ handle.transaction.store.Protected {other | handle.transaction.store.Depends other id} := by
  rcases Option.map_eq_some_iff.mp opening_begun with ⟨handle, there, state⟩
  simp only [Prod.mk.injEq, Std.ExtTreeMap.isEmpty_iff] at state
  rcases state with ⟨active, empty⟩
  have vacant : ∀ id record, handle.transaction.store.get? id ≠ some record := by
    intro id record live
    rw [Store.get?, empty] at live
    simp at live
  have live : Live (atWork opening).host (fun _ => ⟨"A"⟩) (Sample.project 0) :=
    ⟨rfl, by simp [atWork, opening, Process.run, Process.step, Host.take, Sample.project,
      Std.ExtTreeMap.getElem_insert]⟩
  have permitted : ∀ event ∈ opening, event.Permitted fun _ => ⟨"A"⟩ :=
    fun event member => permitted_vacating event (List.mem_append_left _ member)
  have ran : (⟨Session.start ground { store := snapshot }, {}⟩ : Process).run opening = atWork opening :=
    rfl
  rcases ready_of_run mayStart permitted ran there active (issued_lt (by simp [opening]) permitted)
    with ⟨ready, one⟩
  have few : (atWork (opening ++ [.bind 0 (Sample.project 0)])).session.issued.length < UInt64.size :=
    issued_lt (by simp [opening]) (by simp [opening, Event.Permitted, Sample.project])
  rcases ended : Work.after (Identity.bind (atWork opening).host (Sample.project 0))
    ⟨handle.transaction, (atWork opening).session.allocators⟩ with ⟨outcome, now⟩
  have stepped := Process.step_bind there ended
  rw [atWork_concat, stepped, Session.put, List.length_append] at few
  have unknown : ∀ shared, ¬ IsShared handle.transaction.store shared ⟨"A"⟩ := by
    rintro shared ⟨record, live, -⟩
    exact vacant shared record live
  rcases (bindEffect_of_ready ready one live ended few).founded unknown with ⟨id, shared, -, wrote⟩
  have bound := wrote.isBound_of_created (List.mem_cons_of_mem _ List.mem_cons_self)
  refine ⟨{ handle with transaction := now.transaction }, id, shared, ?_, wrote.ready.active,
    wrote.isShared_of_created List.mem_cons_self, bound, ?_⟩
  · have last : atWork vacating = ((atWork opening).step (.bind 0 (Sample.project 0))).step (.drop ⟨0⟩) :=
      rfl
    rw [last, stepped]
    exact Session.getElem?_put there
  · rintro ⟨owner, victim, -, -, refers⟩
    rcases (Store.contains_eq_true_iff _ _).mp (Store.contains_owner refers) with ⟨record, there⟩
    have installed := wrote.ready.installed
    rcases (wrote.records owner record).mp there with ⟨old, -⟩ | ⟨_, _, created, rfl⟩
    · exact vacant owner record old
    · rcases List.mem_cons.mp created with first | second
      · cases first
        exact not_refers_of_shared installed there rfl refers
      · cases List.mem_singleton.mp second
        exact not_refers_of_local installed there rfl refers

end Sample

/-- In the example the second object takes the place of the first.  The stale
binding goes, and one is created under the same shared entity. -/
theorem binding_of_run_vacated : ∃ handle stale shared id now,
    (Sample.atWork Sample.vacating).session.handles[0]? = some handle ∧
      IsBound handle.transaction.store stale shared ⟨0⟩ ∧
      Work.after (bind (Sample.atWork Sample.vacating).host (Sample.project 1))
        ⟨handle.transaction, (Sample.atWork Sample.vacating).session.allocators⟩ =
          (.ok ⟨id, shared, ⟨1⟩⟩, now) ∧
      Wrote (Sample.atWork Sample.vacating).session.issued
        ⟨handle.transaction, (Sample.atWork Sample.vacating).session.allocators⟩
        {other | handle.transaction.store.Depends other stale}
        [.delete stale, .create id localType (bindingOf shared ⟨1⟩)] now ∧
      Finds (Sample.atWork Sample.vacating).host (Sample.project 1) ⟨id, shared, ⟨1⟩⟩
        now.transaction := by
  rcases Sample.exists_vacated with ⟨handle, stale, shared, there, active, isShared, isBound, free⟩
  rcases done : Work.after (bind (Sample.atWork Sample.vacating).host (Sample.project 1))
    ⟨handle.transaction, (Sample.atWork Sample.vacating).session.allocators⟩ with ⟨outcome, now⟩
  have live : Live (Sample.atWork Sample.vacating).host (fun _ => ⟨"A"⟩) (Sample.project 1) :=
    ⟨rfl, by simp [Sample.atWork, Sample.vacating, Sample.opening, Process.run, Process.step, Host.take,
      Host.drop, Process.work, Sample.project]⟩
  have dropped : (Sample.atWork Sample.vacating).host.holds ⟨0⟩ = false := by
    simp [Sample.atWork, Sample.vacating, Sample.opening, Process.run, Process.step, Host.take,
      Host.drop, Process.work, Host.holds]
  have few : (Sample.atWork (Sample.vacating ++ [.bind 0 (Sample.project 1)])).session.issued.length <
      UInt64.size :=
    Sample.issued_lt (by decide) (by simp [Sample.vacating, Sample.opening, Event.Permitted, Sample.project])
  rw [Sample.atWork_concat] at few
  have effects := binding_of_run Sample.mayStart Sample.permitted_vacating rfl there active live done few
  rcases effects with ⟨effect, whole⟩
  rcases effect.replaced stale shared ⟨0⟩ isShared isBound dropped free with ⟨id, rfl, wrote⟩
  cases whole with
  | all bound now finds =>
      exact ⟨handle, stale, shared, id, now, there, isBound, done, wrote, finds⟩

end Identity

end EntityBase
