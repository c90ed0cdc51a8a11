import EntityBase.Proofs.Identity.Licence

namespace EntityBase

/-!
# Adopting project identifiers

Adopting a project identifier finds its shared entity or creates one.  In an
active transaction on a coherent snapshot neither can fail.  A lookup that finds
nothing is just what the check of the unique identifier asks for.

Adopting a list does so one after another.  What one adoption has found or made
stays, so the list can be adopted again on what is there by then, and this only
finds.
-/

namespace Identity

variable {projectId : ProjectId} {start now : Workspace} {own : SharedEntity} {id : EntityId}
  {entities adopted : List SharedEntity}

/-- A project identifier that no shared entity has may be given to a new one. -/
theorem draft_shared {store : Store} (coherent : store.Coherent) (installed : Installed store)
    (unknown : ∀ other, ¬ IsShared store other projectId) :
    store.draft sharedType [(projectIdField, projectKey projectId)] =
      .ok ⟨sharedType, assemble [(projectIdField, projectKey projectId)]⟩ := by
  have vacant : store.index.contains ⟨sharedType, projectIdField, projectKey projectId⟩ = false := by
    rw [Bool.eq_false_iff, Ne, coherent.index_contains_iff]
    rintro ⟨holder, holds⟩
    exact unknown holder ((holds_project_iff installed holder projectId).mp holds)
  have declared : sharedDeclaration.attribute? projectIdField =
      some { field := projectIdField, kind := .value .string, unique := true } := by decide
  have collects : store.collect sharedDeclaration ∅ [(projectIdField, projectKey projectId)] =
      .ok (assemble [(projectIdField, projectKey projectId)]) := by
    rw [Store.collect, Outcome.bind_eq_ok_iff]
    refine ⟨_, Store.attributeOf_eq_ok_iff.mpr declared, ?_⟩
    rw [if_neg (by simp)]
    rfl
  have held : (assemble [(projectIdField, projectKey projectId)])[projectIdField]? =
      some (projectKey projectId) := by simp [assemble]
  rw [Store.draft, Outcome.bind_eq_ok_iff]
  refine ⟨sharedDeclaration, Store.declaration_eq_ok_iff.mpr installed.shared, ?_⟩
  rw [Outcome.bind_eq_ok_iff]
  refine ⟨_, collects, ?_⟩
  rw [Outcome.bind_eq_ok_iff]
  refine ⟨(), Outcome.forM_eq_ok_iff.mpr fun unique listed => ?_, rfl⟩
  rw [List.mem_singleton.mp listed, Store.checkDeclared, held]
  exact if_neg fun taken => Bool.eq_false_iff.mp vacant taken.2

/-! ## One identifier -/

/-- What adopting a project identifier makes of a workspace. -/
inductive Adopts (projectId : ProjectId) (start : Workspace) : SharedEntity → Workspace → Prop where
  | found {id : EntityId} (isShared : IsShared start.transaction.store id projectId) :
      Adopts projectId start ⟨id, projectId⟩ start
  | created {id : EntityId} {store : Store} {allocators : Allocators}
      (unknown : ∀ other, ¬ IsShared start.transaction.store other projectId)
      (placed : start.transaction.store.create start.allocators sharedType
        [(projectIdField, projectKey projectId)] = .ok (id, store, allocators)) :
      Adopts projectId start ⟨id, projectId⟩
        ⟨{ start.transaction with
            store
            log := start.transaction.log ++
              [.create id sharedType [(projectIdField, projectKey projectId)]] }, allocators⟩

section Adoption

variable (active : start.transaction.isActive = true)
  (coherent : start.transaction.store.Coherent) (installed : Installed start.transaction.store)
include active coherent installed

theorem adoptId_of_isShared (isShared : IsShared start.transaction.store id projectId) :
    Work.after (adoptId projectId) start = (.ok ⟨id, projectId⟩, start) := by
  rcases sharedFor?_eq_ok active coherent installed projectId with ⟨answer, looked, answers⟩
  cases (answers ⟨id, projectId⟩).mpr ⟨rfl, isShared⟩
  rw [adoptId, Work.after_bind, Work.after_look, looked]
  rfl

theorem adoptId_of_unknown (unknown : ∀ other, ¬ IsShared start.transaction.store other projectId) :
    ∃ own now, Work.after (adoptId projectId) start = (.ok own, now) ∧ Adopts projectId start own now := by
  rcases sharedFor?_eq_ok active coherent installed projectId with ⟨answer, looked, answers⟩
  cases answer with
  | some shared => exact absurd ((answers shared).mp rfl).2 (unknown shared.id)
  | none =>
      have placed := Store.create_of_draft (draft_shared coherent installed unknown) start.allocators
      refine ⟨_, _, ?_, .created unknown placed⟩
      rw [adoptId, Work.after_bind, Work.after_look, looked]
      change Work.after (Work.create _ _ >>= _) start = _
      rw [Work.after_bind, Work.after_create, Transaction.create_of_placed active placed]
      rfl

theorem adoptId_adopts (projectId : ProjectId) :
    ∃ own now, Work.after (adoptId projectId) start = (.ok own, now) ∧
      Adopts projectId start own now := by
  by_cases known : ∃ id, IsShared start.transaction.store id projectId
  · rcases known with ⟨id, isShared⟩
    exact ⟨_, _, adoptId_of_isShared active coherent installed isShared, .found isShared⟩
  · exact adoptId_of_unknown active coherent installed (not_exists.mp known)

end Adoption

/-! ## What an adoption leaves behind -/

/-- A later snapshot has all that an earlier one has, and what is new are shared
entities of projects that had none. -/
structure Gains (projects : ProjectId → Prop) (before after : Store) : Prop where
  kept : ∀ (id : EntityId) (record : Record), before.get? id = some record →
    after.get? id = some record
  added : ∀ (id : EntityId) (record : Record), after.get? id = some record →
    before.get? id = some record ∨ ∃ projectId, projects projectId ∧
      IsShared after id projectId ∧ ∀ other, ¬ IsShared before other projectId

namespace Gains

variable {projects more : ProjectId → Prop} {before middle after : Store}

theorem refl (projects : ProjectId → Prop) (store : Store) : Gains projects store store :=
  ⟨fun _ _ live => live, fun _ _ live => .inl live⟩

theorem isShared (gains : Gains projects before after) (isShared : IsShared before id projectId) :
    IsShared after id projectId := by
  rcases isShared with ⟨record, live, shape⟩
  exact ⟨record, gains.kept id record live, shape⟩

theorem trans (first : Gains projects before middle) (second : Gains more middle after) :
    Gains (fun projectId => projects projectId ∨ more projectId) before after where
  kept id record live := second.kept id record (first.kept id record live)
  added id record live := by
    rcases second.added id record live with old | ⟨projectId, asked, isShared, unknown⟩
    · rcases first.added id record old with older | ⟨projectId, asked, isShared, unknown⟩
      · exact .inl older
      · exact .inr ⟨projectId, .inl asked, second.isShared isShared, unknown⟩
    · exact .inr ⟨projectId, .inr asked, isShared, fun other known =>
        unknown other (first.isShared known)⟩

end Gains

/-- A transaction at work whose snapshot is coherent, with the identity types,
and lies within the identifiers that its allocator has handed out. -/
structure Ready (issued : List EntityId) (start : Workspace) : Prop where
  active : start.transaction.isActive = true
  coherent : start.transaction.store.Coherent
  installed : Installed start.transaction.store
  accounts : start.allocators.Accounts start.transaction.store.allocator issued
  within : start.transaction.store.Within start.transaction.store.allocator issued

variable {issued : List EntityId}

/-- A creation keeps a workspace ready, up to the wrap of the counter, and takes an
identifier that is new. -/
theorem Ready.create (ready : Ready issued start) (few : issued.length < UInt64.size)
    {entityType : String} {supplied : List (String × Value)} {store : Store}
    {allocators : Allocators} (placed : start.transaction.store.create start.allocators entityType
      supplied = .ok (id, store, allocators)) :
    id ∉ issued ∧ Ready (issued ++ [id]) ⟨{ start.transaction with
      store
      log := start.transaction.log ++ [.create id entityType supplied] }, allocators⟩ := by
  rcases Store.create_eq_ok placed with ⟨draft, -, named, rfl, rfl⟩
  have new : id ∉ issued := named ▸ ready.accounts.allocate_notMem few
  exact ⟨new, ready.active, ready.coherent.create placed (ready.within.get?_eq_none new),
    ready.installed.of_schema_eq rfl, named ▸ ready.accounts.allocate, ready.within.create placed⟩

/-- Adopting a project identifier gains at most its shared entity. -/
theorem Adopts.gains (adopts : Adopts projectId start own now) (ready : Ready issued start)
    (few : issued.length < UInt64.size) :
    ∃ handed, Writes Unrestricted start handed now ∧ Ready (issued ++ handed) now ∧
      own.projectId = projectId ∧ IsShared now.transaction.store own.id projectId ∧
      Gains (· = projectId) start.transaction.store now.transaction.store := by
  cases adopts with
  | found isShared =>
      exact ⟨[], .nothing, (List.append_nil issued).symm ▸ ready, rfl, isShared, .refl _ _⟩
  | @created id store allocators unknown placed =>
      have anything : Unrestricted start.transaction.store (.create sharedType
        [(projectIdField, projectKey projectId)]) := trivial
      have logged := Writes.of_placed ready.active anything placed
      have live := Store.get?_of_create placed
      rcases ready.create few placed with ⟨new, readyNow⟩
      have isShared : IsShared store id projectId :=
        ⟨_, (live id).trans (if_pos rfl), rfl, by simp [assemble]⟩
      refine ⟨[id], logged, readyNow, rfl, isShared, fun other record old => ?_,
        fun other record here => ?_⟩
      · rw [live, if_neg, old]
        rintro rfl
        rw [ready.within.get?_eq_none new] at old
        cases old
      rw [live] at here
      split at here
      · rename_i same
        exact .inr ⟨projectId, rfl, same ▸ isShared, unknown⟩
      · exact .inl here

/-! ## A list of shared entities -/

theorem adopt_edits (received : SharedEntity) : Edits 1 (adopt received) :=
  adoptId_edits received.projectId

/-- What has been adopted: for each entity of a list, the shared entity of its
project in a snapshot. -/
abbrev Adopted (store : Store) : (received adopted : List SharedEntity) → Prop :=
  List.Forall₂ fun received own =>
    own.projectId = received.projectId ∧ IsShared store own.id received.projectId

/-- A list is adopted without a failure, up to the wrap of the counter. -/
theorem adopt_all {outcome : Except Error (List SharedEntity)} (ready : Ready issued start)
    (done : Work.after (entities.mapM adopt) start = (outcome, now))
    (few : issued.length + (start.handed now).length < UInt64.size) :
    ∃ adopted handed, outcome = .ok adopted ∧ Ready (issued ++ handed) now ∧
      Adopted now.transaction.store entities adopted ∧
      Gains (fun projectId => ∃ entity ∈ entities, entity.projectId = projectId)
        start.transaction.store now.transaction.store := by
  induction entities generalizing start issued outcome with
  | nil =>
      cases done
      exact ⟨[], [], rfl, (List.append_nil issued).symm ▸ ready, .nil, .refl _ _⟩
  | cons first rest ih =>
      have fewBefore := Nat.lt_of_le_of_lt (Nat.le_add_right issued.length _) few
      rcases adoptId_adopts ready.active ready.coherent ready.installed first.projectId with
        ⟨own, middle, here, adopts⟩
      rcases adopts.gains ready fewBefore with ⟨handed, writes, readyThen, named, isShared, gains⟩
      have taken : Work.after (adopt first) start = (.ok own, middle) := here
      rw [Work.after_mapM_cons taken] at done
      rcases ended : Work.after (rest.mapM adopt) middle with ⟨others, last⟩
      simp only [ended, Prod.mk.injEq] at done
      rcases done with ⟨rfl, rfl⟩
      -- What is handed out in all is handed out here or for the rest.
      have further := (Leads.mapM adopt_edits rest middle trivial).1
      rw [ended] at further
      rcases further with ⟨later, -, written⟩
      have fewThen : (issued ++ handed).length + (middle.handed last).length < UInt64.size := by
        rwa [(writes.trans written).handed_of, List.length_append, ← Nat.add_assoc,
          ← List.length_append, ← written.handed_of] at few
      rcases ih readyThen ended fewThen with ⟨adopted, more, rfl, readyNow, adoptedRest, gainsRest⟩
      refine ⟨own :: adopted, handed ++ more, rfl, List.append_assoc issued handed more ▸ readyNow,
        .cons ⟨named, gainsRest.isShared isShared⟩ adoptedRest, ?_⟩
      have both := gains.trans gainsRest
      simpa [eq_comm] using both

/-- To adopt a list whose projects all have their shared entities writes
nothing. -/
theorem adopt_all_of_adopted (active : start.transaction.isActive = true)
    (coherent : start.transaction.store.Coherent) (installed : Installed start.transaction.store)
    (there : Adopted start.transaction.store entities adopted) :
    Work.after (entities.mapM adopt) start = (.ok adopted, start) := by
  induction there with
  | nil => rfl
  | @cons received own rest others first further ih =>
      rcases own with ⟨id, projectId⟩
      rcases first with ⟨rfl, isShared⟩
      have here : Work.after (adopt received) start = (.ok ⟨id, received.projectId⟩, start) :=
        adoptId_of_isShared active coherent installed isShared
      rw [Work.after_mapM_cons here, ih]
      rfl

/-- What there is to say of shared entities that have been taken in from
elsewhere. -/
structure TakesIn (received : List SharedEntity) (before : Store) (adopted : List SharedEntity)
    (now : Workspace) : Prop where
  own : Adopted now.transaction.store received adopted
  once : ∀ entity ∈ received, ∃! id, IsShared now.transaction.store id entity.projectId
  /-- An identity that was there has kept its identifier. -/
  present : ∀ (id : EntityId) (projectId : ProjectId), IsShared before id projectId →
    ∀ entity ∈ adopted, entity.projectId = projectId → entity.id = id
  /-- Whatever was there still is, and nothing else has come but what was asked
  for and missing. -/
  gains : Gains (fun projectId => ∃ entity ∈ received, entity.projectId = projectId) before
    now.transaction.store
  /-- Wherever the snapshot is worked on, taking the list in again writes nothing
  and gives the same entities. -/
  again : ∀ start : Workspace, start.transaction.isActive = true →
    start.transaction.store = now.transaction.store →
    Work.after (received.mapM adopt) start = (.ok adopted, start)

theorem Adopted.isShared {store : Store} (there : Adopted store entities adopted) :
    (∀ entity ∈ entities, ∃ id, IsShared store id entity.projectId) ∧
      ∀ entity ∈ adopted, IsShared store entity.id entity.projectId := by
  induction there with
  | nil => exact ⟨by simp, by simp⟩
  | @cons received own rest others first further ih =>
      rcases first with ⟨named, isShared⟩
      exact ⟨List.forall_mem_cons.mpr ⟨⟨own.id, isShared⟩, ih.1⟩,
        List.forall_mem_cons.mpr ⟨named.symm ▸ isShared, ih.2⟩⟩

theorem takesIn_of_ready {outcome : Except Error (List SharedEntity)} (ready : Ready issued start)
    (done : Work.after (entities.mapM adopt) start = (outcome, now))
    (few : issued.length + (start.handed now).length < UInt64.size) :
    ∃ adopted, outcome = .ok adopted ∧ TakesIn entities start.transaction.store adopted now := by
  rcases adopt_all ready done few with ⟨adopted, handed, rfl, readyNow, there, gains⟩
  have ⟨_, coherent, installed, _, _⟩ := readyNow
  refine ⟨adopted, rfl, there, fun entity received => ?_, ?_, gains, fun later active same => ?_⟩
  · rcases there.isShared.1 entity received with ⟨id, isShared⟩
    exact ⟨id, isShared, fun other also => also.id_eq coherent installed isShared⟩
  · rintro id projectId isShared entity listed rfl
    exact (there.isShared.2 entity listed).id_eq coherent installed (gains.isShared isShared)
  · exact adopt_all_of_adopted active (same ▸ coherent) (same ▸ installed) (same ▸ there)

end Identity

end EntityBase
