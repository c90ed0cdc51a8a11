import EntityBase.Proofs.Engine.Separation

namespace EntityBase

/-!
# Sessions that only create

While nothing is deleted and no type registered, snapshots only grow.  A
transaction has all that was committed when it began, and a commit keeps all
that has been committed meanwhile.  Whatever a transaction has seen or made is
therefore in the committed snapshot once it has committed, also if it made
nothing, in which case the commit checks nothing either.

Each version adds an entity at least.  So versions do not wrap before
identifiers do.
-/

/-- The record that a write makes. -/
def Write.record? : Write → Option Record
  | .create id entityType supplied => some ⟨id, entityType, assemble supplied⟩
  | .delete _ => none

/-- A write is a creation, of a record that meets a condition. -/
def Write.Adds (fits : Record → Prop) (write : Write) : Prop :=
  ∃ record, write.record? = some record ∧ fits record

/-- An edit is a creation, of a record that meets a condition under any
identifier. -/
def Edit.Adds (fits : Record → Prop) : Edit → Prop
  | .create entityType supplied => ∀ id, fits ⟨id, entityType, assemble supplied⟩
  | .delete _ => False

namespace Store

variable {store middle later : Store} {fits : Record → Prop} {log : List Write} {id : EntityId}
  {record : Record} {allocator : Allocator} {issued : List EntityId}

/-- A later snapshot has all that an earlier one has. -/
def PartOf (store later : Store) : Prop :=
  ∀ (id : EntityId) (record : Record), store.get? id = some record → later.get? id = some record

theorem PartOf.refl (store : Store) : store.PartOf store :=
  fun _ _ live => live

theorem PartOf.trans (first : store.PartOf middle) (second : middle.PartOf later) :
    store.PartOf later :=
  fun id record live => second id record (first id record live)

/-! ## Repeating creations -/

theorem apply_of_adds {write : Write} (adds : write.Adds fits) (done : write.apply store = .ok later) :
    (∀ id record, later.get? id = some record ↔
      store.get? id = some record ∨ record.id = id ∧ write.record? = some record) ∧
    later.size = store.size + 1 := by
  rcases adds with ⟨made, makes, -⟩
  cases write with
  | delete id => cases makes
  | create created entityType supplied =>
      have free := (insert_eq_ok_iff.mp done).1
      refine ⟨fun id record => ?_, ?_⟩
      · rw [get?_of_insert done, Write.record?, Option.some.injEq]
        by_cases same : created = id
        · subst same
          rw [if_pos rfl, free, Option.some.injEq]
          constructor
          · rintro rfl
            exact .inr ⟨rfl, rfl⟩
          · rintro (impossible | ⟨-, rfl⟩)
            · cases impossible
            · rfl
        · rw [if_neg same]
          refine ⟨.inl, ?_⟩
          rintro (old | ⟨named, rfl⟩)
          · exact old
          · exact absurd named same
      · rcases (insert_eq_ok_iff.mp done).2 with ⟨draft, -, rfl⟩
        have new : created ∉ store.records := by
          rw [Std.ExtTreeMap.mem_iff_isSome_getElem?, ← get?, free]
          exact Bool.false_ne_true
        exact Std.ExtTreeMap.size_insert.trans (if_neg new)

/-- Repeating creations adds what they make, and one record with each. -/
theorem replay_of_adds (adds : ∀ write ∈ log, write.Adds fits) (done : store.replay log = .ok later) :
    (∀ id record, later.get? id = some record ↔ store.get? id = some record ∨
      record.id = id ∧ ∃ write ∈ log, write.record? = some record) ∧
    later.size = store.size + log.length := by
  induction log generalizing store with
  | nil =>
      cases done
      simp
  | cons write rest ih =>
      rcases (replay_cons store write rest).mp done with ⟨between, applied, further⟩
      rcases apply_of_adds (adds write List.mem_cons_self) applied with ⟨here, one⟩
      rcases ih (fun other member => adds other (List.mem_cons_of_mem _ member)) further with
        ⟨records, others⟩
      refine ⟨fun id record => ?_, by rw [others, one, List.length_cons]; omega⟩
      rw [records, here]
      simp only [List.mem_cons, exists_eq_or_imp, and_or_left, or_assoc]

/-- What is within identifiers is no more than they are. -/
theorem Within.size_le (within : store.Within allocator issued) : store.size ≤ issued.length := by
  rw [size, ← Std.ExtTreeMap.length_keys]
  have once : store.records.keys.Nodup := Std.ExtTreeMap.nodup_keys
  refine (List.subperm_of_subset once fun id member => ?_).length_le
  rw [Std.ExtTreeMap.mem_keys, Std.ExtTreeMap.mem_iff_isSome_getElem?,
    Option.isSome_iff_exists] at member
  rcases member with ⟨record, live⟩
  exact within.live id record live

end Store

/-- A creation under a free identifier adds a record that fits, and is logged. -/
theorem Edit.run_of_adds {fits : Record → Prop} {request : Edit} {transaction next : Transaction}
    {allocators after : Allocators} {handed : List EntityId} (adds : request.Adds fits)
    (free : transaction.store.get? (allocators.allocate transaction.store.allocator).1 = none)
    (done : request.run transaction allocators = .ok (next, after, handed)) :
    transaction.store.PartOf next.store ∧
      (∀ id record, next.store.get? id = some record →
        transaction.store.get? id = some record ∨ fits record) ∧
      ∀ write ∈ next.log, write ∈ transaction.log ∨ write.Adds fits := by
  cases run_makes done with
  | deleted active removes => exact adds.elim
  | created active placed =>
      have records := Store.get?_of_create placed
      rcases Store.create_eq_ok placed with ⟨draft, -, rfl, rfl, -⟩
      refine ⟨fun id record old => Store.get?_place_of_live free old, fun id record live => ?_,
        fun write member => ?_⟩
      · rw [records] at live
        split at live
        · cases live
          exact .inr (adds _)
        · exact .inl live
      · rcases List.mem_append.mp member with old | last
        · exact .inl old
        · exact .inr ⟨_, congrArg Write.record? (List.mem_singleton.mp last), adds _⟩

/-! ## Sessions -/

/-- A transaction that has only created, and only what fits, beside what was
committed when it began. -/
structure Handle.Creates (fits : Record → Prop) (committed : Store) (handle : Handle) : Prop where
  origin : handle.origin.PartOf committed
  working : ∀ (id : EntityId) (record : Record), handle.transaction.store.get? id = some record →
    fits record
  logged : ∀ write ∈ handle.transaction.log, write.Adds fits

namespace Session

variable {session middle later : Session} {initial : Engine} {allocator : Allocator}
  {handle : Handle} {place : Nat} {fits : Record → Prop} {permitted : Store → Edit → Prop}

/-- A later session has all that was committed in an earlier one, and each place
has all that its transaction worked on. -/
structure PartOf (session later : Session) : Prop where
  committed : session.engine.store.PartOf later.engine.store
  working : ∀ (place : Nat) (handle : Handle), session.handles[place]? = some handle →
    ∃ next, later.handles[place]? = some next ∧
      handle.transaction.store.PartOf next.transaction.store

theorem PartOf.refl (session : Session) : session.PartOf session :=
  ⟨.refl _, fun _ handle found => ⟨handle, found, .refl _⟩⟩

theorem PartOf.trans (first : session.PartOf middle) (second : middle.PartOf later) :
    session.PartOf later := by
  refine ⟨first.committed.trans second.committed, fun place handle found => ?_⟩
  rcases first.working place handle found with ⟨between, there, grows⟩
  rcases second.working place between there with ⟨next, here, further⟩
  exact ⟨next, here, grows.trans further⟩

/-- No type has been registered in the session. -/
def Unregistered (session : Session) : Prop :=
  ∀ type, .registered type ∉ session.history

theorem Unregistered.of_reaches (unregistered : later.Unregistered)
    (reaches : session.Reaches permitted later) : session.Unregistered :=
  fun type member => unregistered type (reaches.grows.2.subset member)

theorem Unregistered.commit (unregistered : session.Unregistered) (place : Nat)
    (handle : Handle) : (session.commit place handle).Unregistered := by
  unfold Session.commit
  dsimp only
  split
  · exact unregistered
  · intro type member
    split at member
    · exact unregistered type member
    · rcases List.mem_append.mp member with old | last
      · exact unregistered type old
      · cases List.mem_singleton.mp last

/-- A session whose transactions have only created, and only what fits. -/
structure Creating (fits : Record → Prop) (initial : Engine) (allocator : Allocator)
    (session : Session) : Prop where
  regular : session.Regular allocator
  faithful : session.Faithful initial
  versions : session.history.length ≤ session.engine.store.size
  committed : ∀ (id : EntityId) (record : Record), session.engine.store.get? id = some record →
    fits record
  handles : ∀ handle ∈ session.handles, handle.Creates fits session.engine.store

theorem Creating.start {world : World} {engine : Engine}
    (regular : (start world engine).Regular allocator)
    (fitting : ∀ (id : EntityId) (record : Record), engine.store.get? id = some record →
      fits record) : (start world engine).Creating fits engine allocator where
  regular := regular
  faithful := .start world engine
  versions := Nat.zero_le _
  committed := fitting
  handles _ member := (List.not_mem_nil member).elim

namespace Creating

section Steps

variable (creating : session.Creating fits initial allocator)
  (few : session.issued.length < UInt64.size)
include creating few

theorem fewVersions : session.history.length < UInt64.size :=
  Nat.lt_of_le_of_lt
    (creating.versions.trans creating.regular.accounted.committed.size_le) few

variable (member : handle ∈ session.handles) (active : handle.transaction.isActive = true)
include member active

/-- A commit keeps what was committed, and adds what its transaction worked on. -/
theorem outcome {store : Store} (outcome : session.engine.outcome handle.transaction = .ok store) :
    session.engine.store.PartOf store ∧ handle.transaction.store.PartOf store ∧
      (∀ (id : EntityId) (record : Record), store.get? id = some record → fits record) ∧
      store.size = session.engine.store.size + handle.transaction.log.length := by
  rw [creating.faithful.outcome_eq (creating.fewVersions few) member active] at outcome
  have adds := (creating.handles handle member).logged
  rcases Store.replay_of_adds adds outcome with ⟨records, size⟩
  have worked := (Store.replay_of_adds adds (creating.faithful.working handle member active)).1
  refine ⟨fun id record old => (records id record).mpr (.inl old), fun id record live => ?_,
    fun id record live => ?_, size⟩
  · exact (records id record).mpr
      (((worked id record).mp live).imp_left ((creating.handles handle member).origin id record))
  · rcases (records id record).mp live with old | ⟨-, write, listed, makes⟩
    · exact creating.committed id record old
    · rcases adds write listed with ⟨made, same, meets⟩
      cases makes.symm.trans same
      exact meets

omit few in
/-- A transaction that has made nothing has only seen what was committed. -/
theorem partOf_of_idle (empty : handle.transaction.log = []) :
    handle.transaction.store.PartOf session.engine.store := by
  have replays := creating.faithful.working handle member active
  rw [empty, Store.replay_nil] at replays
  exact Except.ok.inj replays ▸ (creating.handles handle member).origin

omit active in
/-- Once a transaction has committed, what it worked on is committed. -/
theorem commit {version : UInt64}
    (commits : (session.engine.commit handle.transaction).1 = .ok version) :
    handle.transaction.store.PartOf (session.engine.commit handle.transaction).2.1.store := by
  have settles := session.engine.commit_settles handle.transaction
  generalize session.engine.commit handle.transaction = settled at settles commits
  cases settles with
  | ended error inactive => cases commits
  | idle active empty => exact creating.partOf_of_idle member active empty
  | installed store active written outcome => exact (creating.outcome few member active outcome).2.1
  | conflict error cause active written outcome => cases commits

end Steps

/-- A transaction is put back by an edit or at its end. -/
theorem put (creating : session.Creating fits initial allocator)
    (found : session.handles[place]? = some handle) {transaction : Transaction}
    {allocators : Allocators} {handed : List EntityId}
    (regular : (session.put place { handle with transaction } allocators handed).Regular allocator)
    (faithful : (session.put place { handle with transaction } allocators handed).Faithful initial)
    (fitting : ∀ (id : EntityId) (record : Record), transaction.store.get? id = some record →
      handle.transaction.store.get? id = some record ∨ fits record)
    (logs : ∀ write ∈ transaction.log, write ∈ handle.transaction.log ∨ write.Adds fits) :
    (session.put place { handle with transaction } allocators handed).Creating fits initial
      allocator where
  regular := regular
  faithful := faithful
  versions := creating.versions
  committed := creating.committed
  handles := by
    have before := creating.handles handle (List.mem_of_getElem? found)
    have after : Handle.Creates fits session.engine.store { handle with transaction } :=
      ⟨before.origin, fun id record live =>
        (fitting id record live).elim (before.working id record) fun meets => meets,
        fun write member => (logs write member).elim (before.logged write) fun adds => adds⟩
    have all : ∀ other ∈ (session.put place { handle with transaction } allocators handed).handles,
        other.Creates fits session.engine.store := forall_handles_put creating.handles after
    exact all

end Creating

/-- A session that puts a transaction back with no less than it had has no less. -/
theorem partOf_put (found : session.handles[place]? = some handle) {transaction : Transaction}
    (grows : handle.transaction.store.PartOf transaction.store) (allocators : Allocators)
    (handed : List EntityId) :
    session.PartOf (session.put place { handle with transaction } allocators handed) := by
  refine ⟨.refl _, fun other another there => ?_⟩
  by_cases same : place = other
  · subst same
    cases found.symm.trans there
    exact ⟨_, getElem?_put found, grows⟩
  · exact ⟨another, (List.getElem?_set_ne same).trans there, .refl _⟩

/-- Moves that only create, and only what fits, take nothing away. -/
theorem Creating.moves (creating : session.Creating fits initial allocator)
    (few : session.issued.length < UInt64.size)
    (adds : ∀ store edit, permitted store edit → edit.Adds fits) (unregistered : later.Unregistered)
    (moves : session.Moves permitted later) :
    later.Creating fits initial allocator ∧ session.PartOf later := by
  have regular := creating.regular.moves few moves
  have faithful := creating.faithful.moves creating.regular.accounted few
    (creating.fewVersions few) moves
  cases moves with
  | stayed => exact ⟨creating, .refl _⟩
  | begun =>
      refine ⟨⟨regular, faithful, creating.versions, creating.committed,
        forall_handles_begin creating.handles ⟨.refl _, creating.committed,
          fun _ member => (List.not_mem_nil member).elim⟩⟩, .refl _, fun place handle found => ?_⟩
      have within := (List.getElem?_eq_some_iff.mp found).1
      exact ⟨handle, (List.getElem?_append_left within).trans found, .refl _⟩
  | @edited place handle request transaction allocators handed found allowed done =>
      have member := List.mem_of_getElem? found
      have new := creating.regular.accounted.allocate_notMem few member
      have free := (creating.regular.accounted.working handle member).store.get?_eq_none new
      rcases Edit.run_of_adds (adds _ _ allowed) free done with ⟨grows, fitting, logs⟩
      exact ⟨creating.put found regular faithful fitting logs, partOf_put found grows _ _⟩
  | @ended place handle transaction found inactive base store log =>
      have same : handle.transaction.store.PartOf transaction.store := store ▸ .refl _
      exact ⟨creating.put found regular faithful (fun id record live => .inl (store ▸ live))
        fun write member => .inl (log member), partOf_put found same _ _⟩
  | registered done => exact (unregistered _ (List.mem_append_right _ List.mem_cons_self)).elim
  | @committed place handle store found active outcome written =>
      have member := List.mem_of_getElem? found
      rcases creating.outcome few member active outcome with ⟨kept, -, fitting, size⟩
      have closed : handle.transaction.store.PartOf
          { handle.transaction with status := .committed }.store := .refl _
      have put := partOf_put found closed session.allocators []
      have still : ∀ other ∈ session.handles, other.Creates fits store := fun other old =>
        have before := creating.handles other old
        ⟨before.origin.trans kept, before.working, before.logged⟩
      have before := still handle member
      have ended : Handle.Creates fits store
          { handle with transaction := { handle.transaction with status := .committed } } :=
        ⟨before.origin, before.working, before.logged⟩
      have all : ∀ other ∈ (session.put place { handle with
          transaction := { handle.transaction with status := .committed } }
          session.allocators []).handles, other.Creates fits store :=
        forall_handles_put still ended
      refine ⟨⟨regular, faithful, ?_, fitting, all⟩, kept, put.working⟩
      have more := List.length_pos_iff.mpr written
      have versions := creating.versions
      rw [List.length_append, List.length_singleton]
      change session.history.length + 1 ≤ store.size
      omega

theorem Creating.reaches (creating : session.Creating fits initial allocator)
    (adds : ∀ store edit, permitted store edit → edit.Adds fits) (unregistered : later.Unregistered)
    (reaches : session.Reaches permitted later) (few : later.issued.length < UInt64.size) :
    later.Creating fits initial allocator ∧ session.PartOf later := by
  induction reaches with
  | refl => exact ⟨creating, .refl _⟩
  | tail before moves ih =>
      have unregisteredThen := unregistered.of_reaches (.single moves)
      rcases ih unregisteredThen (moves.few few) with ⟨creatingThen, grows⟩
      rcases creatingThen.moves (moves.few few) adds unregistered moves with ⟨creatingNow, further⟩
      exact ⟨creatingNow, grows.trans further⟩

end Session

end EntityBase
