import EntityBase.Engine
import EntityBase.Proofs.Store.Within

namespace EntityBase

/-!
# Writes and their repetition

A write that succeeds in a transaction appears at the end of its log, and its
effect on the working snapshot is the effect of repeating it there.  For a
deletion that is immediate.  A creation is repeated as an insertion, which
insists that the identifier is free; so the two agree as long as the allocator
hands out identifiers that no entity of the snapshot has.

A snapshot within the identifiers handed out has no entity under the next one.
-/

/-- The identifier that a write creates an entity under. -/
def Write.created? : Write → Option EntityId
  | .create id _ _ => some id
  | .delete _ => none

/-! ## Writes in a transaction -/

namespace Transaction

variable {transaction next : Transaction}

theorem current_eq_ok_iff {store : Store} :
    transaction.current = .ok store ↔ transaction.isActive = true ∧ transaction.store = store := by
  rw [current_eq]
  split
  · rename_i active
    simp [active]
  · rename_i inactive
    simp [inactive]

theorem create_eq_ok {allocators after : Allocators} {entityType : String}
    {supplied : List (String × Value)} {id : EntityId}
    (done : transaction.create allocators entityType supplied = .ok (id, next, after)) :
    transaction.isActive = true ∧ ∃ store,
      transaction.store.create allocators entityType supplied = .ok (id, store, after) ∧
      next = { transaction with
        store
        log := transaction.log ++ [.create id entityType supplied] } := by
  rw [create, Outcome.bind_eq_ok_iff] at done
  rcases done with ⟨before, current, done⟩
  rcases current_eq_ok_iff.mp current with ⟨active, rfl⟩
  rw [Outcome.bind_eq_ok_iff] at done
  rcases done with ⟨⟨other, store, others⟩, created, result⟩
  cases result
  exact ⟨active, store, created, rfl⟩

/-- A creation that the snapshot takes is made and logged. -/
theorem create_of_placed (active : transaction.isActive = true) {allocators after : Allocators}
    {entityType : String} {supplied : List (String × Value)} {id : EntityId} {store : Store}
    (placed : transaction.store.create allocators entityType supplied = .ok (id, store, after)) :
    transaction.create allocators entityType supplied =
      .ok (id, { transaction with
        store
        log := transaction.log ++ [.create id entityType supplied] }, after) := by
  rw [create, Outcome.bind_eq_ok_iff]
  refine ⟨_, current_eq_ok_iff.mpr ⟨active, rfl⟩, ?_⟩
  rw [Outcome.bind_eq_ok_iff]
  exact ⟨_, placed, rfl⟩

/-- A creation that the snapshot refuses is refused. -/
theorem create_of_refused (active : transaction.isActive = true) {allocators : Allocators}
    {entityType : String} {supplied : List (String × Value)} {cause : Error}
    (refused : transaction.store.create allocators entityType supplied = .error cause) :
    transaction.create allocators entityType supplied = .error cause := by
  rw [create, Outcome.bind_eq_error_iff]
  refine .inr ⟨_, current_eq_ok_iff.mpr ⟨active, rfl⟩, ?_⟩
  exact Outcome.bind_eq_error_iff.mpr (.inl refused)

/-- A deletion that the snapshot takes is made and logged. -/
theorem delete_of_removes (active : transaction.isActive = true) {id : EntityId} {store : Store}
    {removed : List EntityId} (removes : transaction.store.delete id = .ok (store, removed)) :
    transaction.delete id =
      .ok (removed, { transaction with store, log := transaction.log ++ [.delete id] }) := by
  rw [delete, Outcome.bind_eq_ok_iff]
  refine ⟨_, current_eq_ok_iff.mpr ⟨active, rfl⟩, ?_⟩
  rw [Outcome.bind_eq_ok_iff]
  exact ⟨_, removes, rfl⟩

/-- A deletion that the snapshot refuses is refused. -/
theorem delete_of_refused (active : transaction.isActive = true) {id : EntityId} {cause : Error}
    (refused : transaction.store.delete id = .error cause) : transaction.delete id = .error cause := by
  rw [delete, Outcome.bind_eq_error_iff]
  refine .inr ⟨_, current_eq_ok_iff.mpr ⟨active, rfl⟩, ?_⟩
  exact Outcome.bind_eq_error_iff.mpr (.inl refused)

theorem delete_eq_ok {id : EntityId} {removed : List EntityId}
    (done : transaction.delete id = .ok (removed, next)) :
    transaction.isActive = true ∧ ∃ store, transaction.store.delete id = .ok (store, removed) ∧
      next = { transaction with store, log := transaction.log ++ [.delete id] } := by
  rw [delete, Outcome.bind_eq_ok_iff] at done
  rcases done with ⟨before, current, done⟩
  rcases current_eq_ok_iff.mp current with ⟨active, rfl⟩
  rw [Outcome.bind_eq_ok_iff] at done
  rcases done with ⟨⟨store, victims⟩, deleted, result⟩
  cases result
  exact ⟨active, store, deleted, rfl⟩

end Transaction

/-! ## Registrations and commits -/

theorem Engine.register_of_accepted {engine : Engine} {type : EntityType} {store : Store}
    (done : engine.store.register type = .ok store) :
    engine.register type =
      .ok (engine.version + 1, { engine with store, version := engine.version + 1 }) := by
  rw [register, done]
  rfl

theorem Engine.register_of_refused {engine : Engine} {type : EntityType} {error : Error}
    (failed : engine.store.register type = .error error) : engine.register type = .error error := by
  rw [register, failed]
  rfl

/-- How an engine settles a transaction that is offered for commit. -/
inductive Engine.Settles (engine : Engine) (transaction : Transaction) :
    Except Error UInt64 × Engine × Transaction → Prop where
  /-- A transaction that has ended is left as it is. -/
  | ended (error : Error) (inactive : transaction.isActive = false) :
      Settles engine transaction (.error error, engine, transaction)
  /-- Without writes there is nothing to install. -/
  | idle (active : transaction.isActive = true) (empty : transaction.log = []) :
      Settles engine transaction
        (.ok engine.version, engine, { transaction with status := .committed })
  | installed (store : Store) (active : transaction.isActive = true)
      (written : transaction.log ≠ []) (outcome : engine.outcome transaction = .ok store) :
      Settles engine transaction (.ok (engine.version + 1),
        { engine with store, version := engine.version + 1 },
        { transaction with status := .committed })
  | conflict (error cause : Error) (active : transaction.isActive = true)
      (written : transaction.log ≠ []) (outcome : engine.outcome transaction = .error cause) :
      Settles engine transaction (.error error, engine, transaction.rollback)

theorem Engine.commit_settles (engine : Engine) (transaction : Transaction) :
    engine.Settles transaction (engine.commit transaction) := by
  unfold commit
  by_cases active : transaction.isActive = true
  · by_cases empty : transaction.log = []
    · simpa [active, empty] using Settles.idle active empty
    · cases outcome : engine.outcome transaction with
      | ok store =>
          simpa [active, empty, outcome] using Settles.installed store active empty outcome
      | error cause =>
          simpa [active, empty, outcome] using Settles.conflict _ cause active empty outcome
  · have inactive := Bool.eq_false_iff.mpr active
    simpa [inactive] using Settles.ended _ inactive

/-- A commit that is refused may be tried again, in a new transaction. -/
theorem Engine.commit_of_refused {engine : Engine} {transaction : Transaction} {cause : Error}
    (active : transaction.isActive = true) (written : transaction.log ≠ [])
    (refused : engine.outcome transaction = .error cause) :
    ∃ error, engine.commit transaction = (.error error, engine, transaction.rollback) ∧
      error.isRetryable = true := by
  refine ⟨(ErrorKind.commitConflict (.refusedWrite transaction.id transaction.baseVersion
    engine.version cause.message) : Error), ?_, rfl⟩
  simp [commit, active, written, refused]

/-- What began from the committed version, or from an older one of that number, is
installed as it is. -/
theorem Engine.commit_of_version {engine : Engine} {transaction : Transaction}
    (active : transaction.isActive = true) (written : transaction.log ≠ [])
    (same : engine.version = transaction.baseVersion) :
    engine.commit transaction = (.ok (engine.version + 1),
      { engine with store := transaction.store, version := engine.version + 1 },
      { transaction with status := .committed }) := by
  have installs : engine.outcome transaction = .ok transaction.store := if_pos same
  simp [commit, active, written, installs]

/-! ## Repeating a log -/

namespace Store

variable {store next : Store} {allocator : Allocator} {issued : List EntityId}

theorem Within.apply (within : store.Within allocator issued) {write : Write}
    (created : ∀ id, write.created? = some id → id ∈ issued)
    (done : write.apply store = .ok next) : next.Within allocator issued := by
  cases write with
  | create id entityType supplied =>
      exact within.insert (created id rfl) done
  | delete id =>
      rcases Outcome.map_eq_ok_iff.mp done with ⟨⟨_, removed⟩, deleted, rfl⟩
      exact within.delete deleted

/-- What the writes of a log keep, repeating the log keeps. -/
theorem replay_keeps (keeps : Store → Prop) {log : List Write}
    (step : ∀ (write : Write) (store next : Store), write ∈ log → keeps store →
      write.apply store = .ok next → keeps next)
    (kept : keeps store) (done : store.replay log = .ok next) : keeps next := by
  induction log generalizing store with
  | nil =>
      cases done
      exact kept
  | cons write rest ih =>
      rw [replay, List.foldlM_cons, Outcome.bind_eq_ok_iff] at done
      rcases done with ⟨between, applied, done⟩
      exact ih (fun write store next member => step write store next (List.mem_cons_of_mem _ member))
        (step write store between List.mem_cons_self kept applied) done

theorem Within.replay (within : store.Within allocator issued) {log : List Write}
    (created : ∀ write ∈ log, ∀ id, write.created? = some id → id ∈ issued)
    (done : store.replay log = .ok next) : next.Within allocator issued :=
  replay_keeps (·.Within allocator issued)
    (fun write _ _ member within applied => within.apply (created write member) applied) within done

/-! ## Repeating a write where it was made -/

/-- A creation and its repetition as an insertion agree where the identifier
is free. -/
theorem insert_of_create {allocators after : Allocators} {entityType : String}
    {supplied : List (String × Value)} {id : EntityId}
    (done : store.create allocators entityType supplied = .ok (id, next, after))
    (free : store.get? id = none) : store.insert id entityType supplied = .ok next := by
  rcases create_eq_ok done with ⟨draft, passed, -, result, -⟩
  exact insert_eq_ok_iff.mpr ⟨free, draft, passed, result.symm⟩

/-- A log with one more write, from what the log leads to. -/
theorem replay_concat {start : Store} {log : List Write} {write : Write}
    (before : start.replay log = .ok store) :
    start.replay (log ++ [write]) = write.apply store := by
  rw [replay_append, before]
  exact bind_pure (write.apply store)

end Store

end EntityBase
