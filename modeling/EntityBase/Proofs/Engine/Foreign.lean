import EntityBase.Proofs.Engine.Conflict

namespace EntityBase

/-!
# Commits on another engine

An engine tells from the version alone whether a transaction began from its
committed snapshot.  For its own transactions that is enough.  Another engine
may have come to the same number by other changes, and the snapshot that its
transaction works on has never seen what it would replace.

A commit may take away what repeating the log removes, and nothing else.  By
that measure a commit that is refused and a commit that repeats the log are
safe on any engine, and one that installs the working snapshot is as safe as
that snapshot is.
-/

/-- The entities that a write removes from a snapshot. -/
def Write.removes (store : Store) : (write : Write) → List EntityId
  | .create _ _ _ => []
  | .delete id =>
      match store.delete id with
      | .error _ => []
      | .ok (_, removed) => removed

namespace Store

variable {store next : Store} {write : Write} {log : List Write} {id : EntityId} {record : Record}

/-- The entities that repeating a log removes from a snapshot, as far as the
log can be repeated there. -/
def removals (store : Store) : (log : List Write) → List EntityId
  | [] => []
  | write :: rest =>
      match write.apply store with
      | .error _ => []
      | .ok next => write.removes store ++ next.removals rest

/-- One snapshot may take the place of another for a log: it has the records
that the log does not remove, and all the types. -/
structure Spares (store next : Store) (log : List Write) : Prop where
  records : ∀ (id : EntityId) (record : Record), store.get? id = some record →
    id ∉ store.removals log → next.get? id = some record
  types : next.schema.Extends store.schema

/-- A write leaves alone what it does not remove. -/
theorem get?_apply_of_notMem (done : write.apply store = .ok next)
    (live : store.get? id = some record) (kept : id ∉ write.removes store) :
    next.get? id = some record := by
  cases write with
  | create other entityType supplied =>
      rcases insert_eq_ok_iff.mp done with ⟨free, draft, -, rfl⟩
      have different : other ≠ id := by
        rintro rfl
        rw [live] at free
        cases free
      rw [get?_place, if_neg different, live]
  | delete other =>
      rcases apply_delete_eq_ok_iff.mp done with ⟨removed, deleted⟩
      simp only [Write.removes, deleted] at kept
      exact (get?_deleteArranged_iff deleted id record).mpr ⟨live, kept⟩

theorem get?_replay_of_notMem (done : store.replay log = .ok next)
    (live : store.get? id = some record) (kept : id ∉ store.removals log) :
    next.get? id = some record := by
  induction log generalizing store with
  | nil =>
      cases done
      exact live
  | cons write rest ih =>
      rcases (replay_cons store write rest).mp done with ⟨between, applied, rested⟩
      simp only [removals, applied, List.mem_append, not_or] at kept
      exact ih rested (get?_apply_of_notMem applied live kept.1) kept.2

theorem spares_replay (done : store.replay log = .ok next) : store.Spares next log where
  records _ _ live kept := get?_replay_of_notMem done live kept
  types := schema_replay done ▸ Schema.Extends.refl _

end Store

namespace Engine

variable {engine : Engine} {transaction : Transaction}

/-- A commit that succeeds takes away nothing but what the log removes, and one
that is refused leaves the engine as it was. -/
def CommitsSafely (engine : Engine) (transaction : Transaction) : Prop :=
  match engine.commit transaction with
  | (.ok _, next, _) => engine.store.Spares next.store transaction.log
  | (.error _, next, _) => next = engine

/-- A commit is as safe as the snapshot that it would install. -/
theorem CommitsSafely.of_outcome
    (spares : transaction.isActive = true → transaction.log ≠ [] → ∀ store,
      engine.outcome transaction = .ok store → engine.store.Spares store transaction.log) :
    engine.CommitsSafely transaction := by
  have settles := engine.commit_settles transaction
  unfold CommitsSafely
  generalize engine.commit transaction = settled at settles
  cases settles with
  | ended error inactive => rfl
  | idle active empty => exact empty ▸ Store.spares_replay (Store.replay_nil engine.store)
  | installed store active written outcome => exact spares active written store outcome
  | conflict error cause active written outcome => rfl

/-- A commit that repeats the log is safe. -/
theorem CommitsSafely.of_replay
    (repeats : transaction.isActive = true →
      engine.outcome transaction = engine.store.replay transaction.log) :
    engine.CommitsSafely transaction :=
  .of_outcome fun active _ _ outcome => Store.spares_replay ((repeats active).symm.trans outcome)

/-- Whatever transaction an engine is offered, only a working snapshot that it
would install can make the commit unsafe. -/
theorem commitsSafely_iff (active : transaction.isActive = true) :
    engine.CommitsSafely transaction ↔
      (transaction.log ≠ [] → engine.version = transaction.baseVersion →
        engine.store.Spares transaction.store transaction.log) := by
  constructor
  · intro safe written same
    simpa only [CommitsSafely, commit_of_version active written same] using safe
  · intro spares
    by_cases same : engine.version = transaction.baseVersion
    · refine .of_outcome fun _ written store outcome => ?_
      have installs : engine.outcome transaction = .ok transaction.store := if_pos same
      cases installs.symm.trans outcome
      exact spares written same
    · exact .of_replay fun _ => if_neg same

end Engine

/-! ## Transactions of runs -/

namespace Session

variable {session : Session} {handle : Handle}

/-- Take any run, on an engine whose snapshot holds only identifiers that its
allocator has handed out, and an open transaction of it.  Its own engine
commits it safely.  So does any other engine, wherever it comes from, unless
its version happens to be the one that the transaction began from; and then
the commit is safe exactly if the working snapshot has everything that the
other engine has and the log does not remove. -/
theorem commit_elsewhere {world : World} {mayInsert : World → Store → EntityId → Prop}
    {engine : Engine} {actions : List Action} (built : world.Reached mayInsert)
    (handedOut : ∀ (id : EntityId) (record : Record), engine.store.get? id = some record →
      world.HandedOut engine.store id)
    (ran : (start world engine).run actions = session)
    (few : session.issued.length < UInt64.size) (fewVersions : session.history.length < UInt64.size)
    (begun : handle ∈ session.handles) (active : handle.transaction.isActive = true)
    (other : Engine) :
    session.engine.CommitsSafely handle.transaction ∧
      (other.version ≠ handle.transaction.baseVersion → other.CommitsSafely handle.transaction) ∧
      (other.CommitsSafely handle.transaction ↔
        (handle.transaction.log ≠ [] → other.version = handle.transaction.baseVersion →
          other.store.Spares handle.transaction.store handle.transaction.log)) := by
  have accounted := Accounted.start built handedOut
  have reaches : (start world engine).Reaches (fun _ _ => True) session :=
    ran ▸ run_reaches actions fun _ _ _ _ => trivial
  have faithful := (Faithful.start world engine).reaches accounted reaches few fewVersions
  refine ⟨.of_replay fun active => faithful.outcome_eq fewVersions begun active, fun different => ?_,
    Engine.commitsSafely_iff active⟩
  exact .of_replay fun _ => if_neg different

/-! ### Two engines for example -/

namespace Sample

def stamp : EntityType :=
  { name := "Stamp" }

/-- A task, which both engines start with. -/
def assigned : World :=
  ([.register task, .create "Task" [("rank", .int 1)]] : List StoreCall).foldl World.advance
    ({} : World).withNew

def assignment : Store :=
  assigned.stores.head?.getD (Store.new ∅).1

/-- On one engine, a transaction deletes the task.  It begins at the first
version, after a type has been registered. -/
def clearing : Session :=
  (start assigned { store := assignment }).run [
    .register stamp,
    .begin,
    .edit 0 (.delete ⟨0⟩)]

/-- The other engine has committed a second task, and is at its first version
too. -/
def adding : Session :=
  (start assigned { store := assignment }).run [
    .begin,
    .edit 0 (.create "Task" [("rank", .int 2)]),
    .commit 0]

/-- The other engine, one version later. -/
def added : Session :=
  adding.step (.register stamp)

theorem lawful_assigned : assigned.Lawful :=
  World.Lawful.advances (.new .start) (by simp [StoreCall.inserted?])

theorem assignment_mem : assignment ∈ assigned.stores :=
  newest_mem (by cbv)

theorem clearing_counts : clearing.issued.length = 1 ∧ clearing.history.length = 1 := by
  constructor <;> cbv

theorem clearing_open : (clearing.handles[0]?).map (fun handle =>
    (handle.transaction.isActive, handle.transaction.baseVersion,
      adding.engine.store.removals handle.transaction.log)) = some (true, 1, [⟨0⟩]) := by
  cbv

theorem clearing_offered : (clearing.handles[0]?).map (fun handle =>
    (adding.engine.store.records.keys,
      ((adding.engine.commit handle.transaction).1,
        (adding.engine.commit handle.transaction).2.1.store.records.keys),
      (added.engine.commit handle.transaction).1,
      (added.engine.commit handle.transaction).2.1.store.records.keys)) =
    some ([⟨0⟩, ⟨1⟩], (.ok 2, []), .ok 3, [⟨1⟩]) := by
  cbv

/-- Offered to the other engine, the open transaction takes the second task
along.  One version later it does not. -/
theorem exists_clearing : ∃ handle ∈ clearing.handles, handle.transaction.isActive = true ∧
    handle.transaction.baseVersion = 1 ∧
    adding.engine.store.removals handle.transaction.log = [⟨0⟩] ∧
    adding.engine.store.contains ⟨1⟩ = true ∧
    (∃ version next ended, adding.engine.commit handle.transaction = (.ok version, next, ended) ∧
      next.store.contains ⟨1⟩ = false) ∧
    (added.engine.commit handle.transaction).1 = .ok 3 ∧
    (added.engine.commit handle.transaction).2.1.store.contains ⟨1⟩ = true := by
  rcases Option.map_eq_some_iff.mp clearing_open with ⟨handle, found, opened⟩
  have offered := clearing_offered
  simp only [found, Option.map_some, Option.some_inj, Prod.mk.injEq] at opened offered
  rcases opened with ⟨active, base, removes⟩
  rcases offered with ⟨stands, ⟨committed, left⟩, later, leftLater⟩
  refine ⟨handle, List.mem_of_getElem? found, active, base, removes, ?_,
    ⟨_, _, _, Prod.ext committed rfl, Bool.eq_false_iff.mpr fun live => ?_⟩, later, ?_⟩
  · exact (contains_iff_mem_keys stands ⟨1⟩).mpr (by decide)
  · exact List.not_mem_nil ((contains_iff_mem_keys left ⟨1⟩).mp live)
  · exact (contains_iff_mem_keys leftLater ⟨1⟩).mpr (by decide)

end Sample

/-- Two engines on a snapshot of a lawful history.  The second accepts a
transaction of the first, and loses an entity that the log would leave. -/
theorem commit_loses : ∃ handle ∈ Sample.clearing.handles,
    Sample.assigned.Lawful ∧ Sample.assignment ∈ Sample.assigned.stores ∧
      handle.transaction.isActive = true ∧
      ∃ version next ended,
        Sample.adding.engine.commit handle.transaction = (.ok version, next, ended) ∧
        Sample.adding.engine.store.contains ⟨1⟩ = true ∧
        ⟨1⟩ ∉ Sample.adding.engine.store.removals handle.transaction.log ∧
        next.store.contains ⟨1⟩ = false := by
  rcases Sample.exists_clearing with
    ⟨handle, member, active, -, removes, live, ⟨version, next, ended, committed, gone⟩, -⟩
  exact ⟨handle, member, Sample.lawful_assigned, Sample.assignment_mem, active, version, next, ended,
    committed, live, by simp [removes], gone⟩

/-- In the example, the transaction's own engine would commit it safely.  The
other engine would too once it is a version further, and keeps the task. -/
theorem commit_elsewhere_later : ∃ handle ∈ Sample.clearing.handles,
    Sample.clearing.engine.CommitsSafely handle.transaction ∧
      Sample.added.engine.CommitsSafely handle.transaction ∧
      (Sample.added.engine.commit handle.transaction).1 = .ok 3 ∧
      (Sample.added.engine.commit handle.transaction).2.1.store.contains ⟨1⟩ = true := by
  rcases Sample.exists_clearing with ⟨handle, member, active, base, -, -, -, committed, stays⟩
  rcases Sample.clearing_counts with ⟨issued, versions⟩
  have few : Sample.clearing.issued.length < UInt64.size := by rw [issued]; decide
  have fewVersions : Sample.clearing.history.length < UInt64.size := by rw [versions]; decide
  have handedOut := (Sample.lawful_assigned.keeps Sample.assignment_mem).handedOut
  have ran : (start Sample.assigned { store := Sample.assignment }).run _ = Sample.clearing := rfl
  have further : Sample.added.engine.version = 2 := by cbv
  rcases commit_elsewhere Sample.lawful_assigned handedOut ran few fewVersions member active
    Sample.added.engine with ⟨own, apart, -⟩
  refine ⟨handle, member, own, apart ?_, committed, stays⟩
  rw [further, base]
  decide

end Session

end EntityBase
