import Mathlib.Data.List.Permutation
import EntityBase.Proofs.Engine.Freshness

namespace EntityBase

/-!
# The fast path and the log

A commit installs the working snapshot as it is when no version has come in
between.  It could as well repeat the log: both lead to the same snapshot, with
the same records, index and schema.  Three facts together make that so.  Below
the wrap a version number belongs to one committed snapshot, so a transaction
whose base version is the current one began from the current snapshot.  The
log leads from there to the working snapshot.  And the log can be repeated at
all, because the identifiers in it were new when they were handed out.

Seen from outside, the committed snapshot is therefore the initial one with
all registrations and committed logs repeated in order.
-/

theorem Store.evolve_append {initial store : Store} {history : List Change}
    (before : initial.evolve history = .ok store) (rest : List Change) :
    initial.evolve (history ++ rest) = store.evolve rest := by
  rw [evolve, List.foldlM_append, ← evolve, before]
  rfl

theorem Store.evolve_concat {initial store : Store} {history : List Change} {change : Change}
    (before : initial.evolve history = .ok store) :
    initial.evolve (history ++ [change]) = change.apply store :=
  (evolve_append before [change]).trans (bind_pure (change.apply store))

/-! ## Edits and the log -/

namespace Edit

variable {transaction next : Transaction} {allocators after : Allocators} {allocator : Allocator}
  {issued handed : List EntityId} {request : Edit}

/-- An edit that succeeds was asked of an active transaction, and leaves
its base version alone. -/
theorem active_of_run (done : request.run transaction allocators = .ok (next, after, handed)) :
    transaction.isActive = true ∧ next.baseVersion = transaction.baseVersion := by
  cases run_makes done with
  | created active placed => exact ⟨active, rfl⟩
  | deleted active removes => exact ⟨active, rfl⟩

/-- The log leads where the edits have led, as long as identifiers are new. -/
theorem replay_run {origin : Store}
    (new : (allocators.allocate transaction.store.allocator).1 ∉ issued)
    (within : transaction.store.Within allocator issued)
    (done : request.run transaction allocators = .ok (next, after, handed))
    (before : origin.replay transaction.log = .ok transaction.store) :
    origin.replay next.log = .ok next.store := by
  cases run_makes done with
  | created active placed =>
      rcases Store.create_eq_ok placed with ⟨-, -, named, -, -⟩
      have free := within.get?_eq_none (named ▸ new)
      rw [Store.replay_concat before]
      exact Store.insert_of_create placed free
  | deleted active removes =>
      rw [Store.replay_concat before, Write.apply, removes]
      rfl

end Edit

namespace Session

variable {session later : Session} {initial : Engine} {allocator : Allocator} {handle : Handle}
  {permitted : Store → Edit → Prop}

/-- The log of each open transaction leads from where it began to its working
snapshot. -/
def Replays (session : Session) : Prop :=
  ∀ handle ∈ session.handles, handle.transaction.isActive = true →
    handle.origin.replay handle.transaction.log = .ok handle.transaction.store

theorem Replays.put (replays : session.Replays) {place : Nat} {transaction : Transaction}
    {allocators : Allocators} {handed : List EntityId}
    (led : transaction.isActive = true →
      handle.origin.replay transaction.log = .ok transaction.store) :
    (session.put place { handle with transaction } allocators handed).Replays :=
  forall_handles_put replays led

theorem Replays.moves (replays : session.Replays) (accounted : session.Accounted allocator)
    (few : session.issued.length < UInt64.size) (moves : session.Moves permitted later) :
    later.Replays := by
  cases moves with
  | stayed => exact replays
  | begun => exact forall_handles_begin replays fun _ => rfl
  | edited found allowed done =>
      have member := List.mem_of_getElem? found
      have active := (Edit.active_of_run done).1
      have new := accounted.allocate_notMem few member
      have within := (accounted.working _ member).store
      have before := replays _ member active
      exact replays.put fun _ => Edit.replay_run new within done before
  | ended found inactive base store log =>
      exact replays.put fun active => by rw [inactive] at active; cases active
  | registered done => exact replays
  | @committed place handle store found active outcome =>
      have settled : (session.put place
          { handle with transaction := { handle.transaction with status := .committed } }
          session.allocators []).Replays := replays.put fun impossible => by cases impossible
      exact settled

/-- The committed snapshot is what the history leads to, each transaction
began from what an earlier history of its base version led to, and its log
leads from there to its working snapshot. -/
structure Faithful (session : Session) (initial : Engine) : Prop where
  committed : initial.store.evolve session.history = .ok session.engine.store
  version : session.engine.version = initial.version + UInt64.ofNat session.history.length
  begun : ∀ handle ∈ session.handles, ∃ earlier, earlier <+: session.history ∧
    handle.transaction.baseVersion = initial.version + UInt64.ofNat earlier.length ∧
    initial.store.evolve earlier = .ok handle.origin
  working : ∀ handle ∈ session.handles, handle.transaction.isActive = true →
    handle.origin.replay handle.transaction.log = .ok handle.transaction.store

theorem Faithful.start (world : World) (engine : Engine) :
    (start world engine).Faithful engine :=
  ⟨rfl, (UInt64.add_zero _).symm, fun _ member => (List.not_mem_nil member).elim,
    fun _ member => (List.not_mem_nil member).elim⟩

/-- Below the wrap, a version number belongs to one snapshot. -/
theorem Faithful.origin_eq (faithful : session.Faithful initial)
    (few : session.history.length < UInt64.size) (member : handle ∈ session.handles)
    (same : session.engine.version = handle.transaction.baseVersion) :
    handle.origin = session.engine.store := by
  rcases faithful.begun handle member with ⟨earlier, isPrefix, base, led⟩
  rw [faithful.version, base] at same
  have fewEarlier := Nat.lt_of_le_of_lt isPrefix.length_le few
  have lengths := congrArg UInt64.toNat (UInt64.add_right_inj _ |>.mp same)
  rw [UInt64.toNat_ofNat_of_lt' few, UInt64.toNat_ofNat_of_lt' fewEarlier] at lengths
  -- A prefix of the history that is as long as the history is all of it.
  rw [isPrefix.eq_of_length lengths.symm, faithful.committed] at led
  exact (Except.ok.inj led).symm

/-- Whichever way a commit takes, the log decides where it leads. -/
theorem Faithful.outcome_eq (faithful : session.Faithful initial)
    (few : session.history.length < UInt64.size) (member : handle ∈ session.handles)
    (active : handle.transaction.isActive = true) :
    session.engine.outcome handle.transaction =
      session.engine.store.replay handle.transaction.log := by
  unfold Engine.outcome
  split
  · rename_i same
    rw [← faithful.origin_eq few member same, faithful.working handle member active]
  · rfl

/-- A transaction is put back by an edit or at its end. -/
theorem Faithful.put (faithful : session.Faithful initial) {place : Nat} {transaction : Transaction}
    {allocators : Allocators} {handed : List EntityId}
    (found : session.handles[place]? = some handle)
    (base : transaction.baseVersion = handle.transaction.baseVersion)
    (replays : (session.put place { handle with transaction } allocators handed).Replays) :
    (session.put place { handle with transaction } allocators handed).Faithful initial := by
  refine ⟨faithful.committed, faithful.version, forall_handles_put faithful.begun ?_, replays⟩
  rcases faithful.begun handle (List.mem_of_getElem? found) with ⟨earlier, isPrefix, version, led⟩
  exact ⟨earlier, isPrefix, base.trans version, led⟩

theorem Faithful.change (faithful : session.Faithful initial) (change : Change) {store : Store}
    (done : change.apply session.engine.store = .ok store) :
    Faithful
      { session with
        engine := { session.engine with store, version := session.engine.version + 1 }
        history := session.history ++ [change] } initial where
  committed := (Store.evolve_concat faithful.committed).trans done
  version := by
    rw [List.length_append, List.length_singleton, UInt64.ofNat_add, ← UInt64.add_assoc,
      ← faithful.version]
    rfl
  begun := by
    intro handle member
    rcases faithful.begun handle member with ⟨earlier, isPrefix, base, led⟩
    exact ⟨earlier, isPrefix.trans (List.prefix_append _ _), base, led⟩
  working := faithful.working

theorem Faithful.moves (faithful : session.Faithful initial)
    (accounted : session.Accounted allocator)
    (few : session.issued.length < UInt64.size) (fewVersions : session.history.length < UInt64.size)
    (moves : session.Moves permitted later) : later.Faithful initial := by
  have replays := Replays.moves faithful.working accounted few moves
  cases moves with
  | stayed => exact faithful
  | begun =>
      exact ⟨faithful.committed, faithful.version,
        forall_handles_begin faithful.begun
          ⟨session.history, List.prefix_rfl, faithful.version, faithful.committed⟩, replays⟩
  | edited found allowed done => exact faithful.put found (Edit.active_of_run done).2 replays
  | ended found inactive base store log => exact faithful.put found base replays
  | registered done => exact faithful.change (.registered _) done
  | @committed place handle store found active outcome =>
      have settled : (session.put place
          { handle with transaction := { handle.transaction with status := .committed } }
          session.allocators []).Faithful initial :=
        faithful.put found rfl replays
      rw [faithful.outcome_eq fewVersions (List.mem_of_getElem? found) active] at outcome
      exact settled.change (.committed _) outcome

theorem Faithful.reaches (faithful : session.Faithful initial)
    (accounted : session.Accounted allocator)
    (reaches : session.Reaches permitted later) (few : later.issued.length < UInt64.size)
    (fewVersions : later.history.length < UInt64.size) : later.Faithful initial :=
  reaches.keeps_versioned (·.Faithful initial) faithful
    (fun before few fewVersions moves faithful =>
      faithful.moves (accounted.reaches before) few fewVersions moves) few fewVersions

/-- What a commit on the fast path installs is what the log leads to. -/
theorem Faithful.commit_eq (faithful : session.Faithful initial)
    (few : session.history.length < UInt64.size) (member : handle ∈ session.handles)
    (active : handle.transaction.isActive = true)
    (same : session.engine.version = handle.transaction.baseVersion) :
    session.engine.store.replay handle.transaction.log = .ok handle.transaction.store ∧
      (session.engine.commit handle.transaction).2.1.store = handle.transaction.store := by
  have replays := faithful.working handle member active
  rw [faithful.origin_eq few member same] at replays
  refine ⟨replays, ?_⟩
  by_cases empty : handle.transaction.log = []
  · -- Without writes nothing is installed, and the working snapshot is the committed one.
    have idle : (session.engine.commit handle.transaction).2.1 = session.engine := by
      simp [Engine.commit, active, empty]
    rw [empty, Store.replay_nil] at replays
    rw [idle]
    exact Except.ok.inj replays
  · rw [Engine.commit_of_version active empty same]

/-! ## All runs -/

/-- Take any run on an engine whose snapshot, built by store calls or otherwise,
holds only identifiers that its allocator has handed out.  The log of an active
transaction leads from the snapshot it began from to its working snapshot.
Whenever a commit would take the fast path, the log leads from the committed
snapshot to what the commit installs.  And the committed snapshot is what the
history leads to. -/
theorem replay_of_run {world : World} {engine : Engine} {actions : List Action}
    (built : world.Reached fun _ _ _ => True)
    (handedOut : ∀ (id : EntityId) (record : Record), engine.store.get? id = some record →
      world.HandedOut engine.store id)
    (ran : (start world engine).run actions = session)
    (few : session.issued.length < UInt64.size) (fewVersions : session.history.length < UInt64.size) :
    (∀ handle ∈ session.handles, handle.transaction.isActive = true →
      handle.origin.replay handle.transaction.log = .ok handle.transaction.store ∧
        (session.engine.version = handle.transaction.baseVersion →
          session.engine.store.replay handle.transaction.log = .ok handle.transaction.store ∧
            (session.engine.commit handle.transaction).2.1.store = handle.transaction.store)) ∧
      engine.store.evolve session.history = .ok session.engine.store := by
  have accounted := Accounted.start built handedOut
  have reaches : (start world engine).Reaches (fun _ _ => True) session :=
    ran ▸ run_reaches actions fun _ _ _ _ => trivial
  have faithful := (Faithful.start world engine).reaches accounted reaches few fewVersions
  exact ⟨fun handle member active => ⟨faithful.working handle member active,
    faithful.commit_eq fewVersions member active⟩, faithful.committed⟩

namespace Sample

/-- A type without constraints. -/
def task : EntityType :=
  { name := "Task"
    attributes := [{ field := "rank", kind := .value .int, indexed := true }] }

/-- Two transactions at a time.  The second of the first pair commits by its
log.  Of the second pair, one is rolled back and the other is still open. -/
def pairs : Session :=
  (start ({} : World).withNew { store := (Store.new ∅).1 }).run [
    .register task,
    .begin,
    .begin,
    .edit 0 (.create "Task" [("rank", .int 1)]),
    .edit 1 (.create "Task" [("rank", .int 1)]),
    .commit 0,
    .commit 1,
    .begin,
    .begin,
    .edit 2 (.delete ⟨0⟩),
    .rollback 2,
    .edit 3 (.delete ⟨1⟩)]

theorem pairs_counts : pairs.issued.length = 2 ∧ pairs.history.length = 3 := by
  constructor <;> cbv

theorem pairs_handles :
    (pairs.handles.map fun handle => (handle.transaction.isActive, handle.transaction.log.length,
      decide (pairs.engine.version = handle.transaction.baseVersion))) =
      [(false, 1, false), (false, 1, false), (false, 0, true), (true, 1, true)] := by
  cbv

/-- The last transaction is open, has a log and may take the fast path. -/
theorem exists_open : ∃ handle ∈ pairs.handles, handle.transaction.isActive = true ∧
    handle.transaction.log.length = 1 ∧
    pairs.engine.version = handle.transaction.baseVersion := by
  have last := congrArg (·[3]?) pairs_handles
  simp only [List.getElem?_map, Option.map_eq_some_iff, List.getElem?_cons_succ,
    List.getElem?_cons_zero, Prod.mk.injEq, decide_eq_true_eq] at last
  rcases last with ⟨handle, found, active, written, same⟩
  exact ⟨handle, List.mem_of_getElem? found, active, written, same⟩

end Sample

/-- In the example, the log of the open transaction and the history of three
changes can be repeated. -/
theorem replay_of_run_pairs : ∃ handle ∈ Sample.pairs.handles,
    handle.transaction.log.length = 1 ∧
      Sample.pairs.engine.store.replay handle.transaction.log = .ok handle.transaction.store ∧
      Sample.pairs.history.length = 3 ∧
      (Store.new ∅).1.evolve Sample.pairs.history = .ok Sample.pairs.engine.store := by
  have handedOut : ∀ (id : EntityId) (record : Record), (Store.new ∅).1.get? id = some record →
      ({} : World).withNew.HandedOut (Store.new ∅).1 id := by
    intro id record live
    rw [Store.get?_new] at live
    cases live
  rcases Sample.pairs_counts with ⟨issued, versions⟩
  rcases Sample.exists_open with ⟨handle, member, active, written, same⟩
  have ran : (start _ _).run _ = Sample.pairs := rfl
  have few : Sample.pairs.issued.length < UInt64.size := by rw [issued]; decide
  have fewVersions : Sample.pairs.history.length < UInt64.size := by rw [versions]; decide
  rcases replay_of_run (World.Reached.new World.Reached.start) handedOut ran few fewVersions with
    ⟨replays, leads⟩
  exact ⟨handle, member, written, ((replays handle member active).2 same).1, versions, leads⟩

end Session

end EntityBase
