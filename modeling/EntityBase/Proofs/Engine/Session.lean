import Mathlib.Logic.Relation
import EntityBase.Proofs.Engine.Writes
import EntityBase.Proofs.Store.History

namespace EntityBase

/-!
# Sessions

A session is an engine at work: the transactions begun on it, open or ended,
and everything that happens to them and to the engine, in whatever order.  Any
number of transactions may be open at a time, and each may be written to,
committed or rolled back at any moment.  Calls that fail are part of a session
too.  A conflict rolls its transaction back, and any other failure leaves the
session as it was.  Deletes walk the index in its own order.  In any other they
would lead to the same snapshots, by `Store.deleteArranged_congr`.

Three things are kept beside the program's own state, so that one can speak of
them: the snapshot that each transaction began from, the identifiers handed
out, and the changes that have made a version.
-/

/-- A transaction and the snapshot that it began from. -/
structure Handle where
  origin : Store
  transaction : Transaction

inductive Edit where
  | create (entityType : String) (supplied : List (String × Value))
  | delete (id : EntityId)

/-- Make a write in a transaction.  Returns the transaction, the counters and
the identifiers handed out. -/
def Edit.run (transaction : Transaction) (allocators : Allocators) :
    (edit : Edit) → Except Error (Transaction × Allocators × List EntityId)
  | .create entityType supplied => do
      let (id, transaction, allocators) ← transaction.create allocators entityType supplied
      return (transaction, allocators, [id])
  | .delete id => do
      let (_, transaction) ← transaction.delete id
      return (transaction, allocators, [])

namespace Edit

/-- What an edit that succeeds does to a transaction. -/
inductive Makes (transaction : Transaction) (allocators : Allocators) :
    Edit → Transaction → Allocators → List EntityId → Prop where
  | created {entityType : String} {supplied : List (String × Value)} {id : EntityId}
      {store : Store} {after : Allocators} (active : transaction.isActive = true)
      (placed : transaction.store.create allocators entityType supplied = .ok (id, store, after)) :
      Makes transaction allocators (.create entityType supplied)
        { transaction with store, log := transaction.log ++ [.create id entityType supplied] }
        after [id]
  | deleted {id : EntityId} {store : Store} {removed : List EntityId}
      (active : transaction.isActive = true)
      (removes : transaction.store.delete id = .ok (store, removed)) :
      Makes transaction allocators (.delete id)
        { transaction with store, log := transaction.log ++ [.delete id] } allocators []

variable {request : Edit} {transaction next : Transaction} {allocators after : Allocators}
  {handed : List EntityId}

theorem run_makes (done : request.run transaction allocators = .ok (next, after, handed)) :
    request.Makes transaction allocators next after handed := by
  cases request with
  | create entityType supplied =>
      rw [Edit.run, Outcome.bind_eq_ok_iff] at done
      rcases done with ⟨⟨id, changed, others⟩, created, result⟩
      cases result
      rcases Transaction.create_eq_ok created with ⟨active, store, placed, rfl⟩
      exact .created active placed
  | delete id =>
      rw [Edit.run, Outcome.bind_eq_ok_iff] at done
      rcases done with ⟨⟨removed, changed⟩, deleted, result⟩
      cases result
      rcases Transaction.delete_eq_ok deleted with ⟨active, store, removes, rfl⟩
      exact .deleted active removes

theorem handed_le (done : request.run transaction allocators = .ok (next, after, handed)) :
    handed.length ≤ 1 := by
  cases run_makes done with
  | created active placed => exact Nat.le_refl 1
  | deleted active removes => exact Nat.zero_le 1

end Edit

/-- A change that makes a version. -/
inductive Change where
  | registered (type : EntityType)
  | committed (log : List Write)

def Change.apply (store : Store) : (change : Change) → Except Error Store
  | .registered type => store.register type
  | .committed log => store.replay log

/-- Make changes on a snapshot one after another. -/
def Store.evolve (store : Store) (history : List Change) : Except Error Store :=
  history.foldlM Change.apply store

/-- A step of a session.  Transactions go by their place in the order in which
they were begun. -/
inductive Action where
  | begin
  | edit (place : Nat) (edit : Edit)
  | rollback (place : Nat)
  | commit (place : Nat)
  | register (type : EntityType)

structure Session where
  engine : Engine
  allocators : Allocators
  /-- The transactions begun so far, the oldest first. -/
  handles : List Handle := []
  /-- The identifiers that the engine's allocator has handed out. -/
  issued : List EntityId
  /-- The changes made so far, the oldest first. -/
  history : List Change := []

namespace Session

variable {session : Session} {place : Nat} {handle : Handle}

/-- A session on an engine whose committed snapshot belongs to a world. -/
def start (world : World) (engine : Engine) : Session :=
  { engine
    allocators := world.allocators
    issued := world.issued engine.store.allocator }

/-- Put a transaction back after work that has handed out identifiers. -/
def put (session : Session) (place : Nat) (handle : Handle) (allocators : Allocators)
    (handed : List EntityId) : Session :=
  { session with
    handles := session.handles.set place handle
    allocators
    issued := session.issued ++ handed }

theorem put_self (found : session.handles[place]? = some handle) :
    session.put place handle session.allocators [] = session := by
  have kept : session.handles.set place handle = session.handles := by
    rcases List.getElem?_eq_some_iff.mp found with ⟨within, rfl⟩
    exact List.set_getElem_self within
  rw [put, kept, List.append_nil]

theorem put_put {first second : Handle} {allocators others : Allocators}
    {handed more : List EntityId} :
    (session.put place first allocators handed).put place second others more =
      session.put place second others (handed ++ more) := by
  simp only [put, List.set_set, List.append_assoc]

theorem getElem?_put (found : session.handles[place]? = some handle) {next : Handle}
    {allocators : Allocators} {handed : List EntityId} :
    (session.put place next allocators handed).handles[place]? = some next :=
  List.getElem?_set_self (List.getElem?_eq_some_iff.mp found).1

def begin (session : Session) : Session :=
  let (transaction, engine) := session.engine.begin
  { session with engine, handles := session.handles ++ [⟨session.engine.store, transaction⟩] }

def edit (session : Session) (place : Nat) (handle : Handle) (edit : Edit) : Session :=
  match edit.run handle.transaction session.allocators with
  | .error _ => session
  | .ok (transaction, allocators, handed) =>
      session.put place { handle with transaction } allocators handed

def rollback (session : Session) (place : Nat) (handle : Handle) : Session :=
  session.put place { handle with transaction := handle.transaction.rollback } session.allocators []

/-- Offer a transaction for commit.  Without writes it makes no version, and
is not part of the history. -/
def commit (session : Session) (place : Nat) (handle : Handle) : Session :=
  let (result, engine, transaction) := session.engine.commit handle.transaction
  let settled := session.put place { handle with transaction } session.allocators []
  match result with
  | .error _ => { settled with engine }
  | .ok _ =>
      let log := handle.transaction.log
      let history := if log.isEmpty then session.history else session.history ++ [.committed log]
      { settled with engine, history }

def register (session : Session) (type : EntityType) : Session :=
  match session.engine.register type with
  | .error _ => session
  | .ok (_, engine) => { session with engine, history := session.history ++ [.registered type] }

/-- Do something with the transaction at a place, if one has been begun. -/
def withHandle (session : Session) (place : Nat) (act : Handle → Session) : Session :=
  match session.handles[place]? with
  | none => session
  | some handle => act handle

theorem withHandle_of_found (found : session.handles[place]? = some handle)
    (act : Handle → Session) : session.withHandle place act = act handle := by
  rw [withHandle, found]

def step (session : Session) : (action : Action) → Session
  | .begin => session.begin
  | .edit place edit => session.withHandle place (session.edit place · edit)
  | .rollback place => session.withHandle place (session.rollback place)
  | .commit place => session.withHandle place (session.commit place)
  | .register type => session.register type

def run (session : Session) (actions : List Action) : Session :=
  actions.foldl step session

/-! ## What a step can do -/

/-- What holds of every handle still does after one is put back, if it holds of
that one. -/
theorem forall_handles_put {property : Handle → Prop}
    (all : ∀ handle ∈ session.handles, property handle) (new : property handle)
    {allocators : Allocators} {handed : List EntityId} :
    ∀ other ∈ (session.put place handle allocators handed).handles, property other := by
  intro other member
  rcases List.mem_or_eq_of_mem_set member with old | same
  · exact all other old
  · exact same ▸ new

theorem forall_handles_begin {property : Handle → Prop}
    (all : ∀ handle ∈ session.handles, property handle)
    (new : property ⟨session.engine.store, session.engine.begin.1⟩) :
    ∀ other ∈ session.begin.handles, property other := by
  intro other member
  rcases List.mem_append.mp member with old | last
  · exact all other old
  · exact List.mem_singleton.mp last ▸ new

/-- All that can happen to a session in one step, with the writes that are
permitted. -/
inductive Moves (permitted : Store → Edit → Prop) (session : Session) : Session → Prop where
  | stayed : Moves permitted session session
  | begun : Moves permitted session session.begin
  | edited {place : Nat} {handle : Handle} {edit : Edit} {transaction : Transaction}
      {allocators : Allocators} {handed : List EntityId}
      (found : session.handles[place]? = some handle)
      (allowed : permitted handle.transaction.store edit)
      (done : edit.run handle.transaction session.allocators =
        .ok (transaction, allocators, handed)) :
      Moves permitted session (session.put place { handle with transaction } allocators handed)
  /-- A transaction ends without a version. -/
  | ended {place : Nat} {handle : Handle} {transaction : Transaction}
      (found : session.handles[place]? = some handle)
      (inactive : transaction.isActive = false)
      (base : transaction.baseVersion = handle.transaction.baseVersion)
      (store : transaction.store = handle.transaction.store)
      (log : transaction.log ⊆ handle.transaction.log) :
      Moves permitted session (session.put place { handle with transaction } session.allocators [])
  | registered {type : EntityType} {store : Store}
      (done : session.engine.store.register type = .ok store) :
      Moves permitted session
        { session with
          engine := { session.engine with store, version := session.engine.version + 1 }
          history := session.history ++ [.registered type] }
  | committed {place : Nat} {handle : Handle} {store : Store}
      (found : session.handles[place]? = some handle)
      (active : handle.transaction.isActive = true)
      (outcome : session.engine.outcome handle.transaction = .ok store)
      (written : handle.transaction.log ≠ []) :
      Moves permitted session
        { session.put place
            { handle with transaction := { handle.transaction with status := .committed } }
            session.allocators [] with
          engine := { session.engine with store, version := session.engine.version + 1 }
          history := session.history ++ [.committed handle.transaction.log] }

variable {permitted : Store → Edit → Prop}

theorem edit_moves (found : session.handles[place]? = some handle) {edit : Edit}
    (allowed : permitted handle.transaction.store edit) :
    session.Moves permitted (session.edit place handle edit) := by
  unfold Session.edit
  split
  · exact .stayed
  · rename_i done
    exact .edited found allowed done

theorem rollback_moves (found : session.handles[place]? = some handle) :
    session.Moves permitted (session.rollback place handle) := by
  refine .ended found handle.transaction.isActive_rollback ?_ ?_ ?_
  · unfold Transaction.rollback
    split <;> rfl
  · unfold Transaction.rollback
    split <;> rfl
  · unfold Transaction.rollback
    split
    · exact List.nil_subset _
    · exact List.Subset.refl _

theorem commit_moves (found : session.handles[place]? = some handle) :
    session.Moves permitted (session.commit place handle) := by
  have settles := session.engine.commit_settles handle.transaction
  unfold Session.commit
  generalize session.engine.commit handle.transaction = settled at settles
  cases settles with
  | ended error inactive => exact .ended found inactive rfl rfl (List.Subset.refl _)
  | idle active empty =>
      simp only [empty, List.isEmpty_nil, if_true]
      exact .ended found rfl rfl rfl (List.nil_subset _)
  | installed store active written outcome =>
      simp only [List.isEmpty_iff, written, if_false]
      exact .committed found active outcome written
  | conflict error cause active written outcome => exact rollback_moves found

theorem register_moves (type : EntityType) : session.Moves permitted (session.register type) := by
  unfold Session.register Engine.register
  cases done : session.engine.store.register type with
  | error cause => exact .stayed
  | ok store => exact .registered done

/-- A step moves a session if its write is permitted. -/
theorem step_moves (action : Action)
    (allowed : ∀ place edit handle, action = .edit place edit →
      session.handles[place]? = some handle → permitted handle.transaction.store edit) :
    session.Moves permitted (session.step action) := by
  have atPlace : ∀ (place : Nat) (act : Handle → Session),
      (∀ handle, session.handles[place]? = some handle → session.Moves permitted (act handle)) →
      session.Moves permitted (session.withHandle place act) := by
    intro place act moves
    unfold withHandle
    split
    · exact .stayed
    · exact moves _ ‹_›
  cases action with
  | begin => exact .begun
  | edit place edit =>
      exact atPlace place _ fun handle found => edit_moves found (allowed place edit handle rfl found)
  | rollback place => exact atPlace place _ fun _ found => rollback_moves found
  | commit place => exact atPlace place _ fun _ found => commit_moves found
  | register type => exact register_moves type

/-- Some moves lead from one session to another. -/
def Reaches (permitted : Store → Edit → Prop) : Session → Session → Prop :=
  Relation.ReflTransGen (Moves permitted)

theorem Moves.mono {weaker : Store → Edit → Prop} {next : Session}
    (weaken : ∀ store edit, permitted store edit → weaker store edit)
    (moves : session.Moves permitted next) : session.Moves weaker next := by
  cases moves with
  | stayed => exact .stayed
  | begun => exact .begun
  | edited found allowed done => exact .edited found (weaken _ _ allowed) done
  | ended found inactive base store log => exact .ended found inactive base store log
  | registered done => exact .registered done
  | committed found active outcome written => exact .committed found active outcome written

theorem Reaches.mono {weaker : Store → Edit → Prop} {next : Session}
    (weaken : ∀ store edit, permitted store edit → weaker store edit)
    (reaches : session.Reaches permitted next) : session.Reaches weaker next :=
  Relation.ReflTransGen.mono (fun _ _ moves => moves.mono weaken) _ _ reaches

/-- A run moves a session if all its writes are permitted. -/
theorem run_reaches (actions : List Action)
    (allowed : ∀ place edit, .edit place edit ∈ actions →
      ∀ store, permitted store edit) :
    session.Reaches permitted (session.run actions) := by
  induction actions generalizing session with
  | nil => exact .refl
  | cons action rest ih =>
      have first : session.Moves permitted (session.step action) :=
        step_moves action fun place edit handle same _ =>
          allowed place edit (same ▸ List.mem_cons_self) handle.transaction.store
      exact .head first (ih fun place edit member => allowed place edit (List.mem_cons_of_mem _ member))

/-- The lists that a session keeps only grow. -/
theorem Moves.grows {next : Session} (moves : session.Moves permitted next) :
    session.issued <+: next.issued ∧ session.history <+: next.history := by
  cases moves <;> simp [put, begin, Engine.begin]

/-- A move hands out one identifier at most. -/
theorem Moves.issued_le {next : Session} (moves : session.Moves permitted next) :
    next.issued.length ≤ session.issued.length + 1 := by
  cases moves with
  | @edited place handle edit transaction allocators handed found allowed done =>
      rw [put, List.length_append]
      exact Nat.add_le_add_left (Edit.handed_le done) _
  | _ => simp [put, begin, Engine.begin]

theorem Reaches.grows {next : Session} (reaches : session.Reaches permitted next) :
    session.issued <+: next.issued ∧ session.history <+: next.history := by
  induction reaches with
  | refl => exact ⟨List.prefix_rfl, List.prefix_rfl⟩
  | tail _ moves ih => exact ⟨ih.1.trans moves.grows.1, ih.2.trans moves.grows.2⟩

theorem Moves.few {next : Session} (moves : session.Moves permitted next)
    (few : next.issued.length < UInt64.size) : session.issued.length < UInt64.size :=
  Nat.lt_of_le_of_lt moves.grows.1.length_le few

theorem Moves.fewVersions {next : Session} (moves : session.Moves permitted next)
    (few : next.history.length < UInt64.size) : session.history.length < UInt64.size :=
  Nat.lt_of_le_of_lt moves.grows.2.length_le few

/-- What every step keeps as long as the counter of identifiers does not wrap, a
session keeps. -/
theorem Reaches.keeps (property : Session → Prop) {later : Session} (kept : property session)
    (step : ∀ {between next : Session}, session.Reaches permitted between →
      between.issued.length < UInt64.size → between.Moves permitted next → property between →
      property next)
    (reaches : session.Reaches permitted later) (few : later.issued.length < UInt64.size) :
    property later := by
  induction reaches with
  | refl => exact kept
  | tail before moves ih => exact step before (moves.few few) moves (ih (moves.few few))

/-- The same as long as the version does not wrap either. -/
theorem Reaches.keeps_versioned (property : Session → Prop) {later : Session}
    (kept : property session)
    (step : ∀ {between next : Session}, session.Reaches permitted between →
      between.issued.length < UInt64.size → between.history.length < UInt64.size →
      between.Moves permitted next → property between → property next)
    (reaches : session.Reaches permitted later) (few : later.issued.length < UInt64.size)
    (fewVersions : later.history.length < UInt64.size) : property later :=
  reaches.keeps (fun later => later.history.length < UInt64.size → property later) (fun _ => kept)
    (fun before few moves kept fewVersions =>
      step before few (moves.fewVersions fewVersions) moves (kept (moves.fewVersions fewVersions)))
    few fewVersions

end Session

end EntityBase
