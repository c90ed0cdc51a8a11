import EntityBase.Store.Create
import EntityBase.Store.Delete
import EntityBase.Store.Find

namespace EntityBase

/-!
# Transactions

A transaction works on a snapshot of its own and logs its writes, so that
they can be repeated on another snapshot.  While it is active it can be read
and written; once committed or rolled back it refuses everything with the
same error, whatever the arguments.

Only writes that succeed are logged.  A creation is logged with the
identifier it was given, and a deletion by its target alone: repeating it
cascades over what is there by then.
-/

/-- A logged write. -/
inductive Write where
  | create (id : EntityId) (entityType : String) (supplied : List (String × Value))
  | delete (id : EntityId)
deriving DecidableEq

def Write.apply (store : Store) : (write : Write) → Except Error Store
  | .create id entityType supplied => store.insert id entityType supplied
  | .delete id => (store.delete id).map (·.1)

/-- Repeat a log on a snapshot, stopping at the first write that is refused. -/
def Store.replay (store : Store) (log : List Write) : Except Error Store :=
  log.foldlM Write.apply store

@[simp]
theorem Store.replay_nil (store : Store) : store.replay [] = .ok store :=
  rfl

/-- A log may be repeated in two parts. -/
theorem Store.replay_append (store : Store) (first second : List Write) :
    store.replay (first ++ second) = (store.replay first).bind (·.replay second) :=
  List.foldlM_append

inductive TransactionStatus where
  | active
  | committed
  | rolledBack
deriving DecidableEq, Repr

/-- A unit of work on one snapshot. -/
structure Transaction where
  id : UInt64
  /-- The committed version that the work started from. -/
  baseVersion : UInt64
  store : Store
  log : List Write
  status : TransactionStatus
deriving DecidableEq

namespace Transaction

def isActive (transaction : Transaction) : Bool :=
  transaction.status = .active

/-- Succeeds exactly on an active transaction. -/
def ensureActive (transaction : Transaction) : Except Error Unit :=
  if transaction.isActive then .ok () else .error ErrorKind.noActiveContext

def current (transaction : Transaction) : Except Error Store := do
  transaction.ensureActive
  return transaction.store

/-- Everything that a transaction does starts from here, so this is also
what all of it does once the transaction has ended. -/
theorem current_eq (transaction : Transaction) :
    transaction.current =
      if transaction.isActive then .ok transaction.store else .error ErrorKind.noActiveContext := by
  unfold current ensureActive
  split <;> rfl

def create (transaction : Transaction) (allocators : Allocators) (entityType : String)
    (supplied : List (String × Value)) :
    Except Error (EntityId × Transaction × Allocators) := do
  let before ← transaction.current
  let (id, store, allocators) ← before.create allocators entityType supplied
  let log := transaction.log ++ [.create id entityType supplied]
  return (id, { transaction with store, log }, allocators)

def delete (transaction : Transaction) (id : EntityId) :
    Except Error (List EntityId × Transaction) := do
  let before ← transaction.current
  let (store, removed) ← before.delete id
  let log := transaction.log ++ [.delete id]
  return (removed, { transaction with store, log })

/-! ## Reads -/

def find (transaction : Transaction) (entityType field : String) (value : Value) :
    Except Error Matches := do
  let store ← transaction.current
  store.find entityType field value

def single (transaction : Transaction) (entityType field : String) (value : Value) :
    Except Error (Option EntityId) := do
  let store ← transaction.current
  store.single entityType field value

def get? (transaction : Transaction) (id : EntityId) : Except Error (Option Record) := do
  let store ← transaction.current
  return store.get? id

def value? (transaction : Transaction) (id : EntityId) (field : String) :
    Except Error (Option Value) := do
  let store ← transaction.current
  return store.value? id field

def contains (transaction : Transaction) (id : EntityId) : Except Error Bool := do
  let store ← transaction.current
  return store.contains id

/-! ## The end of a transaction -/

/-- Abandon the work.  A transaction that has ended already stays as it is. -/
def rollback (transaction : Transaction) : Transaction :=
  if transaction.isActive then { transaction with status := .rolledBack, log := [] }
  else transaction

@[simp]
theorem isActive_rollback (transaction : Transaction) : transaction.rollback.isActive = false := by
  unfold rollback
  split
  case isTrue => rfl
  case isFalse inactive => exact Bool.eq_false_iff.2 inactive

@[simp]
theorem rollback_rollback (transaction : Transaction) :
    transaction.rollback.rollback = transaction.rollback := by
  rw [rollback, isActive_rollback]
  rfl

end Transaction

end EntityBase
