import EntityBase.Config
import EntityBase.Transaction

namespace EntityBase

/-!
# Engines

An engine holds the committed snapshot and its version.  A transaction starts
on that snapshot and is offered back for commit.  When no version has come in
between, its working snapshot becomes the committed one; otherwise its log is
repeated on the newer snapshot, with every check made again.  A refusal there
is a conflict: the engine stays as it was and the transaction is rolled back.

A transaction without writes commits without a new version.

A whole body of work can be run in a transaction.  If the commit meets a
conflict, the body is run again on a fresh snapshot, as often as the settings
allow.  The body is given the number of its attempt and the engine itself,
since other transactions may run while it does, and a state of its caller's
that is carried from attempt to attempt.
-/

/-- The committed snapshot, its version and the settings. -/
structure Engine where
  store : Store
  version : UInt64 := 0
  nextTransaction : UInt64 := 1
  config : Config := {}
deriving DecidableEq

structure Attempt (σ α : Type) where
  outcome : Except Error α
  transaction : Transaction
  engine : Engine
  state : σ

namespace Engine

/-- Register an entity type on the committed snapshot, as a version of its
own. -/
def register (engine : Engine) (type : EntityType) : Except Error (UInt64 × Engine) := do
  let store ← engine.store.register type
  let version := engine.version + 1
  return (version, { engine with store, version })

def begin (engine : Engine) : Transaction × Engine :=
  ({ id := engine.nextTransaction
     baseVersion := engine.version
     store := engine.store
     log := []
     status := .active },
   { engine with nextTransaction := engine.nextTransaction + 1 })

/-- The snapshot that a transaction's writes lead to: its own, when it
started from the committed version, and the repeated log otherwise. -/
def outcome (engine : Engine) (transaction : Transaction) : Except Error Store :=
  if engine.version = transaction.baseVersion then .ok transaction.store
  else engine.store.replay transaction.log

/-- Commit a transaction.  Returns the resulting version or an error, and
both sides as they are afterwards. -/
def commit (engine : Engine) (transaction : Transaction) :
    Except Error UInt64 × Engine × Transaction :=
  if !transaction.isActive then
    (.error ErrorKind.noActiveContext, engine, transaction)
  else if transaction.log.isEmpty then
    (.ok engine.version, engine, { transaction with status := .committed })
  else
    match engine.outcome transaction with
    | .ok store =>
        let version := engine.version + 1
        (.ok version, { engine with store, version }, { transaction with status := .committed })
    | .error cause =>
        (.error (ErrorKind.commitConflict (.refusedWrite transaction.id transaction.baseVersion
          engine.version cause.message)), engine, transaction.rollback)

variable {σ α : Type}

/-- Run a body once in a new transaction and commit it.  A body that fails is
rolled back and its error returned as it is.  The flag says whether the error
came from the commit and may be retried. -/
def attempt (engine : Engine) (body : Transaction → Engine → σ → Attempt σ α) (state : σ) :
    Attempt σ α × Bool :=
  let (transaction, engine) := engine.begin
  let ended := body transaction engine state
  match ended.outcome with
  | .error _ => ({ ended with transaction := ended.transaction.rollback }, false)
  | .ok _ =>
      let (result, engine, transaction) := ended.engine.commit ended.transaction
      match result with
      | .ok _ => ({ ended with engine, transaction }, false)
      | .error error =>
          ({ ended with outcome := .error error, engine, transaction }, error.isRetryable)

/-- Run a body until an attempt does not end in a conflict, with at most
`retries` further attempts after the one numbered `number`. -/
def attempts (engine : Engine) (body : Nat → Transaction → Engine → σ → Attempt σ α)
    (number : Nat) (state : σ) : (retries : Nat) → Attempt σ α
  | 0 => (engine.attempt (body number) state).1
  | retries + 1 =>
      match engine.attempt (body number) state with
      | (ended, false) => ended
      | (ended, true) => ended.engine.attempts body (number + 1) ended.state retries

/-- Run a body in a transaction, again after each conflict as long as the
settings allow.  Attempts are numbered from one. -/
def withTransaction (engine : Engine) (body : Nat → Transaction → Engine → σ → Attempt σ α)
    (state : σ) : Attempt σ α :=
  engine.attempts body 1 state engine.config.maxCommitRetries.toNat

end Engine

end EntityBase
