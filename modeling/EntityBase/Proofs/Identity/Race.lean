import EntityBase.Proofs.Engine.Changes
import EntityBase.Proofs.Identity.Founding

namespace EntityBase

/-!
# Races

Callers race for identities on one engine.  Each runs a body of adoptions and
bindings in a transaction, and again after each conflict, as often as the
settings allow.  What a body asks for may depend on the answers it has had.

The callers take turns, in any order.  In a turn a caller begins an attempt, or
has one piece of its body's work done, or ends the attempt.  A piece is what
allocates once at most.  An adoption is one piece, and a binding is two.
-/

namespace Identity

/-- What a body asks of its transaction, and how it returns. -/
inductive Body where
  | done
  | fail (error : Error)
  | adopt (received : SharedEntity) (next : Except Error SharedEntity → Body)
  | bind (project : Project) (next : Except Error LocalEntity → Body)

/-- What is left of a body, perhaps from the middle of a binding on. -/
inductive Task where
  | body (rest : Body)
  | finish (project : Project) (shared : SharedEntity) (next : Except Error LocalEntity → Body)

/-- An identity that a body has asked for and got. -/
inductive Answer where
  | adopted (received own : SharedEntity)
  | bound (project : Project) (entity : LocalEntity)

namespace Answer

/-- The project that the body has asked for. -/
def projectId : Answer → ProjectId
  | .adopted received _ => received.projectId
  | .bound project _ => project.id

/-- The shared entity that it has got. -/
def shared : Answer → EntityId
  | .adopted _ own => own.id
  | .bound _ entity => entity.shared

/-- What is got from a result, which is nothing from an error. -/
def got {α : Type} (answer : α → Answer) (result : Except Error α) : List Answer :=
  (result.toOption.map answer).toList

end Answer

/-- The next piece of a body's work.  Returns what is left then and what has
been got. -/
def Task.advance (host : Host) (start : Workspace) : (task : Task) → Task × List Answer × Workspace
  | .body (.adopt received next) =>
      let (result, now) := Work.after (adopt received) start
      (.body (next result), Answer.got (.adopted received) result, now)
  | .body (.bind project next) =>
      match Work.after (seek host project) start with
      | (.ok (.inr shared), now) => (.finish project shared next, [], now)
      | (.ok (.inl entity), now) => (.body (next (.ok entity)), [.bound project entity], now)
      | (.error error, now) => (.body (next (.error error)), [], now)
  | .finish project shared next =>
      let (result, now) := Work.after (attach host project shared) start
      (.body (next result), Answer.got (.bound project) result, now)
  | .body rest => (.body rest, [], start)

/-- The result of a body with nothing left to do, after the answers it has had. -/
def Task.result? (answers : List Answer) : (task : Task) → Option (Except Error (List Answer))
  | .body .done => some (.ok answers)
  | .body (.fail error) => some (.error error)
  | _ => none

theorem Task.eq_of_result? {task : Task} {answers all : List Answer}
    (returns : task.result? answers = some (.ok all)) : all = answers := by
  unfold result? at returns
  split at returns
  · cases returns
    rfl
  · cases returns
  · cases returns

inductive Stage where
  /-- About to begin an attempt. -/
  | waiting
  /-- In an attempt, with a transaction at a place. -/
  | working (place : Nat) (task : Task) (answers : List Answer)
  | returned (result : Except Error (List Answer))

/-- A caller with its body for each attempt. -/
structure Call where
  body : Nat → Body
  /-- The number of its attempt, from one. -/
  number : Nat := 1
  stage : Stage := .waiting

namespace Call

/-- What becomes of a call when its attempt has been offered for commit. -/
def settle (call : Call) (retries : Nat) (answers : List Answer) : Except Error UInt64 → Call
  | .ok _ => { call with stage := .returned (.ok answers) }
  | .error error =>
      if error.isRetryable ∧ call.number ≤ retries then
        { call with number := call.number + 1, stage := .waiting }
      else { call with stage := .returned (.error error) }

theorem body_settle (call : Call) (retries : Nat) (answers : List Answer)
    (result : Except Error UInt64) : (call.settle retries answers result).body = call.body := by
  unfold settle
  split
  · rfl
  · split <;> rfl

/-- A turn in an attempt: its end, or the next piece of work. -/
def proceed (call : Call) (host : Host) (session : Session) (place : Nat) (handle : Handle)
    (answers : List Answer) (task : Task) : Session × Call :=
  match task.result? answers with
  | some (.ok answers) =>
      (session.commit place handle, call.settle session.engine.config.maxCommitRetries.toNat answers
        (session.engine.commit handle.transaction).1)
  | some (.error error) =>
      (session.rollback place handle, { call with stage := .returned (.error error) })
  | none =>
      let start : Workspace := ⟨handle.transaction, session.allocators⟩
      let (task, more, now) := task.advance host start
      (session.put place { handle with transaction := now.transaction } now.allocators
          (start.handed now),
        { call with stage := .working place task (answers ++ more) })

def turn (call : Call) (host : Host) (session : Session) : Session × Call :=
  match call.stage with
  | .returned _ => (session, call)
  | .waiting =>
      (session.begin, { call with
        stage := .working session.handles.length (.body (call.body call.number)) [] })
  | .working place task answers =>
      match session.handles[place]? with
      | none => (session, call)
      | some handle => call.proceed host session place handle answers task

theorem issued_turn (call : Call) (host : Host) (session : Session) :
    session.issued <+: (call.turn host session).1.issued := by
  unfold turn
  split
  · exact List.prefix_rfl
  · exact List.prefix_rfl
  · split
    · exact List.prefix_rfl
    · rename_i handle found
      unfold proceed
      split
      · have moves : session.Moves (fun _ _ => True) _ := Session.commit_moves found
        exact moves.grows.1
      · exact List.prefix_append _ _
      · exact List.prefix_append _ _

end Call

structure Race extends Process where
  calls : List Call

namespace Race

/-- Callers that are about to begin, on an engine. -/
def start (world : World) (engine : Engine) (host : Host) (bodies : List (Nat → Body)) : Race where
  session := .start world engine
  host
  calls := bodies.map fun body => { body }

/-- A turn of one of the callers. -/
def step (race : Race) (caller : Nat) : Race :=
  match race.calls[caller]? with
  | none => race
  | some call =>
      let (session, call) := call.turn race.host race.session
      { race with session, calls := race.calls.set caller call }

def run (race : Race) (turns : List Nat) : Race :=
  turns.foldl step race

/-- A turn hands out identifiers and takes none back. -/
theorem issued_step (race : Race) (caller : Nat) :
    race.session.issued <+: (race.step caller).session.issued := by
  unfold step
  split
  · exact List.prefix_rfl
  · exact Call.issued_turn _ _ _

theorem issued_run (race : Race) (turns : List Nat) :
    race.session.issued <+: (race.run turns).session.issued := by
  induction turns generalizing race with
  | nil => exact List.prefix_rfl
  | cons caller rest ih => exact (race.issued_step caller).trans (ih _)

/-- Some call has returned with an answer. -/
def Obtained (race : Race) (answer : Answer) : Prop :=
  ∃ call ∈ race.calls, ∃ answers, call.stage = .returned (.ok answers) ∧ answer ∈ answers

end Race

end Identity

end EntityBase
