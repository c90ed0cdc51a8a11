import EntityBase.Proofs.Identity.Process
import EntityBase.Proofs.Identity.Questions

namespace EntityBase

/-!
# Requests and what an ended transaction makes of them

Whatever is asked of a transaction, by whichever way, begins with its snapshot,
and a transaction that has ended does not give it out.  So the answer is always
the same error.  It does not depend on what is asked for, and nothing else has
been looked at by then and nothing written.  Only a rollback does not fail, and
it leaves an ended transaction alone.
-/

namespace Transaction

variable {transaction : Transaction}

theorem ended_of_committed (committed : transaction.status = .committed) :
    transaction.isActive = false := by
  rw [isActive, committed]
  rfl

variable (inactive : transaction.isActive = false)
include inactive

theorem current_of_ended : transaction.current = .error ErrorKind.noActiveContext := by
  rw [current_eq, inactive]
  rfl

/-- All that is done on the snapshot of a transaction fails once it has ended. -/
theorem current_bind_of_ended {α : Type} (rest : Store → Except Error α) :
    (transaction.current >>= rest) = .error ErrorKind.noActiveContext := by
  rw [current_of_ended inactive]
  rfl

theorem rollback_of_ended : transaction.rollback = transaction := by
  rw [rollback, inactive]
  rfl

theorem commit_of_ended (engine : Engine) :
    engine.commit transaction = (.error ErrorKind.noActiveContext, engine, transaction) := by
  rw [Engine.commit, inactive]
  rfl

end Transaction

theorem Edit.run_of_ended {transaction : Transaction} (inactive : transaction.isActive = false)
    (write : Edit) (allocators : Allocators) :
    write.run transaction allocators = .error ErrorKind.noActiveContext := by
  cases write with
  | create entityType supplied =>
      have refused : transaction.create allocators entityType supplied = .error _ :=
        Transaction.current_bind_of_ended inactive _
      rw [run, refused]
      rfl
  | delete id =>
      have refused : transaction.delete id = .error _ :=
        Transaction.current_bind_of_ended inactive _
      rw [run, refused]
      rfl

namespace Identity

/-! ## Lookups -/

section Lookups

variable {transaction : Transaction} (inactive : transaction.isActive = false) (host : Host)
  (project : Project) (projectId : ProjectId) (className : String) (received : SharedEntity)
include inactive

theorem sharedFor?_of_ended :
    sharedFor? transaction projectId = .error ErrorKind.noActiveContext := by
  have looked : transaction.single sharedType projectIdField (projectKey projectId) = .error _ :=
    Transaction.current_bind_of_ended inactive _
  rw [sharedFor?, looked]
  rfl

theorem localOf?_of_ended :
    localOf? host transaction project = .error ErrorKind.noActiveContext := by
  have looked : transaction.single localType objectField (.live project.object) = .error _ :=
    Transaction.current_bind_of_ended inactive _
  rw [localOf?, looked]
  rfl

theorem sharedOf?_of_ended :
    sharedOf? host transaction project = .error ErrorKind.noActiveContext := by
  rw [sharedOf?, localOf?_of_ended inactive]
  rfl

theorem isBound_of_ended : isBound transaction project = .error ErrorKind.noActiveContext := by
  have looked : transaction.find localType objectField (.live project.object) = .error _ :=
    Transaction.current_bind_of_ended inactive _
  rw [isBound, looked]
  rfl

theorem projectOf?_of_ended :
    projectOf? host transaction className received = .error ErrorKind.noActiveContext := by
  have looked : transaction.get? received.id = .error _ :=
    Transaction.current_bind_of_ended inactive _
  rw [projectOf?, resolve?, looked]
  rfl

theorem Question.ask_of_ended (question : Question) :
    question.ask host transaction = .error ErrorKind.noActiveContext := by
  cases question with
  | sharedFor? projectId => rw [ask, sharedFor?_of_ended inactive]; rfl
  | localOf? project => rw [ask, localOf?_of_ended inactive]; rfl
  | sharedOf? project => rw [ask, sharedOf?_of_ended inactive]; rfl
  | sharedOf project => rw [ask, Identity.sharedOf, sharedOf?_of_ended inactive]; rfl
  | isBound project => rw [ask, isBound_of_ended inactive]; rfl
  | projectOf? className received => rw [ask, projectOf?_of_ended inactive]; rfl
  | projectOf className received =>
      rw [ask, Identity.projectOf, projectOf?_of_ended inactive]; rfl
  | toShared project => rw [ask, Identity.toShared, sharedOf?_of_ended inactive]; rfl
  | toLocal project => rw [ask, Identity.toLocal, localOf?_of_ended inactive]; rfl
  | toLive? className received =>
      rw [ask, Identity.toLive?, projectOf?_of_ended inactive]; rfl
  | toLive className received =>
      rw [ask, Identity.toLive, projectOf?_of_ended inactive]; rfl

end Lookups

/-! ## Work -/

section Work

variable {α β : Type} {start : Workspace}

/-- A piece of work goes no further than a first reading that fails. -/
theorem Work.after_look_of_error {reading : Transaction → Except Error α} {rest : α → Work β}
    {error : Error} (failed : reading start.transaction = .error error) :
    Work.after (Work.look reading >>= rest) start = (.error error, start) := by
  rw [Work.after_bind, Work.after_look, failed]

variable (inactive : start.transaction.isActive = false)
include inactive

theorem bind_of_ended (host : Host) (project : Project) :
    Work.after (bind host project) start = (.error ErrorKind.noActiveContext, start) :=
  Work.after_look_of_error (localOf?_of_ended inactive host project)

theorem adopt_of_ended (received : SharedEntity) :
    Work.after (adopt received) start = (.error ErrorKind.noActiveContext, start) :=
  Work.after_look_of_error (sharedFor?_of_ended inactive received.projectId)

theorem unbind_of_ended (host : Host) (project : Project) :
    Work.after (unbind host project) start = (.error ErrorKind.noActiveContext, start) :=
  Work.after_look_of_error (localOf?_of_ended inactive host project)

theorem teardown_of_ended (projectId : ProjectId) :
    Work.after (teardown projectId) start = (.error ErrorKind.noActiveContext, start) :=
  Work.after_look_of_error (sharedFor?_of_ended inactive projectId)

end Work

/-! ## Requests -/

/-- Everything that can be asked of a transaction, its end included. -/
inductive Request where
  | current
  | find (entityType field : String) (value : Value)
  | single (entityType field : String) (value : Value)
  | get? (id : EntityId)
  | value? (id : EntityId) (field : String)
  | contains (id : EntityId)
  | ask (question : Question)
  | edit (write : Edit)
  | bind (project : Project)
  | adopt (received : SharedEntity)
  | unbind (project : Project)
  | teardown (projectId : ProjectId)
  | commit
  | rollback

namespace Request

/-- Whether a request to a transaction of a process succeeds, and the error if it
fails. -/
def answer (process : Process) (transaction : Transaction) (request : Request) :
    Except Error Unit :=
  let start : Workspace := ⟨transaction, process.session.allocators⟩
  match request with
  | .current => discard transaction.current
  | .find entityType field value => discard (transaction.find entityType field value)
  | .single entityType field value => discard (transaction.single entityType field value)
  | .get? id => discard (transaction.get? id)
  | .value? id field => discard (transaction.value? id field)
  | .contains id => discard (transaction.contains id)
  | .ask question => discard (question.ask process.host transaction)
  | .edit write => discard (write.run transaction process.session.allocators)
  | .bind project => discard (Work.after (Identity.bind process.host project) start).1
  | .adopt received => discard (Work.after (Identity.adopt received) start).1
  | .unbind project => discard (Work.after (Identity.unbind process.host project) start).1
  | .teardown projectId => discard (Work.after (Identity.teardown projectId) start).1
  | .commit => discard (process.session.engine.commit transaction).1
  | .rollback => return ()

/-- What a request to the transaction at a place is to the process.  One that
only reads is no event. -/
def event? (place : Nat) : (request : Request) → Option Event
  | .edit write => some (.plain (.edit place write))
  | .bind project => some (.bind place project)
  | .adopt received => some (.adopt place received)
  | .unbind project => some (.unbind place project)
  | .teardown projectId => some (.teardown place projectId)
  | .commit => some (.plain (.commit place))
  | .rollback => some (.plain (.rollback place))
  | _ => none

/-- The answer of a transaction that has ended. -/
def refusal : (request : Request) → Except Error Unit
  | .rollback => .ok ()
  | _ => .error ErrorKind.noActiveContext

end Request

theorem Request.answer_of_ended {process : Process} {transaction : Transaction}
    (inactive : transaction.isActive = false) (request : Request) :
    request.answer process transaction = request.refusal := by
  have refused := fun {α : Type} (rest : Store → Except Error α) =>
    Transaction.current_bind_of_ended inactive rest
  have start : (⟨transaction, process.session.allocators⟩ : Workspace).transaction.isActive = false :=
    inactive
  cases request with
  | current => exact congrArg discard (Transaction.current_of_ended inactive)
  | find entityType field value => exact congrArg discard (refused _)
  | single entityType field value => exact congrArg discard (refused _)
  | get? id => exact congrArg discard (refused _)
  | value? id field => exact congrArg discard (refused _)
  | contains id => exact congrArg discard (refused _)
  | ask question => exact congrArg discard (question.ask_of_ended inactive process.host)
  | edit write => exact congrArg discard (write.run_of_ended inactive _)
  | bind project => rw [answer, bind_of_ended start]; rfl
  | adopt received => rw [answer, adopt_of_ended start]; rfl
  | unbind project => rw [answer, unbind_of_ended start]; rfl
  | teardown projectId => rw [answer, teardown_of_ended start]; rfl
  | commit => rw [answer, Transaction.commit_of_ended inactive]; rfl
  | rollback => rfl

end Identity

end EntityBase
