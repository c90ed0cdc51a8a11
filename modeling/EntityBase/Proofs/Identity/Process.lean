import EntityBase.Proofs.Identity.Licence

namespace EntityBase

/-!
# Processes

A process is an engine at work together with the objects that its host holds.
Its transactions bind, adopt, unbind and tear down besides what other
transactions do, and the host takes and drops objects whenever it likes.

Operations on identities are not steps of their own as far as snapshots are
concerned.  Each is a number of edits in one transaction, and between two steps
of a process there is a chain of moves of its session.
-/

namespace Identity

inductive Event where
  | plain (action : Action)
  | bind (place : Nat) (project : Project)
  | adopt (place : Nat) (received : SharedEntity)
  | unbind (place : Nat) (project : Project)
  | teardown (place : Nat) (projectId : ProjectId)
  | take (object : LiveRef) (className : String)
  | drop (object : LiveRef)

/-- Local entities are left to the operations, and an object is only ever bound
under its own project identifier. -/
def Event.Permitted (identityOf : LiveRef → ProjectId) : Event → Prop
  | .plain (.edit _ (.create entityType _)) => entityType ≠ localType
  | .bind _ project => project.id = identityOf project.object
  | _ => True

/-- An engine at work and the host's objects. -/
structure Process where
  session : Session
  host : Host

namespace Process

variable {α : Type} {process : Process} {identityOf : LiveRef → ProjectId} {event : Event}

/-- Do a piece of work in a transaction, and note the identifiers of the
creations that it logs. -/
def work (process : Process) (place : Nat) (work : Work α) : Process :=
  { process with
    session := process.session.withHandle place fun handle =>
      let after := (Work.after work ⟨handle.transaction, process.session.allocators⟩).2
      let logged := after.transaction.log.drop handle.transaction.log.length
      process.session.put place { handle with transaction := after.transaction } after.allocators
        (logged.filterMap Write.created?) }

def step (process : Process) : (event : Event) → Process
  | .plain action => { process with session := process.session.step action }
  | .bind place project => process.work place (bind process.host project)
  | .adopt place received => process.work place (adopt received)
  | .unbind place project => process.work place (unbind process.host project)
  | .teardown place projectId => process.work place (teardown projectId)
  | .take object className => { process with host := process.host.take object className }
  | .drop object => { process with host := process.host.drop object }

def run (process : Process) (events : List Event) : Process :=
  events.foldl step process

end Process

/-! ## Work as moves of a session -/

variable {permitted : Store → Edit → Prop} {session : Session} {place : Nat} {handle : Handle}

/-- What a piece of work has written, a session can be moved to. -/
theorem Writes.reaches (found : session.handles[place]? = some handle) {handed : List EntityId}
    {now : Workspace}
    (writes : Writes permitted ⟨handle.transaction, session.allocators⟩ handed now) :
    session.Reaches permitted
      (session.put place { handle with transaction := now.transaction } now.allocators handed) := by
  induction writes with
  | nothing => exact (Session.put_self found).symm ▸ .refl
  | @edit handed more now request transaction allocators before allowed done ih =>
      have last : (session.put place { handle with transaction := now.transaction } now.allocators
          handed).Moves permitted _ :=
        .edited (Session.getElem?_put found) allowed done
      rw [Session.put_put] at last
      exact ih.tail last

/-- A piece of work moves the session, and hands out what it may at most. -/
theorem Process.work_reaches {process : Process} {α : Type} {work : Work α} {limit : Nat}
    {before : Store → Prop} {after : α → Store → Prop}
    (leads : Leads permitted limit before work after)
    (met : ∀ handle ∈ process.session.handles, before handle.transaction.store) :
    process.session.Reaches permitted (process.work place work).session ∧
      (process.work place work).session.issued.length ≤ process.session.issued.length + limit := by
  unfold Process.work Session.withHandle
  cases found : process.session.handles[place]? with
  | none => exact ⟨.refl, Nat.le_add_right _ _⟩
  | some handle =>
      rcases leads ⟨handle.transaction, process.session.allocators⟩
        (met handle (List.mem_of_getElem? found)) with ⟨⟨handed, few, writes⟩, -⟩
      rcases writes.handed_eq with ⟨logged, log, rfl⟩
      simp only [log, List.drop_left]
      refine ⟨writes.reaches found, ?_⟩
      rw [Session.put, List.length_append]
      exact Nat.add_le_add_left few _

theorem Process.issued_step (process : Process) (event : Event) :
    process.session.issued <+: (process.step event).session.issued := by
  have works : ∀ {α : Type} (place : Nat) (work : Work α),
      process.session.issued <+: (process.work place work).session.issued := by
    intro α place work
    unfold Process.work Session.withHandle
    split
    · exact List.prefix_rfl
    · exact List.prefix_append _ _
  cases event with
  | plain action =>
      have moves : process.session.Moves (fun _ _ => True) (process.session.step action) :=
        Session.step_moves action fun _ _ _ _ _ => trivial
      exact moves.grows.1
  | take object className => exact List.prefix_rfl
  | drop object => exact List.prefix_rfl
  | _ => exact works _ _

theorem Process.issued_run (process : Process) (events : List Event) :
    process.session.issued <+: (process.run events).session.issued := by
  induction events generalizing process with
  | nil => exact List.prefix_rfl
  | cons event rest ih => exact (process.issued_step event).trans (ih _)

/-- Whatever is permitted to happen in a process moves its session by licensed
edits, where the snapshots are coherent and have the identity types.  It hands
out two identifiers at most. -/
theorem Process.step_reaches {process : Process} {identityOf : LiveRef → ProjectId} {event : Event}
    (permitted : event.Permitted identityOf)
    (ready : ∀ handle ∈ process.session.handles,
      handle.transaction.store.Coherent ∧ Installed handle.transaction.store) :
    process.session.Reaches (Licensed identityOf) (process.step event).session ∧
      (process.step event).session.issued.length ≤ process.session.issued.length + 2 := by
  cases event with
  | plain action =>
      have moves : process.session.Moves (Licensed identityOf) (process.session.step action) := by
        refine Session.step_moves action ?_
        rintro place edit handle rfl -
        cases edit with
        | create entityType supplied => exact fun same => absurd same permitted
        | delete id => trivial
      exact ⟨.single moves, Nat.le_succ_of_le moves.issued_le⟩
  | bind place project => exact work_reaches (bind_leads permitted) ready
  | adopt place received =>
      exact And.imp_right Nat.le_succ_of_le (work_reaches (adoptId_leads received.projectId) ready)
  | unbind place project =>
      exact And.imp_right Nat.le_add_right_of_le
        (work_reaches (unbind_leads (fun _ _ => trivial) fun _ => True) fun _ _ => trivial)
  | teardown place projectId =>
      exact And.imp_right Nat.le_add_right_of_le
        (work_reaches (teardown_leads (fun _ _ => trivial) fun _ => True) fun _ _ => trivial)
  | take object className => exact ⟨.refl, Nat.le_add_right _ _⟩
  | drop object => exact ⟨.refl, Nat.le_add_right _ _⟩

/-- Whatever happens in a process, permitted or not, moves its session. -/
theorem Process.step_moves (process : Process) (event : Event) :
    process.session.Reaches Unrestricted (process.step event).session := by
  have anywhere : ∀ handle ∈ process.session.handles, True := fun _ _ => trivial
  cases event with
  | plain action => exact .single (Session.step_moves action fun _ _ _ _ _ => trivial)
  | bind place project => exact (work_reaches (bind_edits process.host project) anywhere).1
  | adopt place received => exact (work_reaches (adoptId_edits received.projectId) anywhere).1
  | unbind place project =>
      exact (work_reaches (unbind_leads (fun _ _ => trivial) fun _ => True) anywhere).1
  | teardown place projectId =>
      exact (work_reaches (teardown_leads (fun _ _ => trivial) fun _ => True) anywhere).1
  | take object className => exact .refl
  | drop object => exact .refl

theorem Process.run_moves (process : Process) (events : List Event) :
    process.session.Reaches Unrestricted (process.run events).session := by
  induction events generalizing process with
  | nil => exact .refl
  | cons event rest ih => exact (process.step_moves event).trans (ih _)

end Identity

end EntityBase
