import EntityBase.Proofs.Engine.Changes
import EntityBase.Proofs.Identity.Requests

namespace EntityBase

/-!
# Inertness

A transaction that has been committed or rolled back stays in its process for
good, and stays as it is.  Requests to it change nothing, neither itself nor the
counters nor the engine, so a long sequence of them is refused in the same words
as the first.  What happens elsewhere does not reach it.

Only a commit of a transaction that is still open changes the committed state,
and it ends the transaction.  So each log is applied once at most.
-/

namespace Identity

/-- Make a request to the transaction at a place. -/
def Process.serve (process : Process) (place : Nat) (request : Request) : Process :=
  match request.event? place with
  | none => process
  | some event => process.step event

/-- The answer to a request, if there is a transaction at the place. -/
def Process.answer (process : Process) (place : Nat) (request : Request) :
    Option (Except Error Unit) :=
  (process.session.handles[place]?).map fun handle => request.answer process handle.transaction

/-- Make requests to the transaction at a place, one after another.  Returns the
answers and the process as it is afterwards. -/
def Process.serveAll (process : Process) (place : Nat) :
    (requests : List Request) → List (Option (Except Error Unit)) × Process
  | [] => ([], process)
  | request :: rest =>
      let (answers, last) := (process.serve place request).serveAll place rest
      (process.answer place request :: answers, last)

/-- The transaction at a place answers nothing any more, and nothing that is asked
of it has an effect, on this engine or on another. -/
structure Inert (process : Process) (place : Nat) (handle : Handle) : Prop where
  stands : process.session.handles[place]? = some handle
  refuses : ∀ requests : List Request,
    process.serveAll place requests = (requests.map fun request => some request.refusal, process)
  elsewhere : ∀ other : Engine,
    other.commit handle.transaction = (.error ErrorKind.noActiveContext, other, handle.transaction)

variable {process : Process} {place : Nat} {handle : Handle} {event : Event} {events : List Event}

/-! ## Requests to the session -/

namespace Process

variable (found : process.session.handles[place]? = some handle)
include found

theorem serve_edit_eq (write : Edit) : process.serve place (.edit write) =
    { process with session := process.session.edit place handle write } :=
  congrArg (fun session => { process with session }) (Session.withHandle_of_found found _)

theorem serve_commit_eq : process.serve place .commit =
    { process with session := process.session.commit place handle } :=
  congrArg (fun session => { process with session }) (Session.withHandle_of_found found _)

theorem serve_rollback_eq : process.serve place .rollback =
    { process with session := process.session.rollback place handle } :=
  congrArg (fun session => { process with session }) (Session.withHandle_of_found found _)

end Process

/-! ## Requests to an ended transaction -/

/-- A piece of work that leaves the workspace as it is leaves the process as it
is. -/
theorem Process.work_eq_self {α : Type} {work : Work α}
    (found : process.session.handles[place]? = some handle)
    (idle : (Work.after work ⟨handle.transaction, process.session.allocators⟩).2 =
      ⟨handle.transaction, process.session.allocators⟩) : process.work place work = process := by
  unfold Process.work Session.withHandle
  simp only [found, idle, List.drop_length, List.filterMap_nil]
  rw [Session.put_self found]

theorem serve_of_ended (found : process.session.handles[place]? = some handle)
    (inactive : handle.transaction.isActive = false) (request : Request) :
    process.serve place request = process := by
  have start : (⟨handle.transaction, process.session.allocators⟩ : Workspace).transaction.isActive =
    false := inactive
  cases request with
  | edit write =>
      rw [Process.serve_edit_eq found, Session.edit, write.run_of_ended inactive]
  | bind project =>
      exact Process.work_eq_self found (congrArg Prod.snd (bind_of_ended start process.host project))
  | adopt received =>
      exact Process.work_eq_self found (congrArg Prod.snd (adopt_of_ended start received))
  | unbind project =>
      exact Process.work_eq_self found (congrArg Prod.snd (unbind_of_ended start process.host project))
  | teardown projectId =>
      exact Process.work_eq_self found (congrArg Prod.snd (teardown_of_ended start projectId))
  | commit =>
      simp only [Process.serve_commit_eq found, Session.commit, Transaction.commit_of_ended inactive,
        Session.put_self found]
  | rollback =>
      rw [Process.serve_rollback_eq found, Session.rollback, Transaction.rollback_of_ended inactive,
        Session.put_self found]
  | _ => rfl

theorem serveAll_of_ended (found : process.session.handles[place]? = some handle)
    (inactive : handle.transaction.isActive = false) (requests : List Request) :
    process.serveAll place requests =
      (requests.map fun request => some request.refusal, process) := by
  induction requests with
  | nil => rfl
  | cons request rest ih =>
      have answered : process.answer place request = some request.refusal := by
        rw [Process.answer, found, Option.map_some, Request.answer_of_ended inactive]
      rw [Process.serveAll, serve_of_ended found inactive, ih, answered]
      rfl

theorem inert_of_ended (found : process.session.handles[place]? = some handle)
    (inactive : handle.transaction.isActive = false) : Inert process place handle where
  stands := found
  refuses := serveAll_of_ended found inactive
  elsewhere := Transaction.commit_of_ended inactive

/-! ## An ended transaction among others -/

theorem Process.getElem?_work {α : Type} {other : Nat} (different : other ≠ place) (work : Work α) :
    (process.work other work).session.handles[place]? = process.session.handles[place]? := by
  unfold Process.work Session.withHandle
  split
  · rfl
  · exact List.getElem?_set_ne different

/-- An event that is no request to a transaction leaves it alone. -/
theorem Process.getElem?_step (there : place < process.session.handles.length)
    (elsewhere : ∀ request : Request, request.event? place ≠ some event) :
    (process.step event).session.handles[place]? = process.session.handles[place]? := by
  cases event with
  | plain action =>
      exact Session.getElem?_step there (fun write same => elsewhere (.edit write) (same ▸ rfl))
        (fun same => elsewhere .rollback (same ▸ rfl)) (fun same => elsewhere .commit (same ▸ rfl))
  | bind other project =>
      refine getElem?_work ?_ _
      rintro rfl
      exact elsewhere (.bind project) rfl
  | adopt other received =>
      refine getElem?_work ?_ _
      rintro rfl
      exact elsewhere (.adopt received) rfl
  | unbind other project =>
      refine getElem?_work ?_ _
      rintro rfl
      exact elsewhere (.unbind project) rfl
  | teardown other projectId =>
      refine getElem?_work ?_ _
      rintro rfl
      exact elsewhere (.teardown projectId) rfl
  | take object className => rfl
  | drop object => rfl

theorem getElem?_step_of_ended (found : process.session.handles[place]? = some handle)
    (inactive : handle.transaction.isActive = false) :
    (process.step event).session.handles[place]? = some handle := by
  by_cases through : ∃ request : Request, request.event? place = some event
  · rcases through with ⟨request, same⟩
    have served := serve_of_ended found inactive request
    simp only [Process.serve, same] at served
    rw [served]
    exact found
  · have there := (List.getElem?_eq_some_iff.mp found).1
    have kept := Process.getElem?_step there fun request same => through ⟨request, same⟩
    exact kept.trans found

/-- A transaction that has ended stays as it is, whatever happens. -/
theorem getElem?_run_of_ended (found : process.session.handles[place]? = some handle)
    (inactive : handle.transaction.isActive = false) :
    (process.run events).session.handles[place]? = some handle := by
  induction events generalizing process with
  | nil => exact found
  | cons event rest ih => exact ih (getElem?_step_of_ended found inactive)

/-! ## The end of a transaction -/

theorem ended_serve_rollback (there : place < process.session.handles.length) :
    (process.serve place .rollback).session.Ended place := by
  have found := List.getElem?_eq_getElem there
  rw [Process.serve_rollback_eq found]
  exact ⟨_, Session.getElem?_put found, Transaction.isActive_rollback _⟩

/-- A commit ends its transaction, and one that fails is no more than a rollback,
of which the engine knows nothing. -/
theorem settled_serve_commit (found : process.session.handles[place]? = some handle) :
    (process.serve place .commit).session.Ended place ∧
      ∀ error, process.answer place .commit = some (.error error) →
        process.serve place .commit = process.serve place .rollback ∧
        (process.serve place .commit).session.engine = process.session.engine := by
  have within := (List.getElem?_eq_some_iff.mp found).1
  have settles := process.session.engine.commit_settles handle.transaction
  simp only [Process.serve_commit_eq found, Process.serve_rollback_eq found, Session.commit,
    Session.rollback, Process.answer, found, Option.map_some, Request.answer]
  generalize process.session.engine.commit handle.transaction = settled at settles
  cases settles with
  | ended error inactive =>
      refine ⟨⟨_, List.getElem?_set_self within, inactive⟩, fun _ _ => ⟨?_, rfl⟩⟩
      rw [Transaction.rollback_of_ended inactive]
      rfl
  | idle active empty =>
      exact ⟨⟨_, List.getElem?_set_self within, rfl⟩, fun _ impossible => by cases impossible⟩
  | installed store active written outcome =>
      exact ⟨⟨_, List.getElem?_set_self within, rfl⟩, fun _ impossible => by cases impossible⟩
  | conflict error cause active written outcome =>
      exact ⟨⟨_, List.getElem?_set_self within, handle.transaction.isActive_rollback⟩,
        fun _ _ => ⟨rfl, rfl⟩⟩

/-! ## Changes -/

namespace Process

/-- The change that an event makes, if it makes one. -/
def change? (process : Process) : (event : Event) → Option (Option Nat × Change)
  | .plain action => process.session.change? action
  | _ => none

/-- The changes that a run makes, the oldest first. -/
def changes (process : Process) : (events : List Event) → List (Option Nat × Change)
  | [] => []
  | event :: rest => (process.change? event).toList ++ (process.step event).changes rest

theorem history_work {α : Type} (process : Process) (place : Nat) (work : Work α) :
    (process.work place work).session.history = process.session.history := by
  unfold Process.work Session.withHandle
  split <;> rfl

theorem history_step (process : Process) (event : Event) :
    (process.step event).session.history =
      process.session.history ++ (process.change? event).toList.map Prod.snd := by
  cases event with
  | plain action => exact process.session.history_step action
  | bind place project => exact (history_work process place _).trans (List.append_nil _).symm
  | adopt place received => exact (history_work process place _).trans (List.append_nil _).symm
  | unbind place project => exact (history_work process place _).trans (List.append_nil _).symm
  | teardown place projectId => exact (history_work process place _).trans (List.append_nil _).symm
  | take object className => exact (List.append_nil _).symm
  | drop object => exact (List.append_nil _).symm

/-- The history is what the changes have made it. -/
theorem history_run (process : Process) (events : List Event) :
    (process.run events).session.history =
      process.session.history ++ (process.changes events).map Prod.snd := by
  induction events generalizing process with
  | nil => exact (List.append_nil _).symm
  | cons event rest ih =>
      have later : ((process.step event).run rest).session.history = _ := ih (process.step event)
      rw [changes, List.map_append, ← List.append_assoc, ← history_step, ← later]
      rfl

theorem change?_eq_some {author : Option Nat} {change : Change}
    (made : process.change? event = some (author, change)) :
    ∃ action, event = .plain action ∧ process.session.change? action = some (author, change) := by
  cases event with
  | plain action => exact ⟨action, rfl, made⟩
  | _ => cases made

theorem committed_of_change? {change : Change}
    (made : process.change? event = some (some place, change)) :
    ∃ handle, (process.step event).session.handles[place]? = some handle ∧
      handle.transaction.status = .committed ∧ change = .committed handle.transaction.log := by
  rcases change?_eq_some made with ⟨action, rfl, changes⟩
  exact Session.committed_of_change? changes

end Process

theorem untouched_of_ended (found : process.session.handles[place]? = some handle)
    (inactive : handle.transaction.isActive = false) :
    Session.Untouched (process.changes events) place := by
  induction events generalizing process with
  | nil => exact fun _ member => (List.not_mem_nil member).elim
  | cons event rest ih =>
      refine Session.untouched_append ?_ (ih (getElem?_step_of_ended found inactive))
      rintro ⟨author, change⟩ member rfl
      rcases Process.change?_eq_some (Option.mem_toList.mp member) with ⟨action, rfl, changes⟩
      rcases Session.change?_eq_some changes with ⟨-, other, there, active⟩
      cases found.symm.trans there
      exact Bool.false_ne_true (inactive.symm.trans active)

/-- No transaction makes two changes. -/
theorem nodup_changes (process : Process) (events : List Event) :
    ((process.changes events).filterMap Prod.fst).Nodup := by
  induction events generalizing process with
  | nil => exact List.nodup_nil
  | cons event rest ih =>
      rw [Process.changes, List.filterMap_append]
      cases made : process.change? event with
      | none => exact ih _
      | some change =>
          rcases change with ⟨author, change⟩
          cases author with
          | none => exact ih _
          | some place =>
              refine List.nodup_cons.mpr ⟨fun again => ?_, ih _⟩
              rcases Process.committed_of_change? made with ⟨handle, found, committed, -⟩
              have inactive := Transaction.ended_of_committed committed
              rcases List.mem_filterMap.mp again with ⟨other, member, same⟩
              exact untouched_of_ended found inactive other member same

/-- Who makes a change has been committed in the end, with the log that the change
is made of. -/
theorem committed_of_mem_changes {change : Change}
    (member : (some place, change) ∈ process.changes events) :
    ∃ handle, (process.run events).session.handles[place]? = some handle ∧
      handle.transaction.status = .committed ∧ change = .committed handle.transaction.log := by
  induction events generalizing process with
  | nil => exact (List.not_mem_nil member).elim
  | cons event rest ih =>
      rcases List.mem_append.mp member with now | later
      · rcases Process.committed_of_change? (Option.mem_toList.mp now) with
          ⟨handle, found, committed, same⟩
        have inactive := Transaction.ended_of_committed committed
        have kept : ((process.step event).run rest).session.handles[place]? = some handle :=
          getElem?_run_of_ended found inactive
        exact ⟨handle, kept, committed, same⟩
      · exact ih later

/-! ## Every run -/

/-- A transaction that has been committed or rolled back is inert from then on.  A
commit and a rollback end it, whatever they answer, and a commit that fails only
rolls it back and leaves the engine alone.  No transaction changes the committed
state twice.  What one has changed it by is its log, and every change is one
version. -/
theorem inert_of_run (process : Process) (events later : List Event) :
    let now := process.run events
    (∀ place handle, now.session.handles[place]? = some handle →
      handle.transaction.isActive = false → Inert (now.run later) place handle) ∧
    (∀ place, place < now.session.handles.length →
      (now.serve place .commit).session.Ended place ∧
      (now.serve place .rollback).session.Ended place) ∧
    (∀ place error, now.answer place .commit = some (.error error) →
      now.serve place .commit = now.serve place .rollback ∧
      (now.serve place .commit).session.engine = now.session.engine) ∧
    ((process.changes events).filterMap Prod.fst).Nodup ∧
    (∀ place change, (some place, change) ∈ process.changes events →
      ∃ handle, now.session.handles[place]? = some handle ∧
        handle.transaction.status = .committed ∧
        change = .committed handle.transaction.log) ∧
    now.session.history = process.session.history ++ (process.changes events).map Prod.snd ∧
    now.session.engine.version =
      process.session.engine.version + UInt64.ofNat (process.changes events).length ∧
    (process.changes events = [] → now.session.engine.store = process.session.engine.store) := by
  intro now
  have history : now.session.history = _ := process.history_run events
  rcases (process.run_moves events).versions with ⟨made, grown, version, kept⟩
  have changes : made = (process.changes events).map Prod.snd :=
    List.append_cancel_left (grown.symm.trans history)
  refine ⟨fun place handle found inactive => ?_, fun place there => ?_,
    fun place error answered => ?_, nodup_changes process events,
    fun place change => committed_of_mem_changes, history, ?_, ?_⟩
  · exact inert_of_ended (getElem?_run_of_ended found inactive) inactive
  · have found := List.getElem?_eq_getElem there
    exact ⟨(settled_serve_commit found).1, ended_serve_rollback there⟩
  · rcases Option.map_eq_some_iff.mp answered with ⟨handle, found, -⟩
    exact (settled_serve_commit found).2 error answered
  · rw [version, changes, List.length_map]
  · exact fun none => kept (changes.trans (congrArg _ none))

namespace Sample

/-- An engine without types, and a host without objects. -/
def vacant : Process :=
  ⟨Session.start ({} : World).withNew { store := (Store.new ∅).1 }, {}⟩

/-- Two transactions delete the same draft, and one of them has been committed. -/
def withdrawing : List Event := [
  .plain (.register { name := "Draft" }),
  .plain .begin,
  .plain (.edit 0 (.create "Draft" [])),
  .plain (.commit 0),
  .plain .begin,
  .plain .begin,
  .plain (.edit 1 (.delete ⟨0⟩)),
  .plain (.edit 2 (.delete ⟨0⟩)),
  .plain (.commit 1)]

theorem withdrawing_open : ((vacant.run withdrawing).session.handles[2]?).map (fun handle =>
    (handle.transaction.isActive, handle.transaction.log,
      (vacant.run withdrawing).session.engine.outcome handle.transaction)) =
    some (true, [.delete ⟨0⟩], .error (ErrorKind.entityNotFound ⟨0⟩)) := by
  cbv

theorem withdrawing_changes : (vacant.changes withdrawing).map Prod.fst = [none, some 0, some 1] := by
  cbv

/-- The other one meets a conflict. -/
theorem withdrawing_conflict : 2 < (vacant.run withdrawing).session.handles.length ∧
    ∃ error, (vacant.run withdrawing).answer 2 .commit = some (.error error) := by
  rcases Option.map_eq_some_iff.mp withdrawing_open with ⟨handle, found, opened⟩
  simp only [Prod.mk.injEq] at opened
  rcases opened with ⟨active, log, refused⟩
  have written : handle.transaction.log ≠ [] := by simp [log]
  rcases Engine.commit_of_refused active written refused with ⟨error, committed, -⟩
  refine ⟨(List.getElem?_eq_some_iff.mp found).1, error, ?_⟩
  rw [Process.answer, found, Option.map_some, Request.answer, committed]
  rfl

/-- Someone goes on with that one all the same, while others begin more. -/
def insisting : List Event := [
  .plain (.edit 2 (.create "Draft" [])),
  .plain .begin,
  .adopt 2 ⟨⟨0⟩, ⟨"A"⟩⟩,
  .plain (.edit 3 (.create "Draft" [])),
  .plain (.commit 3),
  .plain (.commit 2)]

end Sample

/-- In the example, the conflict leaves the engine alone, and the transaction is
inert from then on.  The two changes by transactions have been made by others. -/
theorem inert_of_run_withdrawing :
    let offered := Sample.vacant.run Sample.withdrawing
    (∃ error, offered.answer 2 .commit = some (.error error)) ∧
      (offered.serve 2 .commit).session.engine = offered.session.engine ∧
      (∃ handle, Inert ((offered.serve 2 .commit).run Sample.insisting) 2 handle) ∧
      (Sample.vacant.changes Sample.withdrawing).map Prod.fst = [none, some 0, some 1] := by
  intro offered
  rcases Sample.withdrawing_conflict with ⟨there, error, answered⟩
  have ran := inert_of_run Sample.vacant Sample.withdrawing []
  rcases (ran.2.1 2 there).1 with ⟨handle, found, inactive⟩
  have further := inert_of_run (offered.serve 2 .commit) [] Sample.insisting
  exact ⟨⟨error, answered⟩, (ran.2.2.1 2 error answered).2,
    ⟨handle, further.1 2 handle found inactive⟩, Sample.withdrawing_changes⟩

end Identity

end EntityBase
