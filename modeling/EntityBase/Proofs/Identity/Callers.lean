import EntityBase.Proofs.Engine.Attempts
import EntityBase.Proofs.Identity.Race

namespace EntityBase

/-!
# Callers and the engine's loop

A caller of a race does what the engine does when it runs a body in a
transaction.  Whatever the other callers do in an attempt is to the engine part
of the body.  If all they do is in the attempts, none of it between a conflict
and the next attempt, the loop of the engine ends as the call does.

A caller who is alone just runs its body, with bindings in one piece.
-/

namespace Identity

variable {σ : Type} {race : Race} {call : Call} {caller place : Nat} {handle : Handle} {task : Task}
  {answers : List Answer} {outcome : Except Error (List Answer)}

/-! ## The settings of a race -/

theorem Call.config_turn (call : Call) (host : Host) (session : Session) :
    (call.turn host session).1.engine.config = session.engine.config := by
  unfold turn
  split
  · rfl
  · rfl
  · split
    · rfl
    · rename_i handle found
      unfold proceed
      split
      · rw [Session.engine_commit]
        have settles := session.engine.commit_settles handle.transaction
        generalize session.engine.commit handle.transaction = settled at settles
        cases settles <;> rfl
      · rfl
      · rfl

theorem Race.config_step (race : Race) (caller : Nat) :
    (race.step caller).session.engine.config = race.session.engine.config := by
  unfold step
  split
  · rfl
  · exact Call.config_turn _ _ _

theorem Race.config_run (race : Race) (turns : List Nat) :
    (race.run turns).session.engine.config = race.session.engine.config := by
  induction turns generalizing race with
  | nil => rfl
  | cons caller rest ih => exact (ih _).trans (race.config_step caller)

/-! ## Attempts -/

/-- What becomes of a call that has made an attempt. -/
def Call.conclude (call : Call) (retries : Nat) (result : Except Error (List Answer))
    (again : Bool) : Call :=
  if again = true ∧ call.number ≤ retries then
    { call with number := call.number + 1, stage := .waiting }
  else { call with stage := .returned result }

/-- A caller is about to end an attempt, with a body that has returned. -/
structure AtReturn (race : Race) (caller : Nat) (call : Call) (outcome : Except Error (List Answer))
    (transaction : Transaction) : Prop where
  found : race.calls[caller]? = some call
  stage : ∃ place task answers handle, call.stage = .working place task answers ∧
    race.session.handles[place]? = some handle ∧ handle.transaction = transaction ∧
    task.result? answers = some outcome

/-- The turn that ends an attempt does what the engine does at its end. -/
theorem AtReturn.attempt {body : Transaction → Engine → σ → Attempt σ (List Answer)} {engine : Engine}
    {transaction : Transaction} {state next : σ} (arrived : AtReturn race caller call outcome transaction)
    (answered : engine.answer body state = ⟨outcome, transaction, race.session.engine, next⟩) :
    (race.step caller).calls[caller]? =
        some (call.conclude race.session.engine.config.maxCommitRetries.toNat
          (engine.attempt body state).1.outcome (engine.attempt body state).2) ∧
      (race.step caller).session.engine = (engine.attempt body state).1.engine ∧
      (engine.attempt body state).1.state = next := by
  rcases arrived with ⟨found, place, task, answers, handle, stage, there, rfl, returns⟩
  have within := (List.getElem?_eq_some_iff.mp found).1
  simp only [Race.step, found, Call.turn, stage, there, Call.proceed, returns,
    List.getElem?_set_self within]
  cases outcome with
  | error error =>
      have failed : (engine.answer body state).outcome = .error error := by rw [answered]
      rw [Engine.attempt_of_error failed, answered]
      exact ⟨rfl, rfl, rfl⟩
  | ok all =>
      have succeeded : (engine.answer body state).outcome = .ok all := by rw [answered]
      rw [Engine.attempt_of_ok succeeded, answered]
      simp only [Session.engine_commit]
      rcases race.session.engine.commit handle.transaction with ⟨result, settled, closed⟩
      cases result <;> exact ⟨rfl, rfl, rfl⟩

/-! ## Calls -/

/-- A body does in every attempt what a caller of a race does, with whatever the
others do meanwhile.  Its states stand for the race before the attempt. -/
def Plays (caller : Nat) (stands : σ → Race → Prop)
    (body : Nat → Transaction → Engine → σ → Attempt σ (List Answer)) : Prop :=
  ∀ (state : σ) (race : Race) (call : Call), stands state race →
    race.calls[caller]? = some call → call.stage = .waiting →
    ∃ turns stage outcome transaction next,
      AtReturn ((race.step caller).run turns) caller { call with stage } outcome transaction ∧
      race.session.engine.answer (body call.number) state =
        ⟨outcome, transaction, ((race.step caller).run turns).session.engine, next⟩ ∧
      stands next (((race.step caller).run turns).step caller)

theorem Race.run_append (race : Race) (first second : List Nat) :
    race.run (first ++ second) = (race.run first).run second :=
  List.foldl_append

variable {stands : σ → Race → Prop} {state : σ}
  {body : Nat → Transaction → Engine → σ → Attempt σ (List Answer)}

/-- An attempt of the engine is a part of the race. -/
theorem Plays.attempt (plays : Plays caller stands body) (stood : stands state race)
    (found : race.calls[caller]? = some call) (waiting : call.stage = .waiting) :
    ∃ turns, (race.run turns).calls[caller]? =
        some (call.conclude race.session.engine.config.maxCommitRetries.toNat
          (race.session.engine.attempt (body call.number) state).1.outcome
          (race.session.engine.attempt (body call.number) state).2) ∧
      (race.run turns).session.engine =
        (race.session.engine.attempt (body call.number) state).1.engine ∧
      stands (race.session.engine.attempt (body call.number) state).1.state (race.run turns) := by
  rcases plays state race call stood found waiting with
    ⟨turns, stage, outcome, transaction, next, arrived, answered, stoodThen⟩
  rcases arrived.attempt answered with ⟨after, engine, carried⟩
  rw [Race.config_run, Race.config_step] at after
  have ran : race.run (caller :: (turns ++ [caller])) = ((race.step caller).run turns).step caller :=
    (race.step caller).run_append turns [caller]
  exact ⟨_, ran ▸ after, ran ▸ engine, ran ▸ carried ▸ stoodThen⟩

/-- With the attempts that are left, the engine's loop ends as the call does. -/
theorem Plays.attempts (plays : Plays caller stands body) {retries : Nat}
    (stood : stands state race) (found : race.calls[caller]? = some call)
    (waiting : call.stage = .waiting)
    (left : call.number + retries = race.session.engine.config.maxCommitRetries.toNat + 1) :
    ∃ turns last, (race.run turns).calls[caller]? = some last ∧
      last.stage = .returned
        (race.session.engine.attempts body call.number state retries).outcome ∧
      (race.run turns).session.engine =
        (race.session.engine.attempts body call.number state retries).engine := by
  induction retries generalizing state race call with
  | zero =>
      rcases plays.attempt stood found waiting with ⟨turns, after, engine, -⟩
      have spent : ¬ call.number ≤ race.session.engine.config.maxCommitRetries.toNat := by omega
      rw [Call.conclude, if_neg fun retried => spent retried.2] at after
      exact ⟨turns, _, after, rfl, engine⟩
  | succ retries ih =>
      rcases plays.attempt stood found waiting with ⟨turns, after, engine, stoodThen⟩
      unfold Engine.attempts
      rcases attempted : race.session.engine.attempt (body call.number) state with ⟨ended, again⟩
      rw [attempted] at after engine stoodThen
      have remains : call.number ≤ race.session.engine.config.maxCommitRetries.toNat := by omega
      cases again with
      | false =>
          rw [Call.conclude, if_neg fun retried => Bool.false_ne_true retried.1] at after
          exact ⟨turns, _, after, rfl, engine⟩
      | true =>
          rw [Call.conclude, if_pos ⟨rfl, remains⟩] at after
          have settings := race.config_run turns
          rcases ih stoodThen after rfl (by rw [settings]; dsimp only; omega) with
            ⟨more, last, there, returned, settled⟩
          rw [engine] at returned settled
          rw [← Race.run_append] at there settled
          exact ⟨turns ++ more, last, there, returned, settled⟩

/-- The engine runs a body as a caller of a race. -/
theorem Plays.withTransaction (plays : Plays caller stands body) (stood : stands state race)
    (found : race.calls[caller]? = some call) (waiting : call.stage = .waiting)
    (first : call.number = 1) :
    ∃ turns last, (race.run turns).calls[caller]? = some last ∧
      last.stage = .returned (race.session.engine.withTransaction body state).outcome ∧
      (race.run turns).session.engine = (race.session.engine.withTransaction body state).engine := by
  have left : call.number + race.session.engine.config.maxCommitRetries.toNat =
      race.session.engine.config.maxCommitRetries.toNat + 1 := by rw [first, Nat.add_comm]
  have ran := plays.attempts stood found waiting left
  rwa [first] at ran

/-! ## A caller alone -/

/-- Run a body in a transaction from its beginning to its end. -/
def Body.play (host : Host) (answers : List Answer) (start : Workspace) :
    (body : Body) → Except Error (List Answer) × Workspace
  | .done => (.ok answers, start)
  | .fail error => (.error error, start)
  | .adopt received next =>
      let (result, now) := Work.after (Identity.adopt received) start
      (next result).play host (answers ++ Answer.got (.adopted received) result) now
  | .bind project next =>
      let (result, now) := Work.after (Identity.bind host project) start
      (next result).play host (answers ++ Answer.got (.bound project) result) now

/-- The body that runs a caller's bodies, with the counters for its state. -/
def playing (host : Host) (bodies : Nat → Body) (number : Nat) (transaction : Transaction)
    (engine : Engine) (allocators : Allocators) : Attempt Allocators (List Answer) :=
  let (outcome, now) := (bodies number).play host [] ⟨transaction, allocators⟩
  ⟨outcome, now.transaction, engine, now.allocators⟩

/-- A caller is in an attempt and stands at a task, in a workspace. -/
structure Working (race : Race) (caller place : Nat) (call : Call) (task : Task)
    (answers : List Answer) (start : Workspace) : Prop where
  found : race.calls[caller]? = some { call with stage := .working place task answers }
  handle : ∃ handle, race.session.handles[place]? = some handle ∧
    start = ⟨handle.transaction, race.session.allocators⟩

variable {start now : Workspace} {next : Task} {more : List Answer}

/-- In some turns of its own, a caller comes to the return of its body. -/
def ComesTo (race : Race) (caller place : Nat) (call : Call)
    (ended : Except Error (List Answer) × Workspace) : Prop :=
  ∃ turns task answers, Working (race.run turns) caller place call task answers ended.2 ∧
    task.result? answers = some ended.1 ∧ (race.run turns).session.engine = race.session.engine ∧
    (race.run turns).host = race.host

/-- A turn that is not the last of an attempt is a piece of the body's work. -/
theorem Working.step (working : Working race caller place call task answers start)
    (goesOn : task.result? answers = none)
    (advanced : task.advance race.host start = (next, more, now)) :
    Working (race.step caller) caller place call next (answers ++ more) now ∧
      (race.step caller).session.engine = race.session.engine ∧
      (race.step caller).host = race.host := by
  rcases working with ⟨found, handle, there, rfl⟩
  have within := (List.getElem?_eq_some_iff.mp found).1
  simp only [Race.step, found, Call.turn, there, Call.proceed, goesOn, advanced]
  exact ⟨⟨List.getElem?_set_self within, _, Session.getElem?_put there, rfl⟩, rfl, trivial⟩

/-- Where the race comes after a piece of work, it comes from before it. -/
theorem Working.comesTo (working : Working race caller place call task answers start)
    (goesOn : task.result? answers = none)
    (advanced : task.advance race.host start = (next, more, now))
    {ended : Except Error (List Answer) × Workspace}
    (comes : ∀ later : Race, later.host = race.host →
      Working later caller place call next (answers ++ more) now →
      ComesTo later caller place call ended) : ComesTo race caller place call ended := by
  rcases working.step goesOn advanced with ⟨workingThen, engine, host⟩
  rcases comes _ host workingThen with ⟨turns, task, all, ends, returns, sameEngine, sameHost⟩
  exact ⟨caller :: turns, task, all, ends, returns, sameEngine.trans engine, sameHost.trans host⟩

/-- A binding in one piece and in two. -/
theorem after_bind_eq (host : Host) (project : Project) (start : Workspace) :
    Work.after (bind host project) start =
      match Work.after (seek host project) start with
      | (.error error, now) => (.error error, now)
      | (.ok (.inl entity), now) => (.ok entity, now)
      | (.ok (.inr shared), now) => Work.after (attach host project shared) now := by
  rw [bind_eq, Work.after_bind]
  rcases Work.after (seek host project) start with ⟨error | entity | shared, now⟩ <;> rfl

/-- Alone, a caller runs its body. -/
theorem Working.play {rest : Body} (working : Working race caller place call (.body rest) answers start) :
    ComesTo race caller place call (rest.play race.host answers start) := by
  induction rest generalizing race answers start with
  | done => exact ⟨[], _, _, working, rfl, rfl, rfl⟩
  | fail error => exact ⟨[], _, _, working, rfl, rfl, rfl⟩
  | adopt received rest ih =>
      rcases ended : Work.after (adopt received) start with ⟨result, now⟩
      have advanced : Task.advance race.host start (.body (.adopt received rest)) =
          (.body (rest result), Answer.got (.adopted received) result, now) := by
        rw [Task.advance, ended]
      simp only [Body.play, ended]
      exact working.comesTo rfl advanced fun later host workingThen => host ▸ ih _ workingThen
  | bind project rest ih =>
      rcases sought : Work.after (seek race.host project) start with ⟨error | entity | shared, now⟩
      · have advanced : Task.advance race.host start (.body (.bind project rest)) =
            (.body (rest (.error error)), [], now) := by
          rw [Task.advance, sought]
        simp only [Body.play, after_bind_eq, sought]
        exact working.comesTo rfl advanced fun later host workingThen => host ▸ ih _ workingThen
      · have advanced : Task.advance race.host start (.body (.bind project rest)) =
            (.body (rest (.ok entity)), [.bound project entity], now) := by
          rw [Task.advance, sought]
        simp only [Body.play, after_bind_eq, sought]
        exact working.comesTo rfl advanced fun later host workingThen => host ▸ ih _ workingThen
      · have advanced : Task.advance race.host start (.body (.bind project rest)) =
            (.finish project shared rest, [], now) := by
          rw [Task.advance, sought]
        rcases attached : Work.after (attach race.host project shared) now with ⟨result, last⟩
        simp only [Body.play, after_bind_eq, sought, attached]
        refine working.comesTo rfl advanced fun later host workingThen => ?_
        have finished : Task.advance later.host now (.finish project shared rest) =
            (.body (rest result), Answer.got (.bound project) result, last) := by
          rw [Task.advance, host, attached]
        rw [List.append_nil] at workingThen
        exact workingThen.comesTo rfl finished fun latest sameHost workingNow =>
          host ▸ sameHost ▸ ih _ workingNow

/-- The turn that ends an attempt hands out nothing. -/
theorem AtReturn.kept {transaction : Transaction} (arrived : AtReturn race caller call outcome transaction) :
    (race.step caller).session.allocators = race.session.allocators ∧
      (race.step caller).host = race.host ∧
      ∀ last, (race.step caller).calls[caller]? = some last → last.body = call.body := by
  rcases arrived with ⟨found, place, task, answers, handle, stage, there, -, returns⟩
  have within := (List.getElem?_eq_some_iff.mp found).1
  simp only [Race.step, found, Call.turn, stage, there, Call.proceed, returns,
    List.getElem?_set_self within, Option.some.injEq]
  cases outcome with
  | error error => exact ⟨rfl, trivial, fun last same => same ▸ rfl⟩
  | ok all =>
      exact ⟨Session.allocators_commit _ _ _, trivial, fun last same =>
        same ▸ call.body_settle _ _ _⟩

/-- A body of adoptions and bindings plays a caller that is alone. -/
theorem playing_plays (host : Host) (bodies : Nat → Body) (caller : Nat) :
    Plays caller (fun allocators race => race.session.allocators = allocators ∧ race.host = host ∧
      ∀ call, race.calls[caller]? = some call → call.body = bodies) (playing host bodies) := by
  rintro _ race call ⟨rfl, rfl, own⟩ found waiting
  cases own call found
  have within := (List.getElem?_eq_some_iff.mp found).1
  have begun : Working (race.step caller) caller race.session.handles.length call
      (.body (call.body call.number)) []
      ⟨race.session.engine.begin.1, race.session.allocators⟩ := by
    simp only [Race.step, found, Call.turn, waiting]
    exact ⟨List.getElem?_set_self within, _, List.getElem?_concat_length, rfl⟩
  have host : (race.step caller).host = race.host := by
    simp only [Race.step, found]
  have engine : (race.step caller).session.engine = race.session.engine.begin.2 := by
    simp only [Race.step, found, Call.turn, waiting]
    rfl
  rcases begun.play with ⟨turns, task, all, ⟨there, handle, place, now⟩, returns, sameEngine, sameHost⟩
  rw [host] at now returns
  have arrived : AtReturn ((race.step caller).run turns) caller _ _ _ :=
    ⟨there, _, _, _, _, rfl, place, rfl, returns⟩
  rcases arrived.kept with ⟨allocators, hostKept, bodyKept⟩
  refine ⟨turns, _, _, _, _, arrived, ?_, allocators, hostKept.trans (sameHost.trans host), bodyKept⟩
  simp only [Engine.answer, playing, now, sameEngine, engine]

/-- Alone, a caller returns what the engine's loop makes of its bodies. -/
theorem Race.withTransaction_alone (found : race.calls[caller]? = some call)
    (waiting : call.stage = .waiting) (first : call.number = 1) :
    let ended := race.session.engine.withTransaction (playing race.host call.body)
      race.session.allocators
    ∃ turns last, (race.run turns).calls[caller]? = some last ∧
      last.stage = .returned ended.outcome ∧ (race.run turns).session.engine = ended.engine := by
  refine (playing_plays race.host call.body caller).withTransaction ⟨rfl, rfl, ?_⟩ found waiting first
  intro other there
  cases found.symm.trans there
  rfl

end Identity

end EntityBase
