import EntityBase.Proofs.Engine.Changes

namespace EntityBase

/-!
# Attempts

A body of work that is run in a transaction may do more than write to it.  While
it runs, other transactions may begin, write and commit on the same engine, in
each attempt different ones.  All it may not do is offer its own transaction for
commit.  Seen from the session, an attempt is then a number of steps between the
begin of a transaction and the step that closes it, and a call is one such pass
after another, until one of them does not end in a conflict.

All passes of a call but the last are refused, so one log is applied at most.
-/

/-- An attempt as part of a session. -/
structure Pass (α : Type) where
  before : Session
  /-- What happens while the body runs, by its hand or another's. -/
  actions : List Action
  outcome : Except Error α

namespace Pass

variable {α : Type}

/-- The place of the attempt's transaction. -/
def place (pass : Pass α) : Nat :=
  pass.before.handles.length

/-- The session when the body returns. -/
def returned (pass : Pass α) : Session :=
  pass.before.begin.run pass.actions

/-- A transaction whose body has succeeded is offered for commit, and any other
rolled back. -/
def closing (pass : Pass α) : Action :=
  match pass.outcome with
  | .ok _ => .commit pass.place
  | .error _ => .rollback pass.place

def steps (pass : Pass α) : List Action :=
  .begin :: (pass.actions ++ [pass.closing])

/-- The session after the attempt. -/
def settled (pass : Pass α) : Session :=
  pass.before.run pass.steps

/-- The body has succeeded, and the commit ends in a result. -/
def Commit (pass : Pass α) (result : Except Error UInt64) : Prop :=
  ∃ value handle, pass.outcome = .ok value ∧ pass.returned.handles[pass.place]? = some handle ∧
    (pass.returned.engine.commit handle.transaction).1 = result

def Commits (pass : Pass α) : Prop :=
  ∃ version, pass.Commit (.ok version)

/-- The commit is refused because of a conflict, with an error. -/
def Conflicts (pass : Pass α) (error : Error) : Prop :=
  pass.Commit (.error error) ∧ error.isRetryable = true

/-- What the transaction has logged when the body returns. -/
def log (pass : Pass α) : List Write :=
  match pass.returned.handles[pass.place]? with
  | none => []
  | some handle => handle.transaction.log

/-- How an attempt ends, and whether it may be made again. -/
inductive Verdict (pass : Pass α) : Except Error α → Bool → Prop where
  | committed {value : α} (outcome : pass.outcome = .ok value) (commits : pass.Commits) :
      Verdict pass (.ok value) false
  | failed {error : Error} (outcome : pass.outcome = .error error) : Verdict pass (.error error) false
  | refused {error : Error} (refuses : pass.Commit (.error error)) :
      Verdict pass (.error error) error.isRetryable

/-- Only a conflict lets an attempt be made again. -/
theorem Verdict.conflicts {pass : Pass α} {result : Except Error α} {again : Bool}
    (verdict : pass.Verdict result again) (retried : again = true) :
    ∃ error, result = .error error ∧ pass.Conflicts error := by
  cases verdict with
  | committed outcome commits => cases retried
  | failed outcome => cases retried
  | refused refuses => exact ⟨_, rfl, refuses, retried⟩

theorem settled_eq (pass : Pass α) : pass.settled = pass.returned.step pass.closing := by
  simp [settled, steps, returned, Session.run, Session.step]

end Pass

/-! ## Bodies -/

section Bodies

variable {σ α : Type} {body : Nat → Transaction → Engine → σ → Attempt σ α} {pass : Pass α}
  {passes : List (Pass α)} {number retries : Nat} {state : σ} {session : Session}
  {answered ended : Attempt σ α} {stands : σ → Session → Prop}

/-- What a body answers in a transaction that begins on an engine. -/
def Engine.answer (engine : Engine) (body : Transaction → Engine → σ → Attempt σ α) (state : σ) :
    Attempt σ α :=
  body engine.begin.1 engine.begin.2 state

/-- A pass is what a run of a body looks like from its session. -/
structure Pass.Shows (pass : Pass α) (answered : Attempt σ α) : Prop where
  outcome : pass.outcome = answered.outcome
  engine : pass.returned.engine = answered.engine
  transaction : ∃ handle, pass.returned.handles[pass.place]? = some handle ∧
    handle.transaction = answered.transaction
  uncommitted : .commit pass.place ∉ pass.actions

/-- A body acts on the sessions that its states stand for, and leaves the commit
to its caller.  After a conflict its state stands for the session again. -/
def Conducts (stands : σ → Session → Prop)
    (body : Nat → Transaction → Engine → σ → Attempt σ α) : Prop :=
  ∀ (number : Nat) (state : σ) (session : Session), stands state session →
    ∃ pass : Pass α, pass.before = session ∧ pass.Shows (session.engine.answer (body number) state) ∧
      ∀ error, pass.Conflicts error →
        stands (session.engine.answer (body number) state).state pass.settled

/-- The passes of a call, from an attempt on: those that have met a conflict, and
the last.  Each begins where the one before it has ended. -/
inductive Calls (body : Nat → Transaction → Engine → σ → Attempt σ α) :
    Nat → σ → Session → List (Pass α) → Pass α → Prop where
  | last {number : Nat} {state : σ} {session : Session} {pass : Pass α}
      (began : pass.before = session)
      (shows : pass.Shows (session.engine.answer (body number) state)) :
      Calls body number state session [] pass
  | again {number : Nat} {state : σ} {session : Session} {pass last : Pass α} {error : Error}
      {rest : List (Pass α)} (began : pass.before = session)
      (shows : pass.Shows (session.engine.answer (body number) state))
      (conflicts : pass.Conflicts error)
      (further : Calls body (number + 1) (session.engine.answer (body number) state).state
        pass.settled rest last) :
      Calls body number state session (pass :: rest) last

theorem Engine.attempt_of_error {engine : Engine} {body : Transaction → Engine → σ → Attempt σ α}
    {error : Error} (failed : (engine.answer body state).outcome = .error error) :
    engine.attempt body state = ({ engine.answer body state with
      transaction := (engine.answer body state).transaction.rollback }, false) := by
  unfold attempt
  unfold answer at failed ⊢
  simp only [failed]

theorem Engine.attempt_of_ok {engine : Engine} {body : Transaction → Engine → σ → Attempt σ α}
    {value : α} (succeeded : (engine.answer body state).outcome = .ok value) :
    engine.attempt body state =
      match (engine.answer body state).engine.commit (engine.answer body state).transaction with
      | (.ok _, next, transaction) =>
          ({ engine.answer body state with outcome := .ok value, engine := next, transaction }, false)
      | (.error error, next, transaction) =>
          ({ engine.answer body state with outcome := .error error, engine := next, transaction },
            error.isRetryable) := by
  unfold attempt
  unfold answer at succeeded ⊢
  simp only [succeeded]
  rcases (body engine.begin.1 engine.begin.2 state).engine.commit
    (body engine.begin.1 engine.begin.2 state).transaction with ⟨result, next, transaction⟩
  cases result <;> rfl

/-- An attempt of the engine does to the session what its pass does. -/
theorem Pass.Shows.attempt
    (shows : pass.Shows (session.engine.answer (body number) state)) :
    pass.Verdict (session.engine.attempt (body number) state).1.outcome
        (session.engine.attempt (body number) state).2 ∧
      (session.engine.attempt (body number) state).1.engine = pass.settled.engine ∧
      (session.engine.attempt (body number) state).1.state =
        (session.engine.answer (body number) state).state ∧
      ∃ handle, pass.settled.handles[pass.place]? = some handle ∧
        handle.transaction = (session.engine.attempt (body number) state).1.transaction := by
  rcases shows with ⟨outcome, engine, ⟨handle, found, transaction⟩, -⟩
  rw [pass.settled_eq]
  cases answered : (session.engine.answer (body number) state).outcome with
  | error error =>
      rw [answered] at outcome
      rw [Engine.attempt_of_error answered]
      simp only [Pass.closing, outcome, Session.step, Session.withHandle, found]
      exact ⟨answered ▸ .failed outcome, engine.symm, trivial, _, Session.getElem?_put found,
        congrArg Transaction.rollback transaction⟩
  | ok value =>
      rw [answered] at outcome
      rw [Engine.attempt_of_ok answered]
      simp only [Pass.closing, outcome, Session.step, Session.withHandle, found,
        Session.engine_commit, Session.handles_commit]
      have committed : ∀ result, (pass.returned.engine.commit handle.transaction).1 = result →
          pass.Commit result :=
        fun result ends => ⟨value, handle, outcome, found, ends⟩
      rw [engine, transaction] at committed ⊢
      generalize (session.engine.answer (body number) state).engine.commit
        (session.engine.answer (body number) state).transaction = closes at committed ⊢
      rcases closes with ⟨result, next, closed⟩
      have within := (List.getElem?_eq_some_iff.mp found).1
      have settled := List.getElem?_set_self (a := { handle with transaction := closed }) within
      cases result with
      | ok version =>
          exact ⟨.committed outcome ⟨version, committed _ rfl⟩, rfl, rfl, _, settled, rfl⟩
      | error error => exact ⟨.refused (committed _ rfl), rfl, rfl, _, settled, rfl⟩

/-- A call is a number of passes.  The last decides how it ends, and it is the
last because it met no conflict or because no attempt is left. -/
theorem Conducts.attempts (conducts : Conducts stands body) (number retries : Nat)
    (ready : stands state session) :
    ∃ earlier last again, Calls body number state session earlier last ∧
      earlier.length ≤ retries ∧ (again = true → earlier.length = retries) ∧
      last.Verdict (session.engine.attempts body number state retries).outcome again ∧
      (session.engine.attempts body number state retries).engine = last.settled.engine ∧
      ∃ handle, last.settled.handles[last.place]? = some handle ∧
        handle.transaction = (session.engine.attempts body number state retries).transaction := by
  induction retries generalizing number state session with
  | zero =>
      rcases conducts number state session ready with ⟨pass, began, shows, -⟩
      rcases shows.attempt with ⟨verdict, engine, -, transaction⟩
      exact ⟨[], pass, _, .last began shows, Nat.le_refl 0, fun _ => rfl, verdict, engine, transaction⟩
  | succ retries ih =>
      rcases conducts number state session ready with ⟨pass, began, shows, returns⟩
      rcases shows.attempt with ⟨verdict, engine, carried, transaction⟩
      unfold Engine.attempts
      rcases attempted : session.engine.attempt (body number) state with ⟨ended, again⟩
      rw [attempted] at verdict engine carried transaction
      cases again with
      | false =>
          exact ⟨[], pass, false, .last began shows, Nat.zero_le _, nofun, verdict, engine, transaction⟩
      | true =>
          rcases verdict.conflicts rfl with ⟨error, -, conflicts⟩
          have continues := ih (number + 1) (returns error conflicts)
          rw [← carried, ← engine] at continues
          rcases continues with
            ⟨earlier, last, again, calls, few, exhausted, verdict, engine, transaction⟩
          exact ⟨pass :: earlier, last, again, .again began shows conflicts (carried ▸ calls),
            Nat.succ_le_succ few, fun retried => congrArg Nat.succ (exhausted retried), verdict,
            engine, transaction⟩

/-! ## What the passes of a call have in common -/

namespace Pass

theorem Commit.eq {first second : Except Error UInt64} (left : pass.Commit first)
    (right : pass.Commit second) : first = second := by
  rcases left with ⟨-, handle, -, found, rfl⟩
  rcases right with ⟨-, same, -, there, rfl⟩
  cases found.symm.trans there
  rfl

/-- Two passes with the same answer commit alike. -/
theorem Commit.of_shows {other : Pass α} {result : Except Error UInt64} (commits : pass.Commit result)
    (shows : pass.Shows answered) (alike : other.Shows answered) : other.Commit result := by
  rcases commits with ⟨value, handle, outcome, found, committed⟩
  rcases shows.transaction with ⟨same, there, transaction⟩
  cases found.symm.trans there
  rcases alike.transaction with ⟨another, also, alsoTransaction⟩
  refine ⟨value, another, alike.outcome.trans (shows.outcome.symm.trans outcome), also, ?_⟩
  rw [alike.engine, ← shows.engine, alsoTransaction, ← transaction, committed]

theorem Conflicts.not_commits {error : Error} (conflicts : pass.Conflicts error) : ¬ pass.Commits := by
  rintro ⟨version, commits⟩
  cases conflicts.1.eq commits

namespace Verdict

variable {result : Except Error α} {again : Bool} (verdict : pass.Verdict result again)
include verdict

theorem ok_iff (value : α) : result = .ok value ↔ pass.Commits ∧ pass.outcome = .ok value := by
  cases verdict with
  | @committed content outcome commits =>
      rw [outcome]
      exact (and_iff_right commits).symm
  | failed outcome => simp [outcome]
  | refused refuses =>
      refine ⟨nofun, fun ⟨⟨version, commits⟩, _⟩ => ?_⟩
      cases refuses.eq commits

theorem of_error {error : Error} (failed : result = .error error) :
    ¬ pass.Commits ∧ (pass.outcome = .error error ∨ pass.Commit (.error error)) := by
  cases verdict with
  | committed outcome commits => cases failed
  | failed outcome =>
      cases failed
      refine ⟨fun ⟨_, _, _, succeeded, _⟩ => ?_, .inl outcome⟩
      cases outcome.symm.trans succeeded
  | refused refuses =>
      cases failed
      refine ⟨fun ⟨version, commits⟩ => ?_, .inr refuses⟩
      cases refuses.eq commits

theorem of_failed {error : Error} (failed : pass.outcome = .error error) : result = .error error := by
  cases verdict with
  | committed outcome commits => cases failed.symm.trans outcome
  | failed outcome =>
      cases failed.symm.trans outcome
      rfl
  | refused refuses =>
      rcases refuses with ⟨value, -, outcome, -⟩
      cases failed.symm.trans outcome

theorem of_conflicts {error : Error} (conflicts : pass.Conflicts error) :
    result = .error error ∧ again = true := by
  cases verdict with
  | committed outcome commits => exact absurd commits conflicts.not_commits
  | failed outcome =>
      rcases conflicts.1 with ⟨value, -, succeeded, -⟩
      cases outcome.symm.trans succeeded
  | refused refuses =>
      cases refuses.eq conflicts.1
      exact ⟨rfl, conflicts.2⟩

end Verdict

/-- A transaction whose commit is refused has ended. -/
theorem Commit.ends {error : Error} (refused : pass.Commit (.error error)) :
    pass.settled.Ended pass.place := by
  rcases refused with ⟨value, handle, outcome, found, refused⟩
  rw [settled_eq]
  simp only [closing, outcome, Session.step, Session.withHandle, found, Session.Ended,
    Session.handles_commit]
  refine ⟨_, List.getElem?_set_self (List.getElem?_eq_some_iff.mp found).1, ?_⟩
  have settles := pass.returned.engine.commit_settles handle.transaction
  generalize pass.returned.engine.commit handle.transaction = settled at settles refused
  cases settles with
  | ended error inactive => exact inactive
  | idle active empty => cases refused
  | installed store active written outcome => cases refused
  | conflict error cause active written outcome => exact handle.transaction.isActive_rollback

/-- An attempt that does not commit leaves the engine as its body has. -/
theorem engine_settled (refused : ¬ pass.Commits) : pass.settled.engine = pass.returned.engine := by
  rw [settled_eq]
  unfold closing
  cases outcome : pass.outcome with
  | error error =>
      simp only [Session.step, Session.withHandle]
      split <;> rfl
  | ok value =>
      simp only [Session.step, Session.withHandle]
      cases found : pass.returned.handles[pass.place]? with
      | none => rfl
      | some handle =>
          have settles := pass.returned.engine.commit_settles handle.transaction
          have committed : ∀ version, (pass.returned.engine.commit handle.transaction).1 =
              .ok version → pass.Commits :=
            fun version committed => ⟨version, value, handle, outcome, found, committed⟩
          simp only [Session.engine_commit]
          generalize pass.returned.engine.commit handle.transaction = settled at settles committed
          cases settles with
          | ended error inactive => rfl
          | idle active empty => exact absurd (committed _ rfl) refused
          | installed store active written outcome => exact absurd (committed _ rfl) refused
          | conflict error cause active written outcome => rfl

/-- A transaction whose body fails is rolled back. -/
theorem status_settled {error : Error} (failed : pass.outcome = .error error)
    (uncommitted : .commit pass.place ∉ pass.actions) :
    ∃ handle, pass.settled.handles[pass.place]? = some handle ∧
      handle.transaction.status = .rolledBack := by
  have began : pass.before.begin.handles[pass.place]? = some _ := List.getElem?_concat_length
  rcases Session.status_run began (by simp) uncommitted with ⟨handle, found, pending⟩
  have there : pass.returned.handles[pass.place]? = some handle := found
  rw [settled_eq]
  simp only [closing, failed, Session.step, Session.withHandle, there]
  refine ⟨_, Session.getElem?_put there, ?_⟩
  unfold Transaction.rollback Transaction.isActive
  cases status : handle.transaction.status with
  | active => rfl
  | committed => exact absurd status pending
  | rolledBack => exact status

/-! ## The changes of a pass -/

/-- The change that a pass makes by its own log if it commits. -/
def change (pass : Pass α) : List (Option Nat × Change) :=
  if pass.log.isEmpty then [] else [(some pass.place, .committed pass.log)]

theorem changes_steps (pass : Pass α) :
    pass.before.changes pass.steps =
      pass.before.changes (.begin :: pass.actions) ++ (pass.returned.change? pass.closing).toList := by
  have split : pass.steps = (.begin :: pass.actions) ++ [pass.closing] := rfl
  rw [split, Session.changes_append]
  exact congrArg _ (List.append_nil _)

theorem change?_of_commits (commits : pass.Commits) :
    (pass.returned.change? pass.closing).toList = pass.change := by
  rcases commits with ⟨version, value, handle, outcome, found, committed⟩
  simp only [closing, outcome, Session.change?, found, committed, change, log]
  split <;> rfl

theorem change?_of_not_commits (refused : ¬ pass.Commits) :
    pass.returned.change? pass.closing = none := by
  unfold closing
  cases outcome : pass.outcome with
  | error error => rfl
  | ok value =>
      simp only [Session.change?]
      cases found : pass.returned.handles[pass.place]? with
      | none => rfl
      | some handle =>
          cases committed : (pass.returned.engine.commit handle.transaction).1 with
          | error error => simp only [committed]
          | ok version => exact absurd ⟨version, value, handle, outcome, found, committed⟩ refused

end Pass

/-! ## Calls -/

/-- The steps of some passes, one pass after another. -/
def Calls.steps (passes : List (Pass α)) : List Action :=
  passes.flatMap Pass.steps

variable {earlier : List (Pass α)} {last : Pass α}

theorem Calls.uncommitted (calls : Calls body number state session earlier last) :
    ∀ pass ∈ earlier ++ [last], .commit pass.place ∉ pass.actions := by
  induction calls with
  | last began shows => exact List.forall_mem_singleton.mpr shows.uncommitted
  | again began shows conflicts further ih => exact List.forall_mem_cons.mpr ⟨shows.uncommitted, ih⟩

theorem Calls.conflicts (calls : Calls body number state session earlier last) :
    ∀ pass ∈ earlier, ∃ error, pass.Conflicts error := by
  induction calls with
  | last began shows => exact fun _ member => (List.not_mem_nil member).elim
  | again began shows conflicts further ih => exact List.forall_mem_cons.mpr ⟨⟨_, conflicts⟩, ih⟩

theorem Calls.places (calls : Calls body number state session earlier last) :
    ∀ pass ∈ earlier ++ [last], session.handles.length ≤ pass.place := by
  induction calls with
  | last began shows => exact List.forall_mem_singleton.mpr (began ▸ Nat.le_refl _)
  | @again number state session pass last error rest began shows conflicts further ih =>
      refine List.forall_mem_cons.mpr ⟨began ▸ Nat.le_refl _, fun later member => ?_⟩
      exact Nat.le_trans (began ▸ pass.before.places_run pass.steps) (ih later member)

/-- The passes follow one another through the session. -/
theorem Calls.run_eq (calls : Calls body number state session earlier last) :
    session.run (steps (earlier ++ [last])) = last.settled := by
  induction calls with
  | last began shows => simp [steps, Pass.settled, began]
  | again began shows conflicts further ih =>
      rw [← ih, List.cons_append, steps, List.flatMap_cons, Session.run_append, ← began]
      rfl

/-- The changes in a session that some passes make by their own logs. -/
def Calls.own (session : Session) (passes : List (Pass α)) : List (Option Nat × Change) :=
  (session.changes (Calls.steps passes)).filter fun change =>
    change.1 ∈ passes.map fun pass => some pass.place

/-- Of the transactions of a call, only the last may make a change. -/
theorem Calls.own_eq (calls : Calls body number state session earlier last) :
    own session (earlier ++ [last]) = (last.returned.change? last.closing).toList := by
  induction calls with
  | @last number state session pass began shows =>
      have foreign : Session.Untouched (session.changes (.begin :: pass.actions)) pass.place :=
        Session.untouched_of_uncommitted (by simpa using shows.uncommitted)
      have mine : ∀ change ∈ (pass.returned.change? pass.closing).toList,
          change.1 = some pass.place := by
        by_cases commits : pass.Commits
        · rw [pass.change?_of_commits commits, Pass.change]
          split <;> simp
        · simp [pass.change?_of_not_commits commits]
      have split : session.changes (steps [pass]) = session.changes (.begin :: pass.actions) ++
          (pass.returned.change? pass.closing).toList := by
        rw [steps, List.flatMap_singleton, ← began, pass.changes_steps]
      rw [own, List.nil_append, split, List.filter_append, List.filter_eq_nil_iff.mpr,
        List.filter_eq_self.mpr]
      · rfl
      · exact fun change member => by simp [mine change member]
      · exact fun change member => by simpa using foreign change member
  | @again number state session pass last error rest began shows conflicts further ih =>
      have foreign : Session.Untouched (session.changes pass.steps) pass.place := by
        rw [← began, pass.changes_steps, pass.change?_of_not_commits conflicts.not_commits]
        refine Session.untouched_append (Session.untouched_of_uncommitted ?_) (by simp [Session.Untouched])
        simpa using shows.uncommitted
      have before : ∀ later ∈ rest ++ [last],
          Session.Untouched (session.changes pass.steps) later.place := fun later member =>
        Session.untouched_of_unbegun (began ▸ further.places later member)
      have after : Session.Untouched (pass.settled.changes (steps (rest ++ [last]))) pass.place :=
        conflicts.1.ends.untouched
      have split : session.changes (steps (pass :: rest ++ [last])) =
          session.changes pass.steps ++ pass.settled.changes (steps (rest ++ [last])) := by
        rw [List.cons_append, steps, List.flatMap_cons, Session.changes_append, ← began]
        rfl
      rw [own, split, List.filter_append, List.filter_eq_nil_iff.mpr, List.nil_append, ← ih, own]
      · refine List.filter_congr fun change member => ?_
        simp [after change member]
      · intro change member
        simp only [List.cons_append, List.map_cons, List.mem_cons, List.mem_map, decide_eq_true_eq]
        rintro (same | ⟨later, there, same⟩)
        · exact foreign change member same
        · exact before later there change member same.symm

/-- How a call ends that may be made again so often. -/
structure Concludes (session : Session) (retries : Nat) (earlier : List (Pass α)) (last : Pass α)
    (ended : Attempt σ α) : Prop where
  few : earlier.length ≤ retries
  /-- The engine is what the passes have made it. -/
  engine : (session.run (Calls.steps (earlier ++ [last]))).engine = ended.engine
  conflicted : ∀ pass ∈ earlier, ∃ error, pass.Conflicts error
  /-- A value is returned by the attempt that has committed. -/
  ok_iff : ∀ value, ended.outcome = .ok value ↔
    ∃ pass ∈ earlier ++ [last], pass.Commits ∧ pass.outcome = .ok value
  /-- The log of that attempt is applied once, and no other's. -/
  applied : ∀ value, ended.outcome = .ok value → Calls.own session (earlier ++ [last]) = last.change
  unapplied : ∀ error, ended.outcome = .error error → Calls.own session (earlier ++ [last]) = []
  kept : ∀ pass ∈ earlier ++ [last], ¬ pass.Commits → pass.settled.engine = pass.returned.engine
  /-- An error comes from the last body or from its commit. -/
  cause : ∀ error, ended.outcome = .error error →
    last.outcome = .error error ∨ last.Commit (.error error)
  /-- A conflict is returned if every attempt has met one. -/
  exhausted : ∀ error, last.Conflicts error → ended.outcome = .error error ∧ earlier.length = retries
  /-- A body that fails is the last, and its error is returned. -/
  failed : ∀ pass ∈ earlier ++ [last], ∀ error, pass.outcome = .error error →
    pass = last ∧ ended.outcome = .error error ∧ ended.transaction.status = .rolledBack

theorem Calls.concludes (calls : Calls body number state session earlier last)
    (few : earlier.length ≤ retries) {again : Bool}
    (exhausted : again = true → earlier.length = retries) (verdict : last.Verdict ended.outcome again)
    (engine : ended.engine = last.settled.engine)
    (closed : ∃ handle, last.settled.handles[last.place]? = some handle ∧
      handle.transaction = ended.transaction) :
    Concludes session retries earlier last ended := by
  have final : last ∈ earlier ++ [last] := List.mem_append_right _ List.mem_cons_self
  have eq_last : ∀ pass ∈ earlier ++ [last], (∀ error, ¬ pass.Conflicts error) → pass = last := by
    intro pass member unrefused
    rcases List.mem_append.mp member with before | ends
    · rcases calls.conflicts pass before with ⟨error, conflicts⟩
      exact absurd conflicts (unrefused error)
    · exact List.mem_singleton.mp ends
  refine ⟨few, calls.run_eq ▸ engine.symm, calls.conflicts, fun value => ⟨fun ok => ?_, ?_⟩,
    fun value ok => ?_, fun error failed => ?_, fun pass _ => pass.engine_settled,
    fun error failed => (verdict.of_error failed).2, fun error conflicts => ?_,
    fun pass member error failed => ?_⟩
  · exact ⟨last, final, (verdict.ok_iff value).mp ok⟩
  · rintro ⟨pass, member, commits, outcome⟩
    cases eq_last pass member fun error conflicts => conflicts.not_commits commits
    exact (verdict.ok_iff value).mpr ⟨commits, outcome⟩
  · rw [calls.own_eq, last.change?_of_commits ((verdict.ok_iff value).mp ok).1]
  · rw [calls.own_eq, last.change?_of_not_commits (verdict.of_error failed).1]
    rfl
  · rcases verdict.of_conflicts conflicts with ⟨failed, retried⟩
    exact ⟨failed, exhausted retried⟩
  · have is : pass = last := by
      refine eq_last pass member fun cause ⟨⟨value, handle, succeeded, _⟩, _⟩ => ?_
      cases failed.symm.trans succeeded
    subst is
    rcases pass.status_settled failed (calls.uncommitted pass final) with ⟨handle, found, rolledBack⟩
    rcases closed with ⟨same, there, transaction⟩
    cases found.symm.trans there
    exact ⟨rfl, verdict.of_failed failed, transaction ▸ rolledBack⟩

/-! ## Bodies by their scripts -/

/-- A body whose state is the session, and which does there what a script says. -/
def scripted (script : Nat → Session → List Action × Except Error α) :
    Nat → Transaction → Engine → Session → Attempt Session α :=
  fun number transaction _ session =>
    let (actions, outcome) := script number session
    let pass : Pass α := ⟨session, actions, outcome⟩
    { outcome
      transaction := ((pass.returned.handles[pass.place]?).map Handle.transaction).getD transaction
      engine := pass.returned.engine
      state := pass.settled }

/-- The pass of a body with a script. -/
def Pass.ofScript (script : Nat → Session → List Action × Except Error α) (number : Nat)
    (session : Session) : Pass α :=
  ⟨session, (script number session).1, (script number session).2⟩

theorem shows_scripted {script : Nat → Session → List Action × Except Error α}
    (uncommitted : .commit session.handles.length ∉ (script number session).1) :
    (Pass.ofScript script number session).Shows
      (session.engine.answer (scripted script number) session) := by
  have began : session.begin.handles[session.handles.length]? = some _ := List.getElem?_concat_length
  rcases Session.status_run began (by simp) uncommitted with ⟨handle, found, -⟩
  have there : (Pass.ofScript script number session).returned.handles[session.handles.length]? =
    some handle := found
  refine ⟨rfl, rfl, ⟨handle, there, ?_⟩, uncommitted⟩
  change _ = (((Pass.ofScript script number session).returned.handles[
    session.handles.length]?).map Handle.transaction).getD _
  rw [there]
  rfl

theorem conducts_scripted {script : Nat → Session → List Action × Except Error α}
    (uncommitted : ∀ number session, .commit session.handles.length ∉ (script number session).1) :
    Conducts (· = ·) (scripted script) := by
  rintro number state _ rfl
  exact ⟨_, rfl, shows_scripted (uncommitted number state), fun _ _ => rfl⟩

/-! ## All calls -/

/-- Run any body in a transaction that leaves the commit to its caller, whatever
else happens on the engine meanwhile and in however many attempts.  One attempt at
most is applied, and the call ends as that attempt does.  Where the session has
grown from a snapshot whose identifiers have been handed out, the committed
snapshot is what the changes of the session lead to. -/
theorem Engine.withTransaction_applies_once (conducts : Conducts stands body) (ready : stands state session)
    (ran : session.engine.withTransaction body state = ended) :
    ∃ earlier last, Calls body 1 state session earlier last ∧
      Concludes session session.engine.config.maxCommitRetries.toNat earlier last ended ∧
      ∀ (world : World) (initial : Engine), world.Reached (fun _ _ _ => True) →
        (∀ (id : EntityId) (record : Record), initial.store.get? id = some record →
          world.HandedOut initial.store id) →
        (Session.start world initial).Reaches (fun _ _ => True) session →
        last.settled.issued.length < UInt64.size → last.settled.history.length < UInt64.size →
        initial.store.evolve (session.history ++
          (session.changes (Calls.steps (earlier ++ [last]))).map Prod.snd) = .ok ended.engine.store := by
  rcases conducts.attempts 1 session.engine.config.maxCommitRetries.toNat ready with
    ⟨earlier, last, again, calls, few, exhausted, verdict, engine, closed⟩
  rw [← Engine.withTransaction, ran] at verdict engine closed
  refine ⟨earlier, last, calls, calls.concludes few exhausted verdict engine closed, ?_⟩
  intro world initial built handedOut before fewIssued fewVersions
  have after : session.Reaches (fun _ _ => True) last.settled :=
    calls.run_eq ▸ Session.run_reaches _ fun _ _ _ _ => trivial
  have faithful := (Session.Faithful.start world initial).reaches
    (Session.Accounted.start built handedOut) (before.trans after) fewIssued fewVersions
  rw [← Session.history_run, calls.run_eq, engine]
  exact faithful.committed

end Bodies

namespace Engine

namespace Sample

/-- A task is committed on an engine that allows one further attempt. -/
def contested : Session :=
  (Session.start ({} : World).withNew
    { store := (Store.new ∅).1, config := { maxCommitRetries := 1 } }).run [
    .register Session.Sample.task,
    .begin,
    .edit 0 (.create "Task" [("rank", .int 0)]),
    .commit 0]

/-- Each attempt deletes the task, if it is still there, and makes another.  While
it runs, somebody else deletes the task. -/
def replace (number : Nat) (session : Session) : List Action × Except Error Nat :=
  let place := session.handles.length
  ([.edit place (.delete ⟨0⟩),
    .edit place (.create "Task" [("rank", .int 1)]),
    .begin,
    .edit (place + 1) (.delete ⟨0⟩),
    .commit (place + 1)], .ok number)

theorem uncommitted_replace (number : Nat) (session : Session) :
    .commit session.handles.length ∉ (replace number session).1 := by
  simp [replace]

theorem replace_refused : ((Pass.ofScript replace 1 contested).returned.handles[1]?).map (fun handle =>
    (handle.transaction.isActive, handle.transaction.log.length,
      ((Pass.ofScript replace 1 contested).returned.engine.outcome handle.transaction).isOk)) =
    some (true, 2, false) := by
  cbv

theorem place_contested : contested.handles.length = 1 := by
  cbv

theorem retries_contested : contested.engine.config.maxCommitRetries.toNat = 1 := by
  cbv

/-- The first attempt loses to the other delete. -/
theorem exists_conflicts : ∃ error, (Pass.ofScript replace 1 contested).Conflicts error := by
  rcases Option.map_eq_some_iff.mp replace_refused with ⟨handle, found, summary⟩
  simp only [Prod.mk.injEq] at summary
  rcases summary with ⟨active, logged, refused⟩
  have written : handle.transaction.log ≠ [] := by
    intro empty
    rw [empty] at logged
    cases logged
  cases outcome : (Pass.ofScript replace 1 contested).returned.engine.outcome handle.transaction with
  | ok store =>
      rw [outcome] at refused
      cases refused
  | error cause =>
      rcases Engine.commit_of_refused active written outcome with ⟨error, commits, retryable⟩
      exact ⟨error, ⟨1, handle, rfl, place_contested.symm ▸ found, congrArg Prod.fst commits⟩, retryable⟩

end Sample

/-- In the example the first attempt is refused, and a second one made. -/
theorem withTransaction_applies_once_replace : ∃ earlier last ended,
    Sample.contested.engine.withTransaction (scripted Sample.replace) Sample.contested = ended ∧
      Concludes Sample.contested 1 earlier last ended ∧ earlier.length = 1 := by
  rcases withTransaction_applies_once (conducts_scripted Sample.uncommitted_replace)
    (rfl : Sample.contested = Sample.contested) rfl with ⟨earlier, last, calls, concludes, -⟩
  rw [Sample.retries_contested] at concludes
  refine ⟨earlier, last, _, rfl, concludes, ?_⟩
  rcases Sample.exists_conflicts with ⟨error, conflicts⟩
  cases calls with
  | last began shows =>
      have alike := conflicts.1.of_shows (shows_scripted (Sample.uncommitted_replace 1 _)) shows
      exact (concludes.exhausted error ⟨alike, conflicts.2⟩).2
  | again began shows refused further =>
      exact Nat.le_antisymm concludes.few (Nat.le_add_left 1 _)

end Engine

end EntityBase
