import EntityBase.Proofs.Engine.FastPath

namespace EntityBase

/-!
# Who makes a change

The history of a session grows by registrations and by commits.  A commit is the
work of one transaction, which goes by its place.  Once it has ended, its place
makes no further change, whatever is asked of it, and a place that no transaction
has been begun at makes none either.
-/

namespace Session

variable {session later : Session} {place other : Nat} {handle : Handle} {action : Action}
  {actions : List Action} {permitted : Store → Edit → Prop}

/-! ## Places -/

/-- The transaction at a place keeps its place, and has always begun from the
same snapshot. -/
theorem Moves.origin (moves : session.Moves permitted later)
    (found : session.handles[place]? = some handle) :
    ∃ next, later.handles[place]? = some next ∧ next.origin = handle.origin := by
  have put : ∀ (other : Nat) (old : Handle) (transaction : Transaction) (allocators : Allocators)
      (handed : List EntityId), session.handles[other]? = some old →
      ∃ next, (session.put other { old with transaction } allocators handed).handles[place]? =
        some next ∧ next.origin = handle.origin := by
    intro other old transaction allocators handed there
    by_cases same : other = place
    · subst same
      cases found.symm.trans there
      exact ⟨_, getElem?_put found, rfl⟩
    · exact ⟨handle, (List.getElem?_set_ne same).trans found, rfl⟩
  cases moves with
  | stayed => exact ⟨handle, found, rfl⟩
  | begun =>
      have within := (List.getElem?_eq_some_iff.mp found).1
      exact ⟨handle, (List.getElem?_append_left within).trans found, rfl⟩
  | registered done => exact ⟨handle, found, rfl⟩
  | edited there allowed done => exact put _ _ _ _ _ there
  | ended there inactive base store log => exact put _ _ _ _ _ there
  | committed there active outcome => exact put _ _ _ session.allocators [] there

theorem Reaches.origin (reaches : session.Reaches permitted later)
    (found : session.handles[place]? = some handle) :
    ∃ next, later.handles[place]? = some next ∧ next.origin = handle.origin := by
  induction reaches with
  | refl => exact ⟨handle, found, rfl⟩
  | tail _ moves ih =>
      rcases ih with ⟨between, there, same⟩
      rcases moves.origin there with ⟨next, last, kept⟩
      exact ⟨next, last, kept.trans same⟩

theorem Moves.places (moves : session.Moves permitted later) :
    session.handles.length ≤ later.handles.length := by
  cases moves <;> simp [put, begin]

/-! ## Commits -/

theorem handles_commit (session : Session) (place : Nat) (handle : Handle) :
    (session.commit place handle).handles = session.handles.set place
      { handle with transaction := (session.engine.commit handle.transaction).2.2 } := by
  unfold Session.commit
  dsimp only
  split <;> rfl

theorem engine_commit (session : Session) (place : Nat) (handle : Handle) :
    (session.commit place handle).engine = (session.engine.commit handle.transaction).2.1 := by
  unfold Session.commit
  dsimp only
  split <;> rfl

theorem allocators_commit (session : Session) (place : Nat) (handle : Handle) :
    (session.commit place handle).allocators = session.allocators := by
  unfold Session.commit
  dsimp only
  split <;> rfl

/-- A step that is not about a transaction leaves it alone. -/
theorem getElem?_step (there : place < session.handles.length)
    (edits : ∀ edit, action ≠ .edit place edit) (rollsBack : action ≠ .rollback place)
    (commits : action ≠ .commit place) :
    (session.step action).handles[place]? = session.handles[place]? := by
  have elsewhere : ∀ (other : Nat) (act : Handle → Session), other ≠ place →
      (∀ handle, act handle = session ∨
        ∃ next, (act handle).handles = session.handles.set other next) →
      (session.withHandle other act).handles[place]? = session.handles[place]? := by
    intro other act different puts
    unfold withHandle
    split
    · rfl
    · rename_i handle _
      rcases puts handle with same | ⟨next, same⟩
      · rw [same]
      · rw [same, List.getElem?_set_ne different]
  cases action with
  | begin => exact List.getElem?_append_left there
  | edit other edit =>
      refine elsewhere other _ (fun same => edits edit (same ▸ rfl)) fun handle => ?_
      unfold Session.edit
      split
      · exact .inl rfl
      · exact .inr ⟨_, rfl⟩
  | rollback other =>
      exact elsewhere other _ (fun same => rollsBack (same ▸ rfl)) fun handle => .inr ⟨_, rfl⟩
  | commit other =>
      exact elsewhere other _ (fun same => commits (same ▸ rfl)) fun handle =>
        .inr ⟨_, session.handles_commit other handle⟩
  | register type =>
      cases done : session.engine.register type <;> simp only [step, Session.register, done]

/-! ## Changes and their places -/

/-- The change that a step makes, if it makes one.  A commit's change comes with
the place of its transaction. -/
def change? (session : Session) : (action : Action) → Option (Option Nat × Change)
  | .commit place =>
      match session.handles[place]? with
      | none => none
      | some handle =>
          match (session.engine.commit handle.transaction).1 with
          | .error _ => none
          | .ok _ =>
              if handle.transaction.log.isEmpty then none
              else some (some place, .committed handle.transaction.log)
  | .register type =>
      match session.engine.register type with
      | .error _ => none
      | .ok _ => some (none, .registered type)
  | _ => none

/-- The changes that a run makes, the oldest first. -/
def changes (session : Session) : (actions : List Action) → List (Option Nat × Change)
  | [] => []
  | action :: rest => (session.change? action).toList ++ (session.step action).changes rest

theorem run_append (session : Session) (actions rest : List Action) :
    session.run (actions ++ rest) = (session.run actions).run rest :=
  List.foldl_append

theorem changes_append (session : Session) (actions rest : List Action) :
    session.changes (actions ++ rest) =
      session.changes actions ++ (session.run actions).changes rest := by
  induction actions generalizing session with
  | nil => rfl
  | cons action actions ih =>
      rw [List.cons_append, changes, ih, changes, List.append_assoc]
      rfl

theorem history_step (session : Session) (action : Action) :
    (session.step action).history =
      session.history ++ (session.change? action).toList.map Prod.snd := by
  cases action with
  | begin => exact (List.append_nil _).symm
  | edit place edit =>
      simp only [step, withHandle]
      cases session.handles[place]? with
      | none => exact (List.append_nil _).symm
      | some handle =>
          simp only [Session.edit]
          cases edit.run handle.transaction session.allocators <;> exact (List.append_nil _).symm
  | rollback place =>
      simp only [step, withHandle]
      cases session.handles[place]? <;> exact (List.append_nil _).symm
  | commit place =>
      simp only [step, withHandle, change?]
      cases session.handles[place]? with
      | none => exact (List.append_nil _).symm
      | some handle =>
          simp only [Session.commit]
          cases (session.engine.commit handle.transaction).1 with
          | error error => exact (List.append_nil _).symm
          | ok version => cases written : handle.transaction.log <;> simp
  | register type =>
      cases done : session.engine.register type <;> simp [step, Session.register, change?, done]

/-- The history is what the changes have made it. -/
theorem history_run (session : Session) (actions : List Action) :
    (session.run actions).history =
      session.history ++ (session.changes actions).map Prod.snd := by
  induction actions generalizing session with
  | nil => exact (List.append_nil _).symm
  | cons action rest ih =>
      have later : ((session.step action).run rest).history = _ := ih (session.step action)
      rw [changes, List.map_append, ← List.append_assoc, ← history_step, ← later]
      rfl

/-- A change at a place is a commit there, of a transaction that is still open. -/
theorem change?_eq_some {change : Change} (made : session.change? action = some (some place, change)) :
    action = .commit place ∧ ∃ handle, session.handles[place]? = some handle ∧
      handle.transaction.isActive = true := by
  cases action with
  | commit other =>
      simp only [change?] at made
      split at made
      · cases made
      · rename_i handle found
        split at made
        · cases made
        · rename_i version committed
          split at made
          · cases made
          · cases made
            refine ⟨rfl, handle, found, ?_⟩
            have settles := session.engine.commit_settles handle.transaction
            generalize session.engine.commit handle.transaction = settled at settles committed
            cases settles with
            | ended error inactive => cases committed
            | idle active empty => exact active
            | installed store active written outcome => exact active
            | conflict error cause active written outcome => cases committed
  | register type =>
      simp only [change?] at made
      split at made <;> cases made
  | _ => cases made

/-- A commit that makes a change is of a transaction that has been committed then,
and the change is its log. -/
theorem committed_of_change? {change : Change}
    (made : session.change? action = some (some place, change)) :
    ∃ handle, (session.step action).handles[place]? = some handle ∧
      handle.transaction.status = .committed ∧ change = .committed handle.transaction.log := by
  rcases change?_eq_some made with ⟨rfl, handle, found, -⟩
  have within := (List.getElem?_eq_some_iff.mp found).1
  simp only [change?, found] at made
  simp only [step, withHandle, found, handles_commit]
  refine ⟨_, List.getElem?_set_self within, ?_⟩
  have settles := session.engine.commit_settles handle.transaction
  generalize session.engine.commit handle.transaction = settled at settles made
  cases settles with
  | ended error inactive => cases made
  | idle active empty => simp [empty] at made
  | installed store active written outcome =>
      refine ⟨rfl, ?_⟩
      rw [List.isEmpty_eq_false_iff.mpr written] at made
      cases made
      rfl
  | conflict error cause active written outcome => cases made

/-- Every change is a version, and without one the committed snapshot stays. -/
theorem Moves.versions (moves : session.Moves permitted later) :
    ∃ made, later.history = session.history ++ made ∧
      later.engine.version = session.engine.version + UInt64.ofNat made.length ∧
      (made = [] → later.engine.store = session.engine.store) := by
  have unmade : session.history = session.history ++ [] ∧
      session.engine.version = session.engine.version + UInt64.ofNat ([] : List Change).length :=
    ⟨(List.append_nil _).symm, (UInt64.add_zero _).symm⟩
  cases moves with
  | registered done => exact ⟨_, rfl, rfl, fun empty => by cases empty⟩
  | committed found active outcome written => exact ⟨_, rfl, rfl, fun empty => by cases empty⟩
  | _ => exact ⟨[], unmade.1, unmade.2, fun _ => rfl⟩

theorem Reaches.versions (reaches : session.Reaches permitted later) :
    ∃ made, later.history = session.history ++ made ∧
      later.engine.version = session.engine.version + UInt64.ofNat made.length ∧
      (made = [] → later.engine.store = session.engine.store) := by
  induction reaches with
  | refl => exact ⟨[], (List.append_nil _).symm, (UInt64.add_zero _).symm, fun _ => rfl⟩
  | tail _ moves ih =>
      rcases ih with ⟨made, history, version, kept⟩
      rcases moves.versions with ⟨more, next, increased, stays⟩
      refine ⟨made ++ more, ?_, ?_, fun empty => ?_⟩
      · rw [next, history, List.append_assoc]
      · rw [increased, version, List.length_append, UInt64.ofNat_add, UInt64.add_assoc]
      · rcases List.append_eq_nil_iff.mp empty with ⟨none, noMore⟩
        exact (stays noMore).trans (kept none)

/-! ## Whose changes a run makes -/

/-- The transaction at a place has ended. -/
def Ended (session : Session) (place : Nat) : Prop :=
  ∃ handle, session.handles[place]? = some handle ∧ handle.transaction.isActive = false

/-- A transaction that has ended stays so. -/
theorem Ended.moves (ended : session.Ended place) (moves : session.Moves permitted later) :
    later.Ended place := by
  rcases ended with ⟨handle, found, inactive⟩
  have put : ∀ (other : Nat) (old : Handle) (transaction : Transaction) (allocators : Allocators)
      (handed : List EntityId), session.handles[other]? = some old →
      (old.transaction.isActive = false → transaction.isActive = false) →
      (session.put other { old with transaction } allocators handed).Ended place := by
    intro other old transaction allocators handed there ends
    by_cases same : other = place
    · subst same
      cases found.symm.trans there
      exact ⟨_, getElem?_put found, ends inactive⟩
    · exact ⟨handle, (List.getElem?_set_ne same).trans found, inactive⟩
  cases moves with
  | stayed => exact ⟨handle, found, inactive⟩
  | begun =>
      have within := (List.getElem?_eq_some_iff.mp found).1
      exact ⟨handle, (List.getElem?_append_left within).trans found, inactive⟩
  | registered done => exact ⟨handle, found, inactive⟩
  | edited there allowed done =>
      refine put _ _ _ _ _ there fun closed => ?_
      rw [(Edit.active_of_run done).1] at closed
      cases closed
  | ended there closes base store log => exact put _ _ _ _ _ there fun _ => closes
  | committed there active outcome => exact put _ _ _ session.allocators [] there fun _ => rfl

theorem Ended.step (ended : session.Ended place) : (session.step action).Ended place :=
  have moves : session.Moves (fun _ _ => True) (session.step action) :=
    step_moves action fun _ _ _ _ _ => trivial
  ended.moves moves

/-- None of the changes is made at a place. -/
def Untouched (changes : List (Option Nat × Change)) (place : Nat) : Prop :=
  ∀ change ∈ changes, change.1 ≠ some place

theorem untouched_append {first second : List (Option Nat × Change)} (left : Untouched first place)
    (right : Untouched second place) : Untouched (first ++ second) place :=
  fun change member => (List.mem_append.mp member).elim (left change) (right change)

/-- A run makes no change at a place if none of its steps does. -/
theorem untouched_changes (property : Session → Prop) (kept : property session)
    (step : ∀ (between : Session) (action : Action), action ∈ actions → property between →
      property (between.step action) ∧ ∀ change, between.change? action ≠ some (some place, change)) :
    Untouched (session.changes actions) place := by
  induction actions generalizing session with
  | nil => exact fun _ member => (List.not_mem_nil member).elim
  | cons action rest ih =>
      have ⟨next, unmade⟩ := step session action List.mem_cons_self kept
      refine untouched_append ?_
        (ih next fun between other member => step between other (List.mem_cons_of_mem _ member))
      rintro ⟨author, change⟩ member rfl
      exact unmade change (Option.mem_toList.mp member)

theorem Ended.untouched (ended : session.Ended place) :
    Untouched (session.changes actions) place := by
  refine untouched_changes (·.Ended place) ended fun between action _ ended => ⟨ended.step, ?_⟩
  rcases ended with ⟨handle, found, inactive⟩
  intro change made
  rcases change?_eq_some made with ⟨-, other, there, active⟩
  cases found.symm.trans there
  exact Bool.false_ne_true (inactive.symm.trans active)

/-- Who does not offer a transaction for commit makes no change by it. -/
theorem untouched_of_uncommitted (uncommitted : .commit place ∉ actions) :
    Untouched (session.changes actions) place := by
  refine untouched_changes (fun _ => True) trivial fun between action member _ => ⟨trivial, ?_⟩
  intro change made
  exact uncommitted ((change?_eq_some made).1 ▸ member)

theorem places_step (session : Session) (action : Action) :
    session.handles.length ≤ (session.step action).handles.length :=
  have moves : session.Moves (fun _ _ => True) (session.step action) :=
    step_moves action fun _ _ _ _ _ => trivial
  moves.places

theorem places_run (session : Session) (actions : List Action) :
    session.handles.length ≤ (session.run actions).handles.length := by
  induction actions generalizing session with
  | nil => exact Nat.le_refl _
  | cons action rest ih => exact (session.places_step action).trans (ih _)

/-- Where no transaction is begun, no change is made. -/
theorem untouched_of_unbegun (unbegun : (session.run actions).handles.length ≤ place) :
    Untouched (session.changes actions) place := by
  induction actions generalizing session with
  | nil => exact fun _ member => (List.not_mem_nil member).elim
  | cons action rest ih =>
      refine untouched_append ?_ (ih unbegun)
      rintro ⟨author, change⟩ member rfl
      rcases change?_eq_some (Option.mem_toList.mp member) with ⟨-, handle, found, -⟩
      have within := (List.getElem?_eq_some_iff.mp found).1
      have grows := session.places_run (action :: rest)
      omega

/-- A transaction that nobody offers for commit is not committed. -/
theorem status_run (found : session.handles[place]? = some handle)
    (pending : handle.transaction.status ≠ .committed) (uncommitted : .commit place ∉ actions) :
    ∃ next, (session.run actions).handles[place]? = some next ∧
      next.transaction.status ≠ .committed := by
  induction actions generalizing session handle with
  | nil => exact ⟨handle, found, pending⟩
  | cons action rest ih =>
      have stays : ∃ next, (session.step action).handles[place]? = some next ∧
          next.transaction.status ≠ .committed := by
        by_cases edits : ∃ edit, action = .edit place edit
        · rcases edits with ⟨edit, rfl⟩
          simp only [step, withHandle, found, Session.edit]
          cases done : edit.run handle.transaction session.allocators with
          | error error => exact ⟨handle, found, pending⟩
          | ok result =>
              rcases result with ⟨transaction, allocators, handed⟩
              refine ⟨_, getElem?_put found, ?_⟩
              cases Edit.run_makes done <;> exact pending
        · by_cases rollsBack : action = .rollback place
          · subst rollsBack
            simp only [step, withHandle, found]
            refine ⟨_, getElem?_put found, ?_⟩
            unfold Transaction.rollback
            split
            · simp
            · exact pending
          · have within := (List.getElem?_eq_some_iff.mp found).1
            have same := getElem?_step within (fun edit is => edits ⟨edit, is⟩) rollsBack
              fun is => uncommitted (is ▸ List.mem_cons_self)
            exact ⟨handle, same.trans found, pending⟩
      rcases stays with ⟨next, there, still⟩
      exact ih there still fun member => uncommitted (List.mem_cons_of_mem _ member)

end Session

end EntityBase
