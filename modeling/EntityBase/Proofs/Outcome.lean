namespace EntityBase

/-!
# Results that may be errors

A sequence of checks succeeds exactly when each of them does.  These are the
forms in which the specifications of the operations take a successful result
apart.
-/

namespace Outcome

variable {ε α β : Type}

theorem bind_eq_ok_iff {first : Except ε α} {rest : α → Except ε β} {result : β} :
    (first >>= rest) = .ok result ↔ ∃ value, first = .ok value ∧ rest value = .ok result := by
  cases first with
  | error cause =>
      constructor
      · intro impossible
        cases impossible
      · rintro ⟨value, impossible, -⟩
        cases impossible
  | ok value =>
      constructor
      · intro done
        exact ⟨value, rfl, done⟩
      · rintro ⟨other, same, done⟩
        cases same
        exact done

theorem map_eq_ok_iff {first : Except ε α} {change : α → β} {result : β} :
    first.map change = .ok result ↔ ∃ value, first = .ok value ∧ change value = result := by
  cases first with
  | error cause => simp [Except.map]
  | ok value => simp [Except.map]

theorem bind_eq_error_iff {first : Except ε α} {rest : α → Except ε β} {cause : ε} :
    (first >>= rest) = .error cause ↔
      first = .error cause ∨ ∃ value, first = .ok value ∧ rest value = .error cause := by
  cases first with
  | error other =>
      constructor
      · intro failed
        cases failed
        exact .inl rfl
      · rintro (failed | ⟨value, impossible, -⟩)
        · cases failed
          rfl
        · cases impossible
  | ok value =>
      constructor
      · intro failed
        exact .inr ⟨value, rfl, failed⟩
      · rintro (impossible | ⟨other, same, failed⟩)
        · cases impossible
        · cases same
          exact failed

theorem map_eq_error_iff {first : Except ε α} {change : α → β} {cause : ε} :
    first.map change = .error cause ↔ first = .error cause := by
  cases first <;> simp [Except.map]

/-- What follows a check is reached when the check reports nothing. -/
theorem check_bind_eq_error_iff {check : Except ε Unit} {rest : Except ε β} {cause : ε} :
    (check >>= fun _ => rest) = .error cause ↔
      check = .error cause ∨ (∀ other, check ≠ .error other) ∧ rest = .error cause := by
  rw [bind_eq_error_iff]
  cases check <;> simp

/-- A list passes a check when each of its members does. -/
theorem forM_eq_ok_iff {check : α → Except ε Unit} {members : List α} :
    members.forM check = .ok () ↔ ∀ member ∈ members, check member = .ok () := by
  induction members with
  | nil => exact ⟨by simp, fun _ => rfl⟩
  | cons head rest ih =>
      rw [List.forM_eq_forM] at ih ⊢
      rw [List.forM_cons, bind_eq_ok_iff, List.forall_mem_cons, ← ih]
      constructor
      · rintro ⟨_, first, done⟩
        exact ⟨first, done⟩
      · rintro ⟨first, done⟩
        exact ⟨(), first, done⟩

/-! ## A list of results -/

section Lists

variable {act : α → Except ε β} {members : List α} {results : List β}

theorem mapM_cons_eq_ok_iff {head : α} {rest : List α} :
    (head :: rest).mapM act = .ok results ↔
      ∃ first others, act head = .ok first ∧ rest.mapM act = .ok others ∧ results = first :: others := by
  rw [List.mapM_cons, bind_eq_ok_iff]
  simp only [bind_eq_ok_iff]
  constructor
  · rintro ⟨first, done, others, further, same⟩
    cases same
    exact ⟨first, others, done, further, rfl⟩
  · rintro ⟨first, others, done, further, rfl⟩
    exact ⟨first, done, others, further, rfl⟩

/-- Where each member of a list has a result, so has the list. -/
theorem exists_mapM_eq_ok (each : ∀ member ∈ members, ∃ result, act member = .ok result) :
    ∃ results, members.mapM act = .ok results := by
  induction members with
  | nil => exact ⟨[], rfl⟩
  | cons head rest ih =>
      rcases each head List.mem_cons_self with ⟨first, done⟩
      rcases ih fun member listed => each member (List.mem_cons_of_mem _ listed) with
        ⟨others, further⟩
      exact ⟨first :: others, mapM_cons_eq_ok_iff.mpr ⟨first, others, done, further, rfl⟩⟩

theorem mapM_eq_ok_map {ofMember : α → β} (each : ∀ member ∈ members, act member = .ok (ofMember member)) :
    members.mapM act = .ok (members.map ofMember) := by
  induction members with
  | nil => rfl
  | cons head rest ih =>
      have further := ih fun member listed => each member (List.mem_cons_of_mem _ listed)
      exact mapM_cons_eq_ok_iff.mpr ⟨_, _, each head List.mem_cons_self, further, rfl⟩

theorem mem_results_iff (done : members.mapM act = .ok results) (result : β) :
    result ∈ results ↔ ∃ member ∈ members, act member = .ok result := by
  induction members generalizing results with
  | nil =>
      cases done
      simp
  | cons head rest ih =>
      rcases mapM_cons_eq_ok_iff.mp done with ⟨first, others, here, further, rfl⟩
      simp [ih further, here, eq_comm]

/-- What each result has from its member, the results have from the members. -/
theorem map_results {γ : Type} {ofMember : α → γ} {ofResult : β → γ}
    (done : members.mapM act = .ok results)
    (same : ∀ member ∈ members, ∀ result, act member = .ok result →
      ofResult result = ofMember member) :
    results.map ofResult = members.map ofMember := by
  induction members generalizing results with
  | nil =>
      cases done
      rfl
  | cons head rest ih =>
      rcases mapM_cons_eq_ok_iff.mp done with ⟨first, others, here, further, rfl⟩
      rw [List.map_cons, List.map_cons, same head List.mem_cons_self first here,
        ih further fun member listed => same member (List.mem_cons_of_mem _ listed)]

end Lists

end Outcome

end EntityBase
