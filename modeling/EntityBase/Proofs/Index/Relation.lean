import EntityBase.Index
import Mathlib.Data.Set.Card

namespace EntityBase

/-!
# The index as a relation

What an index holds is a relation between keys and entities, and all that can
be asked of it is asked of that relation.  A key is present when some entity
stands under it, and the size is the number of such keys.  No two indexes
represent the same relation.

The relation that calls leave behind can be read off the list of them.  An
entity stands under a key when the last call about the two of them put it
there.  Calls about another key or another entity have no say in it, and
neither has an earlier call, so it makes no difference whether an entity is put
where it is already or taken from where it is not.
-/

namespace Index

/-- A call that changes an index. -/
inductive Call where
  | insert (key : IndexKey) (id : EntityId)
  | erase (key : IndexKey) (id : EntityId)
deriving DecidableEq

namespace Call

def key : Call → IndexKey
  | insert key _ => key
  | erase key _ => key

def entity : Call → EntityId
  | insert _ id => id
  | erase _ id => id

/-- Whether a call is about an entity under a key. -/
def Concerns (call : Call) (key : IndexKey) (id : EntityId) : Prop :=
  call.key = key ∧ call.entity = id

instance (call : Call) (key : IndexKey) (id : EntityId) : Decidable (call.Concerns key id) :=
  inferInstanceAs (Decidable (_ ∧ _))

end Call

def perform (index : Index) : Call → Index
  | .insert key id => index.insert key id
  | .erase key id => index.erase key id

/-- The index that calls make of an empty one, the first of the list first. -/
def after (calls : List Call) : Index :=
  calls.foldl perform ∅

/-- The last call about an entity under a key has put it there. -/
def Stands (calls : List Call) (key : IndexKey) (id : EntityId) : Prop :=
  (calls.filter (·.Concerns key id)).getLast? = some (.insert key id)

/-- Everything that an index answers is said of a relation. -/
structure Represents (index : Index) (related : IndexKey → EntityId → Prop) : Prop where
  find : ∀ key id, id ∈ index.find key ↔ related key id
  contains : ∀ key, index.contains key = true ↔ ∃ id, related key id
  size : (index.size : ℕ∞) = {key | ∃ id, related key id}.encard
  isEmpty : index.isEmpty = true ↔ ∀ key id, ¬ related key id

variable {index first second : Index} {related : IndexKey → EntityId → Prop}

/-! ## Answers and members -/

/-- A key is present exactly when some entity stands under it. -/
theorem contains_iff_exists_mem (index : Index) (key : IndexKey) :
    index.contains key = true ↔ ∃ id, id ∈ index.find key := by
  rw [contains_eq_true_iff]
  constructor
  · intro occupied
    by_contra nobody
    apply occupied
    ext id
    simpa using fun member => nobody ⟨id, member⟩
  · rintro ⟨id, member⟩ vacant
    rw [vacant] at member
    exact Std.ExtTreeSet.not_mem_empty member

theorem size_eq_encard (index : Index) :
    (index.size : ℕ∞) = {key | index.contains key = true}.encard := by
  have listed : {key | index.contains key = true} = ↑index.entries.keys.toFinset := by
    ext key
    change index.contains key = true ↔ _
    rw [Finset.mem_coe, List.mem_toFinset, Std.ExtTreeMap.mem_keys]
    exact Std.ExtTreeMap.contains_iff_mem
  rw [listed, Set.encard_coe_eq_coe_finsetCard,
    List.toFinset_card_of_nodup Std.ExtTreeMap.nodup_keys, Std.ExtTreeMap.length_keys, size]

theorem isEmpty_iff_forall_contains (index : Index) :
    index.isEmpty = true ↔ ∀ key, index.contains key = false :=
  Std.ExtTreeMap.isEmpty_iff.trans Std.ExtTreeMap.eq_empty_iff_forall_contains

/-- An index represents a relation as soon as its lookups do. -/
theorem represents_of_find (find : ∀ key id, id ∈ index.find key ↔ related key id) :
    index.Represents related := by
  have contains : ∀ key, index.contains key = true ↔ ∃ id, related key id := by
    intro key
    rw [contains_iff_exists_mem]
    exact exists_congr (find key)
  refine ⟨find, contains, ?_, ?_⟩
  · rw [size_eq_encard]
    exact congrArg Set.encard (Set.ext contains)
  · rw [isEmpty_iff_forall_contains]
    simp only [← Bool.not_eq_true, contains, not_exists]

/-- A relation has one index. -/
theorem Represents.eq (left : first.Represents related) (right : second.Represents related) :
    first = second := by
  apply ext_find
  intro key
  ext id
  rw [left.find, right.find]

/-! ## Calls -/

/-- A call settles the entity and the key that it is about, and leaves the rest
alone. -/
theorem mem_find_perform (index : Index) (call : Call) (key : IndexKey) (id : EntityId) :
    id ∈ (index.perform call).find key ↔
      if call.Concerns key id then call = .insert key id else id ∈ index.find key := by
  cases call with
  | insert changed entity =>
      rw [perform, find_insert]
      by_cases same : changed = key
      · subst same
        by_cases named : entity = id <;>
          simp [Call.Concerns, Call.key, Call.entity, Std.ExtTreeSet.mem_insert, named]
      · simp [Call.Concerns, Call.key, same]
  | erase changed entity =>
      rw [perform, find_erase]
      by_cases same : changed = key
      · subst same
        by_cases named : entity = id <;>
          simp [Call.Concerns, Call.key, Call.entity, Std.ExtTreeSet.mem_erase, named]
      · simp [Call.Concerns, Call.key, same]

theorem stands_concat (calls : List Call) (call : Call) (key : IndexKey) (id : EntityId) :
    Stands (calls ++ [call]) key id ↔
      if call.Concerns key id then call = .insert key id else Stands calls key id := by
  unfold Stands
  rw [List.filter_append]
  by_cases concerned : call.Concerns key id
  · simp [concerned]
  · simp [concerned]

theorem after_concat (calls : List Call) (call : Call) :
    after (calls ++ [call]) = (after calls).perform call := by
  simp [after]

theorem mem_find_after (calls : List Call) (key : IndexKey) (id : EntityId) :
    id ∈ (after calls).find key ↔ Stands calls key id := by
  induction calls using List.reverseRecOn with
  | nil =>
      change id ∈ empty.find key ↔ _
      simp [Stands]
  | append_singleton calls call ih =>
      rw [after_concat, mem_find_perform, stands_concat, ih]

/-- What stands under a key does not depend on the calls about other keys. -/
theorem stands_filter_of_ne {left right : IndexKey} (different : left ≠ right) (id : EntityId) :
    Stands (calls.filter (·.key ≠ left)) right id ↔ Stands calls right id := by
  have same : (calls.filter (·.key ≠ left)).filter (·.Concerns right id) =
      calls.filter (·.Concerns right id) := by
    rw [List.filter_filter]
    apply List.filter_congr
    intro call _
    by_cases concerned : call.Concerns right id
    · simp [concerned, concerned.1, different.symm]
    · simp [concerned]
  rw [Stands, Stands, same]

/-- Whatever calls are made of an empty index, in whatever order and however
often, the index represents the relation that they leave behind, and calls that
leave the same relation behind make the same index.  Values of different kinds,
and floating-point values of different bits, belong to different keys: what
stands under the one is as if there were no calls about the other. -/
theorem relation_of_calls (calls : List Call) :
    (after calls).Represents (Stands calls) ∧
    (∀ others, (∀ key id, Stands calls key id ↔ Stands others key id) →
      after calls = after others) ∧
    ∀ left right : IndexKey,
      (left.value.type ≠ right.value.type ∨
        ∃ one other, left.value = .float one ∧ right.value = .float other ∧ one.bits ≠ other.bits) →
      left ≠ right ∧
        (after calls).find right = (after (calls.filter (·.key ≠ left))).find right := by
  have represents := represents_of_find (mem_find_after calls)
  refine ⟨represents, fun others same => ?_, fun left right apart => ?_⟩
  · refine represents.eq (represents_of_find fun key id => ?_)
    rw [mem_find_after, same]
  · have different : left ≠ right := by
      rintro rfl
      rcases apart with kinds | ⟨one, other, held, alsoHeld, bits⟩
      · exact kinds rfl
      · rw [held] at alsoHeld
        cases alsoHeld
        exact bits rfl
    refine ⟨different, ?_⟩
    ext id
    rw [mem_find_after, mem_find_after, stands_filter_of_ne different]

/-- Zero is one integer and two floating-point values, and the second erasure has
nothing left to take away. -/
example :
    let level (value : Value) : IndexKey := ⟨"Reading", "level", value⟩
    (after [.insert (level (.int 0)) ⟨1⟩, .insert (level (.float ⟨0⟩)) ⟨1⟩,
      .insert (level (.float ⟨0x8000000000000000⟩)) ⟨1⟩, .erase (level (.float ⟨0⟩)) ⟨1⟩,
      .erase (level (.float ⟨0⟩)) ⟨1⟩]).size = 2 := by
  cbv

end Index

end EntityBase
