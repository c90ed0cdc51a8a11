import EntityBase.Proofs.Outcome
import EntityBase.Proofs.Store.Cascade

namespace EntityBase

/-!
# The snapshot after a delete

Removing a list of entities takes their records and their index entries and
touches nothing else.  The keys to clear are read from the snapshot before the
delete, in which every victim is still live, so the order of the list does not
matter for the result.

Together with the closure of the doomed entities this gives the one statement
that the rest of the theory needs of a delete: it keeps a store coherent.
-/

namespace Store

variable {store next : Store} {arrangement : Arrangement} {id : EntityId}
  {removed : List EntityId}

/-! ## Removing a list -/

theorem get?_remove_iff (snapshot start : Store) (victim other : EntityId) (record : Record) :
    (snapshot.remove start victim).get? other = some record ↔
      start.get? other = some record ∧ ¬ (victim = other ∧ snapshot.contains victim = true) := by
  by_cases live : snapshot.contains victim = true
  · rw [get?_remove _ _ _ _ live]
    by_cases same : victim = other
    · simp [same, same ▸ live]
    · simp [same]
  · have absent := (contains_eq_false_iff snapshot victim).mp (by simpa using live)
    simp [remove, absent, live]

theorem mem_find_remove_iff (snapshot start : Store) (victim other : EntityId) (key : IndexKey) :
    other ∈ (snapshot.remove start victim).index.find key ↔
      other ∈ start.index.find key ∧ ¬ (victim = other ∧ snapshot.Holds victim key) := by
  cases live : snapshot.get? victim with
  | none =>
      have nothing : ¬ snapshot.Holds victim key := by
        rintro ⟨record, -, -, found, -⟩
        rw [live] at found
        cases found
      simp [remove, live, nothing]
  | some record =>
      have keys : snapshot.Holds victim key ↔ key ∈ snapshot.indexKeys record := by
        rw [holds_iff, live]
        simp
      rw [find_remove live, keys]
      by_cases listed : key ∈ snapshot.indexKeys record
      · simp [listed, Std.ExtTreeSet.mem_erase, and_comm]
      · simp [listed]

@[simp]
theorem schema_remove (snapshot start : Store) (victim : EntityId) :
    (snapshot.remove start victim).schema = start.schema := by
  unfold remove
  split <;> rfl

@[simp]
theorem allocator_remove (snapshot start : Store) (victim : EntityId) :
    (snapshot.remove start victim).allocator = start.allocator := by
  unfold remove
  split <;> rfl

theorem schema_foldl_remove (snapshot start : Store) (victims : List EntityId) :
    (victims.foldl snapshot.remove start).schema = start.schema := by
  induction victims generalizing start with
  | nil => rfl
  | cons victim rest ih => rw [List.foldl_cons, ih, schema_remove]

theorem allocator_foldl_remove (snapshot start : Store) (victims : List EntityId) :
    (victims.foldl snapshot.remove start).allocator = start.allocator := by
  induction victims generalizing start with
  | nil => rfl
  | cons victim rest ih => rw [List.foldl_cons, ih, allocator_remove]

theorem get?_foldl_remove_iff (snapshot start : Store) (victims : List EntityId)
    (other : EntityId) (record : Record) :
    (victims.foldl snapshot.remove start).get? other = some record ↔
      start.get? other = some record ∧ ¬ (other ∈ victims ∧ snapshot.contains other = true) := by
  induction victims generalizing start with
  | nil => simp
  | cons victim rest ih =>
      rw [List.foldl_cons, ih, get?_remove_iff, List.mem_cons]
      grind

theorem mem_find_foldl_remove_iff (snapshot start : Store) (victims : List EntityId)
    (other : EntityId) (key : IndexKey) :
    other ∈ (victims.foldl snapshot.remove start).index.find key ↔
      other ∈ start.index.find key ∧ ¬ (other ∈ victims ∧ snapshot.Holds other key) := by
  induction victims generalizing start with
  | nil => simp
  | cons victim rest ih =>
      rw [List.foldl_cons, ih, mem_find_remove_iff, List.mem_cons]
      grind

/-! ## Deletes that succeed -/

/-- What a delete that succeeds has checked, and what it returns. -/
theorem deleteArranged_eq_ok (done : store.deleteArranged arrangement id = .ok (next, removed)) :
    store.contains id = true ∧ removed = store.cascadeOrder arrangement id ∧
      store.protection? arrangement removed = none ∧ next = removed.foldl store.remove store := by
  unfold deleteArranged at done
  split at done
  · rename_i live
    dsimp only at done
    split at done
    · cases done
    · rename_i unprotected
      cases done
      exact ⟨live, rfl, unprotected, rfl⟩
  · cases done

/-- The records after a delete are the old ones without the removed. -/
theorem get?_deleteArranged_iff
    (done : store.deleteArranged arrangement id = .ok (next, removed)) (other : EntityId)
    (record : Record) :
    next.get? other = some record ↔ store.get? other = some record ∧ other ∉ removed := by
  rcases deleteArranged_eq_ok done with ⟨-, -, -, rfl⟩
  rw [get?_foldl_remove_iff, contains_eq_true_iff]
  grind

theorem schema_deleteArranged (done : store.deleteArranged arrangement id = .ok (next, removed)) :
    next.schema = store.schema := by
  rcases deleteArranged_eq_ok done with ⟨-, -, -, rfl⟩
  exact schema_foldl_remove store store removed

theorem allocator_deleteArranged
    (done : store.deleteArranged arrangement id = .ok (next, removed)) :
    next.allocator = store.allocator := by
  rcases deleteArranged_eq_ok done with ⟨-, -, -, rfl⟩
  exact allocator_foldl_remove store store removed

/-- Two snapshots of a schema and an allocator are the same if their records and
their lookups agree. -/
theorem ext_find {first second : Store} (schema : first.schema = second.schema)
    (allocator : first.allocator = second.allocator)
    (records : ∀ id, first.get? id = second.get? id)
    (index : ∀ key, first.index.find key = second.index.find key) : first = second := by
  have sameRecords : first.records = second.records := Std.ExtTreeMap.ext_getElem? records
  have sameIndex : first.index = second.index := Index.ext_find index
  cases first
  cases second
  congr

/-- Removing lists with the same members gives the same snapshot. -/
theorem foldl_remove_congr (snapshot start : Store) {first second : List EntityId}
    (same : ∀ id, id ∈ first ↔ id ∈ second) :
    first.foldl snapshot.remove start = second.foldl snapshot.remove start := by
  apply ext_find
  · rw [schema_foldl_remove, schema_foldl_remove]
  · rw [allocator_foldl_remove, allocator_foldl_remove]
  · intro id
    apply Option.ext
    intro record
    rw [get?_foldl_remove_iff, get?_foldl_remove_iff, same]
  · intro key
    apply Std.ExtTreeSet.ext_mem
    intro id
    rw [mem_find_foldl_remove_iff, mem_find_foldl_remove_iff, same]

/-- Whether a delete succeeds, and what it leaves, does not depend on the
arrangement.  Only the order of removal does. -/
theorem deleteArranged_congr (first second : Arrangement)
    (done : store.deleteArranged first id = .ok (next, removed)) :
    ∃ other, store.deleteArranged second id = .ok (next, other) ∧
      ∀ victim, victim ∈ other ↔ victim ∈ removed := by
  rcases deleteArranged_eq_ok done with ⟨live, rfl, unprotected, rfl⟩
  have same : ∀ victim, victim ∈ store.cascadeOrder second id ↔
      victim ∈ store.cascadeOrder first id :=
    fun _ => ⟨mem_cascadeOrder_congr second first, mem_cascadeOrder_congr first second⟩
  have alsoUnprotected : store.protection? second (store.cascadeOrder second id) = none := by
    rw [protection?_eq_none_iff] at unprotected ⊢
    intro victim doomed referrer refers
    rw [mem_referrers_iff, ← mem_referrers_iff store first] at refers
    exact (same _).mpr (unprotected victim ((same victim).mp doomed) referrer refers)
  refine ⟨store.cascadeOrder second id, ?_, same⟩
  unfold deleteArranged
  rw [if_pos live]
  simp only [alsoUnprotected, foldl_remove_congr store store same]

/-- Whoever refers to a removed entity is removed with it.  A cascading
reference is followed by the walk, and a plain one would have been found
by the check. -/
theorem Coherent.mem_removed_of_reference (coherent : store.Coherent)
    (done : store.deleteArranged arrangement id = .ok (next, removed))
    {owner target : EntityId} {record referenced : Record} {type : EntityType}
    {declared : Attribute} (live : store.get? owner = some record)
    (found : store.schema.find? record.entityType = some type)
    (member : declared ∈ type.attributes) (led : declared.target? = some referenced.entityType)
    (held : record.attributes[declared.field]? = some (.ref target))
    (targetLive : store.get? target = some referenced) (targetRemoved : target ∈ removed) :
    owner ∈ removed := by
  rcases deleteArranged_eq_ok done with ⟨-, order, unprotected, -⟩
  have refers := coherent.mem_referrers arrangement live found member led held targetLive
  cases cascade : declared.cascade with
  | true =>
      rw [cascade] at refers
      rw [order] at targetRemoved ⊢
      exact cascadeOrder_closed targetRemoved (List.mem_map.mpr ⟨_, refers, rfl⟩)
  | false =>
      rw [cascade] at refers
      exact protection?_eq_none_iff.mp unprotected target targetRemoved _ refers

theorem Coherent.integrity_deleteArranged (coherent : store.Coherent)
    (done : store.deleteArranged arrangement id = .ok (next, removed)) : next.Integrity where
  ownId other record live :=
    coherent.integrity.ownId other record ((get?_deleteArranged_iff done other record).mp live).1
  conforms := by
    intro other record live
    rcases (get?_deleteArranged_iff done other record).mp live with ⟨oldLive, stays⟩
    rcases coherent.integrity.conforms other record oldLive with ⟨type, found, conforms⟩
    refine ⟨type, by rw [schema_deleteArranged done, found], conforms.of_kept ?_⟩
    intro declared member target referenced held led targetLive
    rw [get?_deleteArranged_iff done]
    have targetStays : target ∉ removed := by
      intro targetRemoved
      apply stays
      exact coherent.mem_removed_of_reference done oldLive found member led held targetLive
        targetRemoved
    exact ⟨targetLive, targetStays⟩
  unique := by
    intro type declared value first second left right found member unique
      firstLive leftTyped leftHeld secondLive rightTyped rightHeld
    rw [schema_deleteArranged done] at found
    rw [get?_deleteArranged_iff done] at firstLive secondLive
    exact coherent.integrity.unique type declared value first second left right found member unique
      firstLive.1 leftTyped leftHeld secondLive.1 rightTyped rightHeld

theorem holds_deleteArranged_iff (done : store.deleteArranged arrangement id = .ok (next, removed))
    (other : EntityId) (key : IndexKey) :
    next.Holds other key ↔ store.Holds other key ∧ other ∉ removed := by
  have keys : ∀ record, next.indexKeys record = store.indexKeys record := by
    intro record
    unfold indexKeys
    rw [schema_deleteArranged done]
  simp only [holds_iff, get?_deleteArranged_iff done, keys]
  constructor
  · rintro ⟨record, ⟨live, stays⟩, listed⟩
    exact ⟨⟨record, live, listed⟩, stays⟩
  · rintro ⟨⟨record, live, listed⟩, stays⟩
    exact ⟨record, ⟨live, stays⟩, listed⟩

theorem Coherent.deleteArranged (coherent : store.Coherent)
    (done : store.deleteArranged arrangement id = .ok (next, removed)) : next.Coherent where
  schema := schema_deleteArranged done ▸ coherent.schema
  integrity := coherent.integrity_deleteArranged done
  indexed := by
    intro other key
    rw [holds_deleteArranged_iff done, ← coherent.indexed]
    rcases deleteArranged_eq_ok done with ⟨-, -, -, rfl⟩
    rw [mem_find_foldl_remove_iff, ← coherent.indexed]
    grind

theorem Coherent.delete (coherent : store.Coherent) (done : store.delete id = .ok (next, removed)) :
    next.Coherent :=
  coherent.deleteArranged done

end Store

end EntityBase
