import EntityBase.Proofs.Engine.Writes

namespace EntityBase

/-!
# What a repeated log can do

A log adds the entities that its creations name and may remove any others.  It
changes no record, registers no type and keeps a coherent snapshot coherent.
Each of these is a fact about one write, and repeating a log is nothing but
writes.
-/

/-- The identifiers that the writes of a log create entities under. -/
def Write.creations (log : List Write) : List EntityId :=
  log.filterMap Write.created?

namespace Write

@[simp]
theorem creations_nil : creations [] = [] :=
  rfl

@[simp]
theorem creations_create (id : EntityId) (entityType : String) (supplied : List (String × Value))
    (rest : List Write) :
    creations (.create id entityType supplied :: rest) = id :: creations rest :=
  rfl

@[simp]
theorem creations_delete (id : EntityId) (rest : List Write) :
    creations (.delete id :: rest) = creations rest :=
  rfl

@[simp]
theorem creations_append (first second : List Write) :
    creations (first ++ second) = creations first ++ creations second :=
  List.filterMap_append

/-- The first write apart. -/
theorem creations_cons (write : Write) (rest : List Write) :
    creations (write :: rest) = creations [write] ++ creations rest :=
  creations_append [write] rest

end Write

namespace Store

variable {store next : Store} {write : Write} {log : List Write} {id : EntityId} {record : Record}

theorem replay_cons (store : Store) (write : Write) (rest : List Write) :
    store.replay (write :: rest) = .ok next ↔
      ∃ between, write.apply store = .ok between ∧ between.replay rest = .ok next := by
  rw [replay, List.foldlM_cons, Outcome.bind_eq_ok_iff]
  rfl

theorem apply_delete_eq_ok_iff :
    Write.apply store (.delete id) = .ok next ↔
      ∃ removed, store.delete id = .ok (next, removed) := by
  rw [Write.apply, Outcome.map_eq_ok_iff]
  constructor
  · rintro ⟨⟨_, removed⟩, done, rfl⟩
    exact ⟨removed, done⟩
  · rintro ⟨removed, done⟩
    exact ⟨_, done, rfl⟩

/-! ## One write -/

theorem schema_apply (done : write.apply store = .ok next) : next.schema = store.schema := by
  cases write with
  | create id entityType supplied =>
      rcases insert_eq_ok_iff.mp done with ⟨-, draft, -, rfl⟩
      rfl
  | delete id =>
      rcases apply_delete_eq_ok_iff.mp done with ⟨removed, deleted⟩
      exact schema_deleteArranged deleted

theorem allocator_apply (done : write.apply store = .ok next) :
    next.allocator = store.allocator := by
  cases write with
  | create id entityType supplied =>
      rcases insert_eq_ok_iff.mp done with ⟨-, draft, -, rfl⟩
      rfl
  | delete id =>
      rcases apply_delete_eq_ok_iff.mp done with ⟨removed, deleted⟩
      exact allocator_deleteArranged deleted

theorem Coherent.apply (coherent : store.Coherent) (done : write.apply store = .ok next) :
    next.Coherent := by
  cases write with
  | create id entityType supplied => exact coherent.insert done
  | delete id =>
      rcases apply_delete_eq_ok_iff.mp done with ⟨removed, deleted⟩
      exact coherent.delete deleted

/-- What is live after a write was there before, with the same record, unless
the write has created it. -/
theorem get?_of_apply (done : write.apply store = .ok next) (live : next.get? id = some record) :
    store.get? id = some record ∨ write.created? = some id := by
  cases write with
  | create other entityType supplied =>
      rcases insert_eq_ok_iff.mp done with ⟨-, draft, -, rfl⟩
      rw [get?_place] at live
      split at live
      · rename_i same
        exact Or.inr (congrArg some same)
      · exact Or.inl live
  | delete other =>
      rcases apply_delete_eq_ok_iff.mp done with ⟨removed, deleted⟩
      exact Or.inl ((get?_deleteArranged_iff deleted id record).mp live).1

/-! ## A whole log -/

theorem schema_replay (done : store.replay log = .ok next) : next.schema = store.schema :=
  replay_keeps (·.schema = store.schema)
    (fun _ _ _ _ kept applied => (schema_apply applied).trans kept) rfl done

theorem allocator_replay (done : store.replay log = .ok next) : next.allocator = store.allocator :=
  replay_keeps (·.allocator = store.allocator)
    (fun _ _ _ _ kept applied => (allocator_apply applied).trans kept) rfl done

theorem Coherent.replay (coherent : store.Coherent) (done : store.replay log = .ok next) :
    next.Coherent :=
  replay_keeps Coherent (fun _ _ _ _ kept applied => kept.apply applied) coherent done

theorem get?_of_replay (done : store.replay log = .ok next) (live : next.get? id = some record) :
    store.get? id = some record ∨ id ∈ Write.creations log := by
  refine replay_keeps (fun later => ∀ (id : EntityId) (record : Record),
    later.get? id = some record → store.get? id = some record ∨ id ∈ Write.creations log) ?_
    (fun _ _ => Or.inl) done id record live
  intro write between later member kept applied id record live
  rcases get?_of_apply applied live with old | created
  · exact kept id record old
  · exact Or.inr (List.mem_filterMap.mpr ⟨write, member, created⟩)

theorem contains_of_replay (done : store.replay log = .ok next) (live : next.contains id = true) :
    store.contains id = true ∨ id ∈ Write.creations log := by
  rcases (contains_eq_true_iff next id).mp live with ⟨record, found⟩
  exact (get?_of_replay done found).imp_left fun old =>
    (contains_eq_true_iff store id).mpr ⟨record, old⟩

end Store

end EntityBase
