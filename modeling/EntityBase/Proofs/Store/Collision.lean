import EntityBase.Proofs.Store.Integrity

namespace EntityBase

/-!
# Creations and the identifiers that callers choose

Identifiers come from two sources, the counter and the caller of an insertion.
Only the insertion looks whether its identifier is live.  The counter never
repeats itself below the wrap, so a creation can meet a live entity in one way
only: somebody inserted under the identifier before the counter had come to it.

Histories are taken here with insertions under any identifiers whatever.  An
insertion that runs ahead of the counter harms no creation but the one that
receives its identifier, and that one replaces a single record.
-/

/-! ## Who is live -/

section Calls

variable {call : StoreCall} {store next : Store} {allocators after : Allocators}
  {handed : List EntityId} {id : EntityId}

theorem StoreCall.Makes.allocator (made : call.Makes store allocators next after handed) :
    next.allocator = store.allocator := by
  cases made with
  | registered made =>
      rcases Store.register_eq_ok made with ⟨-, -, rfl⟩
      rfl
  | created made =>
      rcases Store.create_eq_ok made with ⟨-, -, -, rfl, -⟩
      rfl
  | inserted made =>
      rcases Store.insert_eq_ok_iff.mp made with ⟨-, -, -, rfl⟩
      rfl
  | deleted made => exact Store.allocator_deleteArranged made

/-- Whoever is live after a call was live before it, was named by the allocator
in it, or came under the identifier that was brought along. -/
theorem StoreCall.Makes.origin (made : call.Makes store allocators next after handed)
    (live : next.contains id = true) :
    store.contains id = true ∨ id ∈ handed ∨ call.inserted? = some id := by
  rw [Store.contains_eq_true_iff] at live
  rcases live with ⟨record, live⟩
  cases made with
  | registered made =>
      rcases Store.register_eq_ok made with ⟨schema, -, rfl⟩
      exact Or.inl ((Store.contains_eq_true_iff _ _).mpr ⟨record, live⟩)
  | @created _ _ named _ _ made =>
      by_cases same : named = id
      · exact Or.inr (Or.inl (by simp [same]))
      · rw [Store.get?_of_create made, if_neg same] at live
        exact Or.inl ((Store.contains_eq_true_iff _ _).mpr ⟨record, live⟩)
  | @inserted named _ _ _ made =>
      by_cases same : named = id
      · exact Or.inr (Or.inr (by simp [StoreCall.inserted?, same]))
      · rw [Store.get?_of_insert made, if_neg same] at live
        exact Or.inl ((Store.contains_eq_true_iff _ _).mpr ⟨record, live⟩)
  | deleted made =>
      have before := ((Store.get?_deleteArranged_iff made id record).mp live).1
      exact Or.inl ((Store.contains_eq_true_iff _ _).mpr ⟨record, before⟩)

end Calls

/-! ## What a creation adds -/

namespace Store

variable {store next : Store} {id : EntityId}

/-- A snapshot with a record set under an identifier.  A record that stood there
is gone, and no other record moves. -/
structure Sets (store : Store) (id : EntityId) (record : Record) (next : Store) : Prop where
  set : next.get? id = some record
  others : ∀ other, other ≠ id → next.get? other = store.get? other
  size : next.size = if store.contains id then store.size else store.size + 1

theorem size_place (store : Store) (id : EntityId) (draft : Draft) :
    (store.place id draft).size = if store.contains id then store.size else store.size + 1 := by
  exact Std.ExtTreeMap.size_insert

theorem sets_of_create {allocators after : Allocators} {entityType : String}
    {supplied : List (String × Value)}
    (done : store.create allocators entityType supplied = .ok (id, next, after)) :
    store.Sets id ⟨id, entityType, assemble supplied⟩ next where
  set := by rw [get?_of_create done, if_pos rfl]
  others other different := by rw [get?_of_create done, if_neg (Ne.symm different)]
  size := by
    rcases create_eq_ok done with ⟨draft, -, -, rfl, -⟩
    exact size_place store id draft

/-- A record set under a free identifier is one more. -/
theorem Sets.adds {record : Record} (sets : store.Sets id record next)
    (free : store.contains id = false) :
    (∀ other kept, store.get? other = some kept → next.get? other = some kept) ∧
      next.size = store.size + 1 := by
  refine ⟨fun other kept live => ?_, by rw [sets.size, free, if_neg Bool.false_ne_true]⟩
  rw [sets.others other, live]
  rintro rfl
  rw [(contains_eq_false_iff store other).mp free] at live
  cases live

end Store

namespace World

variable {world : World} {store next : Store} {allocator : Allocator} {id : EntityId}
  {mayInsert : World → Store → EntityId → Prop}

/-! ## Insertions that do not run ahead -/

/-- Snapshots on an allocator insert under an identifier only after the
allocator has handed it out. -/
def InsertsLate (mayInsert : World → Store → EntityId → Prop) (allocator : Allocator)
    (id : EntityId) : Prop :=
  ∀ (world : World) (store : Store), store.allocator = allocator → mayInsert world store id →
    world.HandedOut store id

/-- A live entity has an identifier that was handed out, unless it was inserted
ahead of the counter. -/
theorem Reached.handedOut (reached : world.Reached mayInsert) (member : store ∈ world.stores)
    (late : InsertsLate mayInsert store.allocator id) (live : store.contains id = true) :
    world.HandedOut store id := by
  unfold HandedOut
  induction reached generalizing store with
  | start => cases member
  | @new world reached ih =>
      rcases List.mem_cons.mp member with same | old
      · have empty := (Store.contains_eq_false_iff _ _).mpr (Store.get?_new world.allocators id)
        cases (same ▸ live).symm.trans empty
      · exact ih old late live
  | @call world current reached current_mem call permitted ih =>
      unfold perform at member ⊢
      cases ran : call.run current world.allocators with
      | error cause =>
          simp only [ran] at member
          exact ih member late live
      | ok result =>
          rcases result with ⟨next, allocators, handed⟩
          simp only [ran] at member
          rcases List.mem_cons.mp member with same | old
          · subst same
            have made := call.run_makes ran
            rw [made.allocator] at late ⊢
            rcases made.origin live with before | handedOut | brought
            · exact (issued_sublist_note _ _ _ _).subset (ih current_mem late before)
            · simp [note, handedOut]
            · exact (issued_sublist_note _ _ _ _).subset (late _ _ rfl (permitted id brought))
          · exact (issued_sublist_note _ _ _ _).subset (ih old late live)

/-! ## Creations -/

/-- A creation receives an identifier that its allocator has never handed out,
sets the new record under it and moves no other.  It meets no live entity, and
so keeps every record and adds one, as long as no insertion has used this very
identifier ahead of the counter. -/
theorem creation_of_reached {allocators : Allocators} {entityType : String}
    {supplied : List (String × Value)} (reached : world.Reached mayInsert)
    (member : store ∈ world.stores)
    (few : (world.issued store.allocator).length < UInt64.size)
    (done : store.create world.allocators entityType supplied = .ok (id, next, allocators)) :
    ¬ world.HandedOut store id ∧ store.Sets id ⟨id, entityType, assemble supplied⟩ next ∧
      (InsertsLate mayInsert store.allocator id →
        store.contains id = false ∧
        (∀ other kept, store.get? other = some kept → next.get? other = some kept) ∧
        next.size = store.size + 1) := by
  have new : ¬ world.HandedOut store id := by
    rcases Store.create_eq_ok done with ⟨-, -, named, -, -⟩
    rw [named]
    exact (reached.accounts store.allocator).allocate_notMem few
  have sets := Store.sets_of_create done
  refine ⟨new, sets, fun late => ?_⟩
  have free : store.contains id = false :=
    Bool.eq_false_iff.mpr fun live => new (reached.handedOut member late live)
  exact ⟨free, sets.adds free⟩

namespace Sample

def visitor : EntityType :=
  { name := "Visitor", attributes := [{ field := "name", kind := .value .string }] }

/-- Visitors can be created, and there are none yet. -/
def declared : World :=
  ({} : World).withNew.advance (.register visitor)

/-- A visitor inserted under an identifier that no counter has come to. -/
def ahead (id : EntityId) : World :=
  declared.advance (.insert id "Visitor" [("name", .string "first")])

theorem reached_ahead {id : EntityId} {mayInsert : World → Store → EntityId → Prop}
    (may : ∀ world store, store.contains id = false → mayInsert world store id) :
    (ahead id).Reached mayInsert := by
  have started : declared.Reached mayInsert :=
    Reached.advance (.new .start) _ (by simp [StoreCall.inserted?])
  refine started.advance _ fun store other brought newest => ?_
  cases brought
  have empty : declared.stores.head?.map Store.records = some ∅ := by cbv
  rw [newest] at empty
  apply may
  rw [Store.contains, Option.some.inj empty, Std.ExtTreeMap.contains_empty]

/-- Another visitor created on the newest snapshot: its identifier, the names that
stood and stand under it, how many entities there were and are, and how many
identifiers had been handed out. -/
def another (world : World) : Option (EntityId × Option Value × Option Value × Nat × Nat × Nat) := do
  let store ← world.stores.head?
  let (id, next, _) ←
    (store.create world.allocators "Visitor" [("name", .string "second")]).toOption
  return (id, store.value? id "name", next.value? id "name", store.size, next.size,
    (world.issued store.allocator).length)

theorem exists_create_of_another {world : World} {id : EntityId} {before after : Option Value}
    {few many issued : Nat} (created : another world = some (id, before, after, few, many, issued)) :
    ∃ store next allocators, store ∈ world.stores ∧
      store.create world.allocators "Visitor" [("name", .string "second")] =
        .ok (id, next, allocators) ∧
      store.value? id "name" = before ∧ next.value? id "name" = after ∧ store.size = few ∧
      next.size = many ∧ (world.issued store.allocator).length = issued := by
  unfold another at created
  rw [Option.bind_eq_bind, Option.bind_eq_some_iff] at created
  rcases created with ⟨store, newest, created⟩
  rw [Option.bind_eq_bind, Option.bind_eq_some_iff] at created
  rcases created with ⟨⟨named, next, allocators⟩, succeeded, result⟩
  cases result
  refine ⟨store, next, allocators, List.mem_of_mem_head? newest, ?_, rfl, rfl, rfl, rfl, rfl⟩
  cases ran : store.create world.allocators "Visitor" [("name", .string "second")] with
  | error cause => simp [ran, Except.toOption] at succeeded
  | ok result => simpa [ran, Except.toOption] using succeeded

end Sample

/-- The first creation receives zero, so it does not meet the visitor inserted under
seven, though the counter has not come to seven. -/
theorem creation_of_reached_sample : ∃ store next allocators,
    (Sample.ahead ⟨7⟩).Reached (fun _ _ other => other = ⟨7⟩) ∧
    store ∈ (Sample.ahead ⟨7⟩).stores ∧
    ((Sample.ahead ⟨7⟩).issued store.allocator).length < UInt64.size ∧
    store.create (Sample.ahead ⟨7⟩).allocators "Visitor" [("name", .string "second")] =
      .ok (⟨0⟩, next, allocators) ∧
    store.size = 1 ∧ store.contains ⟨0⟩ = false ∧ next.size = 2 := by
  have created : Sample.another (Sample.ahead ⟨7⟩) =
      some (⟨0⟩, none, some (.string "second"), 1, 2, 0) := by cbv
  rcases Sample.exists_create_of_another created with
    ⟨store, next, allocators, member, done, -, -, size, -, issued⟩
  have few : ((Sample.ahead ⟨7⟩).issued store.allocator).length < UInt64.size := by
    rw [issued]
    decide
  have late : InsertsLate (fun _ _ other => other = ⟨7⟩) store.allocator ⟨0⟩ := by
    intro _ _ _ inserted
    cases inserted
  have reached : (Sample.ahead ⟨7⟩).Reached fun _ _ other => other = ⟨7⟩ :=
    Sample.reached_ahead fun _ _ _ => rfl
  rcases creation_of_reached reached member few done with ⟨-, -, meets⟩
  rcases meets late with ⟨free, -, grown⟩
  exact ⟨store, next, allocators, reached, member, few, done, size, free, by rw [grown, size]⟩

/-- A visitor is inserted under zero, which is free, and the first creation replaces
it. -/
theorem create_replaces_inserted : ∃ store next allocators,
    (Sample.ahead ⟨0⟩).Reached (fun _ earlier other => earlier.contains other = false) ∧
    store ∈ (Sample.ahead ⟨0⟩).stores ∧
    ((Sample.ahead ⟨0⟩).issued store.allocator).length < UInt64.size ∧
    store.create (Sample.ahead ⟨0⟩).allocators "Visitor" [("name", .string "second")] =
      .ok (⟨0⟩, next, allocators) ∧
    store.value? ⟨0⟩ "name" = some (.string "first") ∧
    next.value? ⟨0⟩ "name" = some (.string "second") ∧ next.size = store.size := by
  have created : Sample.another (Sample.ahead ⟨0⟩) =
      some (⟨0⟩, some (.string "first"), some (.string "second"), 1, 1, 0) := by cbv
  rcases Sample.exists_create_of_another created with
    ⟨store, next, allocators, member, done, before, after, size, same, issued⟩
  refine ⟨store, next, allocators, Sample.reached_ahead fun _ _ free => free, member, ?_, done,
    before, after, by rw [same, size]⟩
  rw [issued]
  decide

end World

end EntityBase
