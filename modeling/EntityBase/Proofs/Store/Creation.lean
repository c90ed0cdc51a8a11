import EntityBase.Proofs.Outcome
import EntityBase.Proofs.Store.Coherence
import EntityBase.Store.Create

namespace EntityBase

/-!
# What a creation adds

The checks of a creation admit exactly what a coherent store can take: one
fitting value for each declared attribute, and no unique value that stands in
the index already.  The draft that passes depends on the snapshot only through
whether it passes.  Its contents are the supplied pairs, which is why the same
creation repeated on another snapshot yields the same record.
-/

def assemble (supplied : List (String × Value)) : Std.ExtTreeMap String Value :=
  supplied.foldl (fun collected pair => collected.insert pair.1 pair.2) ∅

namespace Store

variable {store next : Store} {type : EntityType} {entityType : String}
  {supplied : List (String × Value)} {draft : Draft} {id : EntityId}

/-- A value passes its check exactly when it fits. -/
theorem checkValue_eq_ok_iff (store : Store) (entityType : String) (declared : Attribute)
    (value : Value) :
    store.checkValue entityType declared value = .ok () ↔ store.Fits declared value := by
  unfold checkValue Fits
  cases declared.kind with
  | value type => simp
  | transient => cases value <;> simp [Value.type]
  | reference target =>
      cases value with
      | ref id =>
          cases live : store.get? id with
          | none => simp [Value.entity?, live]
          | some referenced => simp [Value.entity?, live]
      | _ => simp [Value.entity?]

theorem attributeOf_eq_ok_iff {field : String} {declared : Attribute} :
    attributeOf type field = .ok declared ↔ type.attribute? field = some declared := by
  unfold attributeOf
  cases type.attribute? field <;> simp

theorem declaration_eq_ok_iff :
    store.declaration entityType = .ok type ↔ store.schema.find? entityType = some type := by
  unfold declaration
  cases store.schema.find? entityType <;> simp

/-- Collecting keeps what was collected, takes the supplied pairs as they
are, and lets each pass the check of its attribute. -/
theorem collect_eq_ok {collected result : Std.ExtTreeMap String Value}
    (done : store.collect type collected supplied = .ok result) :
    result = supplied.foldl (fun collected pair => collected.insert pair.1 pair.2) collected ∧
      ∀ (field : String) (value : Value), result[field]? = some value →
        collected[field]? = some value ∨
          ∃ declared, type.attribute? field = some declared ∧ store.Fits declared value := by
  induction supplied generalizing collected with
  | nil =>
      cases done
      exact ⟨rfl, fun _ _ held => Or.inl held⟩
  | cons pair rest ih =>
      rcases pair with ⟨field, value⟩
      rw [collect, Outcome.bind_eq_ok_iff] at done
      rcases done with ⟨declared, known, done⟩
      split at done
      · cases done
      · rw [Outcome.bind_eq_ok_iff] at done
        rcases done with ⟨⟨⟩, checked, done⟩
        rcases ih done with ⟨assembled, origin⟩
        refine ⟨assembled, ?_⟩
        intro other found held
        rcases origin other found held with before | fitting
        · rw [Std.ExtTreeMap.getElem?_insert] at before
          split at before
          · rename_i same
            cases before
            cases Std.LawfulEqOrd.eq_of_compare same
            exact Or.inr ⟨declared, attributeOf_eq_ok_iff.mp known,
              (checkValue_eq_ok_iff _ _ _ _).mp checked⟩
          · exact Or.inl before
        · exact Or.inr fitting

/-- What the second pass checks of one declaration. -/
theorem checkDeclared_eq_ok_iff {collected : Std.ExtTreeMap String Value} {declared : Attribute} :
    store.checkDeclared entityType collected declared = .ok () ↔
      ∃ value, collected[declared.field]? = some value ∧
        (declared.unique = true → store.index.find ⟨entityType, declared.field, value⟩ = ∅) := by
  unfold checkDeclared
  cases collected[declared.field]? with
  | none => simp
  | some value =>
      have taken := Index.contains_eq_true_iff store.index ⟨entityType, declared.field, value⟩
      by_cases unique : declared.unique = true
      · by_cases present : store.index.contains ⟨entityType, declared.field, value⟩ = true
        · simp [unique, present, taken.mp present]
        · simpa [unique, present] using not_not.mp (mt taken.mpr present)
      · simp [unique]

/-! ## Drafts -/

/-- What a snapshot knows of a draft that has passed. -/
structure Admits (store : Store) (type : EntityType) (draft : Draft) : Prop where
  found : store.schema.find? draft.entityType = some type
  conforms : store.Conforms type draft.attributes
  untaken : ∀ (declared : Attribute) (value : Value), declared ∈ type.attributes →
    declared.unique = true → draft.attributes[declared.field]? = some value →
    store.index.find ⟨draft.entityType, declared.field, value⟩ = ∅

/-- A draft that passes is made of what was asked for. -/
theorem eq_of_draft (done : store.draft entityType supplied = .ok draft) :
    draft = ⟨entityType, assemble supplied⟩ := by
  rw [Store.draft, Outcome.bind_eq_ok_iff] at done
  rcases done with ⟨type, declaration, done⟩
  rw [Outcome.bind_eq_ok_iff] at done
  rcases done with ⟨collected, supplies, done⟩
  rw [Outcome.bind_eq_ok_iff] at done
  rcases done with ⟨⟨⟩, -, done⟩
  cases done
  have named : type.name = entityType := by
    simpa using List.find?_some (declaration_eq_ok_iff.mp declaration)
  rw [named, (collect_eq_ok supplies).1, assemble]

/-- A coherent snapshot can take a draft that passes. -/
theorem draft_eq_ok (coherent : store.Coherent)
    (done : store.draft entityType supplied = .ok draft) :
    draft = ⟨entityType, assemble supplied⟩ ∧ ∃ type, store.Admits type draft := by
  refine ⟨eq_of_draft done, ?_⟩
  rw [Store.draft, Outcome.bind_eq_ok_iff] at done
  rcases done with ⟨type, declaration, done⟩
  rw [declaration_eq_ok_iff] at declaration
  rcases (coherent.schema.find?_eq_some_iff entityType type).mp declaration with ⟨registered, named⟩
  rw [Outcome.bind_eq_ok_iff] at done
  rcases done with ⟨collected, supplies, done⟩
  rw [Outcome.bind_eq_ok_iff] at done
  rcases done with ⟨⟨⟩, checks, done⟩
  cases done
  have origin := (collect_eq_ok supplies).2
  have passes := Outcome.forM_eq_ok_iff.mp checks
  refine ⟨type, ?_, ⟨?_, ?_⟩, ?_⟩
  · exact named ▸ declaration
  · intro declared member
    rcases checkDeclared_eq_ok_iff.mp (passes declared member) with ⟨value, held, -⟩
    refine ⟨value, held, ?_⟩
    rcases origin _ _ held with absent | ⟨other, known, fitting⟩
    · simp at absent
    · have same := (coherent.schema.attribute?_eq_some_iff registered declared.field declared).mpr
        ⟨member, rfl⟩
      rw [known] at same
      exact Option.some.inj same ▸ fitting
  · intro field value held
    rcases origin field value held with absent | ⟨declared, known, -⟩
    · simp at absent
    · exact ⟨declared, (coherent.schema.attribute?_eq_some_iff registered field declared).mp known⟩
  · intro declared value member unique held
    rcases checkDeclared_eq_ok_iff.mp (passes declared member) with ⟨other, same, untaken⟩
    rw [held] at same
    cases same
    exact untaken unique

/-! ## Placing a draft -/

/-- Taking an identifier that was free disturbs no live record. -/
theorem get?_place_of_live {other : EntityId} {record : Record} (free : store.get? id = none)
    (live : store.get? other = some record) : (store.place id draft).get? other = some record := by
  rw [get?_place, if_neg, live]
  rintro rfl
  rw [free] at live
  cases live

/-- A live record and an admitted draft never agree on a unique value. -/
theorem Admits.apart (admits : store.Admits type draft) (coherent : store.Coherent)
    {declared : Attribute} {value : Value} {other : EntityId} {record : Record}
    (member : declared ∈ type.attributes) (unique : declared.unique = true)
    (supplied : draft.attributes[declared.field]? = some value)
    (live : store.get? other = some record) (typed : record.entityType = draft.entityType)
    (held : record.attributes[declared.field]? = some value) : False := by
  have present : other ∈ store.index.find ⟨draft.entityType, declared.field, value⟩ := by
    rw [coherent.indexed]
    exact ⟨record, type, declared, live, typed, admits.found, member, rfl,
      by simp [Attribute.isIndexed, unique], held⟩
  rw [admits.untaken declared value member unique supplied] at present
  exact Std.ExtTreeSet.not_mem_empty present

theorem Admits.conforms_place (admits : store.Admits type draft) (coherent : store.Coherent)
    (free : store.get? id = none) {other : EntityId} {record : Record}
    (live : (store.place id draft).get? other = some record) :
    ∃ declaration, store.schema.find? record.entityType = some declaration ∧
      (store.place id draft).Conforms declaration record.attributes := by
  have kept : ∀ {declaration : EntityType} {attributes : Std.ExtTreeMap String Value},
      store.Conforms declaration attributes →
        (store.place id draft).Conforms declaration attributes := by
    intro declaration attributes conforms
    apply conforms.of_kept
    intro declared member target referenced held led targetLive
    exact get?_place_of_live free targetLive
  rw [get?_place] at live
  split at live
  · cases live
    exact ⟨type, admits.found, kept admits.conforms⟩
  · rcases coherent.integrity.conforms other record live with ⟨declaration, found, conforms⟩
    exact ⟨declaration, found, kept conforms⟩

/-- Either of two holders of a unique value may be the new one.  The index keeps
it apart from the rest. -/
theorem Admits.eq_of_place (admits : store.Admits type draft) (coherent : store.Coherent)
    {declaration : EntityType} {declared : Attribute} {value : Value} {first second : EntityId}
    {left right : Record}
    (found : store.schema.find? declaration.name = some declaration)
    (member : declared ∈ declaration.attributes) (unique : declared.unique = true)
    (firstLive : (store.place id draft).get? first = some left)
    (leftTyped : left.entityType = declaration.name)
    (leftHeld : left.attributes[declared.field]? = some value)
    (secondLive : (store.place id draft).get? second = some right)
    (rightTyped : right.entityType = declaration.name)
    (rightHeld : right.attributes[declared.field]? = some value) : first = second := by
  rw [get?_place] at firstLive secondLive
  have ofDraft : draft.entityType = declaration.name → type = declaration := by
    intro named
    have known := admits.found
    rw [named, found] at known
    exact (Option.some.inj known).symm
  -- One new holder and one old would have kept the draft from passing its check.
  by_cases isFirst : id = first <;> by_cases isSecond : id = second
  · exact isFirst.symm.trans isSecond
  · rw [if_pos isFirst] at firstLive
    rw [if_neg isSecond] at secondLive
    cases firstLive
    exact (admits.apart coherent (ofDraft leftTyped ▸ member) unique leftHeld secondLive
      (rightTyped.trans leftTyped.symm) rightHeld).elim
  · rw [if_neg isFirst] at firstLive
    rw [if_pos isSecond] at secondLive
    cases secondLive
    exact (admits.apart coherent (ofDraft rightTyped ▸ member) unique rightHeld firstLive
      (leftTyped.trans rightTyped.symm) leftHeld).elim
  · rw [if_neg isFirst] at firstLive
    rw [if_neg isSecond] at secondLive
    exact coherent.integrity.unique declaration declared value first second left right found
      member unique firstLive leftTyped leftHeld secondLive rightTyped rightHeld

/-- A placed draft stands in the index under its keys and nowhere else. -/
theorem Coherent.mem_find_place_iff (coherent : store.Coherent) (free : store.get? id = none)
    (other : EntityId) (key : IndexKey) :
    other ∈ (store.place id draft).index.find key ↔ (store.place id draft).Holds other key := by
  have keys : ∀ record, (store.place id draft).indexKeys record = store.indexKeys record :=
    fun _ => rfl
  rw [find_place, holds_iff, get?_place]
  simp only [keys]
  by_cases same : id = other
  · subst same
    have absent : id ∉ store.index.find key := by
      rw [coherent.indexed]
      rintro ⟨record, -, -, live, -⟩
      rw [free] at live
      cases live
    split
    · rename_i listed
      simp [listed]
    · rename_i unlisted
      simp [absent, unlisted]
  · rw [if_neg same, ← holds_iff, ← coherent.indexed]
    split
    · simp [Std.ExtTreeSet.mem_insert, same]
    · rfl

/-- An admitted draft under a free identifier keeps a store coherent. -/
theorem Coherent.place (coherent : store.Coherent) (admits : store.Admits type draft)
    (free : store.get? id = none) : (store.place id draft).Coherent where
  schema := coherent.schema
  integrity := by
    refine ⟨?_, fun other record live => admits.conforms_place coherent free live, ?_⟩
    · intro other record live
      rw [get?_place] at live
      split at live
      · rename_i same
        cases live
        exact same
      · exact coherent.integrity.ownId other record live
    · intro declaration declared value first second left right found
      exact admits.eq_of_place coherent found
  indexed := coherent.mem_find_place_iff free

/-! ## Successful creations -/

/-- A creation that succeeds places a draft under the identifier that the
allocator hands out. -/
theorem create_eq_ok {allocators after : Allocators}
    (done : store.create allocators entityType supplied = .ok (id, next, after)) :
    ∃ draft, store.draft entityType supplied = .ok draft ∧
      id = (allocators.allocate store.allocator).1 ∧ next = store.place id draft ∧
      after = (allocators.allocate store.allocator).2 := by
  unfold create at done
  rw [Outcome.bind_eq_ok_iff] at done
  rcases done with ⟨draft, passed, result⟩
  cases result
  exact ⟨draft, passed, rfl, rfl, rfl⟩

theorem create_of_draft (passed : store.draft entityType supplied = .ok draft)
    (allocators : Allocators) :
    store.create allocators entityType supplied =
      .ok ((allocators.allocate store.allocator).1,
        store.place (allocators.allocate store.allocator).1 draft,
        (allocators.allocate store.allocator).2) := by
  rw [create, passed]
  rfl

theorem insert_eq_ok_iff :
    store.insert id entityType supplied = .ok next ↔
      store.get? id = none ∧
        ∃ draft, store.draft entityType supplied = .ok draft ∧ store.place id draft = next := by
  unfold insert
  rw [← contains_eq_false_iff]
  cases store.contains id with
  | true => simp
  | false => simp [Outcome.map_eq_ok_iff]

theorem get?_of_create {allocators after : Allocators}
    (done : store.create allocators entityType supplied = .ok (id, next, after))
    (other : EntityId) :
    next.get? other =
      if id = other then some ⟨id, entityType, assemble supplied⟩ else store.get? other := by
  rcases create_eq_ok done with ⟨draft, passed, -, rfl, -⟩
  cases eq_of_draft passed
  exact get?_place store id other _

theorem get?_of_insert (done : store.insert id entityType supplied = .ok next) (other : EntityId) :
    next.get? other =
      if id = other then some ⟨id, entityType, assemble supplied⟩ else store.get? other := by
  rcases insert_eq_ok_iff.mp done with ⟨-, draft, passed, rfl⟩
  cases eq_of_draft passed
  exact get?_place store id other _

theorem Coherent.create {allocators after : Allocators} (coherent : store.Coherent)
    (done : store.create allocators entityType supplied = .ok (id, next, after))
    (free : store.get? id = none) : next.Coherent := by
  rcases create_eq_ok done with ⟨draft, passed, -, rfl, -⟩
  rcases draft_eq_ok coherent passed with ⟨-, type, admits⟩
  exact coherent.place admits free

theorem Coherent.insert (coherent : store.Coherent)
    (done : store.insert id entityType supplied = .ok next) : next.Coherent := by
  rcases insert_eq_ok_iff.mp done with ⟨free, draft, passed, rfl⟩
  rcases draft_eq_ok coherent passed with ⟨-, type, admits⟩
  exact coherent.place admits free

end Store

end EntityBase
