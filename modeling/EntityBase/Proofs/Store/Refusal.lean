import EntityBase.Proofs.Store.Integrity

namespace EntityBase

/-!
# When a creation is refused

A creation is checked in two passes, and several things may be wrong with it at
once.  The report is of the first that the checks come to: of the first supplied
pair that is bad, or else of the first declared attribute that is.  What makes a
pair or an attribute bad is read off the supplied pairs and the live records.  A
pair is bad in regard to those before it, since a field may be supplied once
only.

The second pass asks the index whether a unique value is taken.  On a coherent
store this is to ask whether a live entity of the type holds it.

A creation with nothing wrong succeeds, and so does its repetition under an
identifier that it has been given before.
-/

/-! ## The first fault of a list -/

section Lists

variable {α : Type} {fault other : List α → α → Error → Prop} {head : α} {rest members : List α}
  {error : Error}

/-- No member of a list has a fault, in regard to the members before it. -/
def Clean (fault : List α → α → Error → Prop) (members : List α) : Prop :=
  ∀ before member after, members = before ++ member :: after → ∀ error, ¬ fault before member error

/-- The first member of a list that has a fault has this one. -/
def First (fault : List α → α → Error → Prop) (members : List α) (error : Error) : Prop :=
  ∃ before member after, members = before ++ member :: after ∧ Clean fault before ∧
    fault before member error

theorem clean_nil : Clean fault [] := by
  intro before member after split
  simp at split

theorem clean_cons_iff : Clean fault (head :: rest) ↔
    (∀ error, ¬ fault [] head error) ∧ Clean (fun before => fault (head :: before)) rest := by
  constructor
  · intro clean
    refine ⟨clean [] head rest rfl, ?_⟩
    rintro before member after rfl
    exact clean (head :: before) member after rfl
  · rintro ⟨first, others⟩ before member after split
    rcases List.cons_eq_append_iff.mp split with ⟨rfl, same⟩ | ⟨later, rfl, same⟩
    · cases same
      exact first
    · exact others later member after same

theorem not_first_nil : ¬ First fault [] error := by
  rintro ⟨before, member, after, split, -⟩
  simp at split

theorem first_cons_iff : First fault (head :: rest) error ↔
    fault [] head error ∨
      (∀ cause, ¬ fault [] head cause) ∧ First (fun before => fault (head :: before)) rest error := by
  constructor
  · rintro ⟨before, member, after, split, clean, bad⟩
    rcases List.cons_eq_append_iff.mp split with ⟨rfl, same⟩ | ⟨later, rfl, same⟩
    · cases same
      exact .inl bad
    · rcases clean_cons_iff.mp clean with ⟨first, others⟩
      exact .inr ⟨first, later, member, after, same, others, bad⟩
  · rintro (bad | ⟨first, before, member, after, rfl, clean, bad⟩)
    · exact ⟨[], head, rest, rfl, clean_nil, bad⟩
    · exact ⟨head :: before, member, after, rfl, clean_cons_iff.mpr ⟨first, clean⟩, bad⟩

/-- Faults that are the same for the members of a list are so for the first. -/
theorem first_congr
    (same : ∀ before, ∀ member ∈ members, ∀ error, fault before member error ↔ other before member error) :
    First fault members error ↔ First other members error := by
  induction members generalizing fault other with
  | nil => exact iff_of_false not_first_nil not_first_nil
  | cons head rest ih =>
      have here := same [] head List.mem_cons_self
      have later := ih fun before member listed =>
        same (head :: before) member (List.mem_cons_of_mem _ listed)
      simp only [first_cons_iff, here, later]

/-- Either no member has a fault, or there is a first one. -/
theorem clean_iff_not_first : Clean fault members ↔ ∀ error, ¬ First fault members error := by
  induction members generalizing fault with
  | nil => exact iff_of_true clean_nil fun _ => not_first_nil
  | cons head rest ih =>
      rw [clean_cons_iff, ih]
      constructor
      · rintro ⟨first, others⟩ error bad
        rcases first_cons_iff.mp bad with here | ⟨-, later⟩
        · exact first error here
        · exact others error later
      · intro clean
        have first : ∀ error, ¬ fault [] head error :=
          fun error bad => clean error (first_cons_iff.mpr (.inl bad))
        exact ⟨first, fun error bad => clean error (first_cons_iff.mpr (.inr ⟨first, bad⟩))⟩

/-- A check of a list reports what it reports of the first member that fails. -/
theorem forM_eq_error_iff {check : α → Except Error Unit} :
    members.forM check = .error error ↔
      First (fun _ member cause => check member = .error cause) members error := by
  induction members with
  | nil => exact iff_of_false (fun impossible => nomatch impossible) not_first_nil
  | cons head rest ih =>
      rw [List.forM_eq_forM] at ih ⊢
      rw [List.forM_cons, first_cons_iff, ← ih]
      exact Outcome.check_bind_eq_error_iff

end Lists

namespace Store

variable {store next : Store} {type : EntityType} {entityType field : String} {declared : Attribute}
  {value : Value} {supplied : List (String × Value)} {error : Error} {id : EntityId}

/-! ## What can be wrong -/

/-- How a value fails to fit an attribute, and how this is reported.  An integer
fits a floating-point attribute. -/
inductive Misfit (store : Store) (entityType : String) (declared : Attribute) :
    Value → ErrorKind → Prop where
  | plain {type : ValueType} {value : Value} (kind : declared.kind = .value type)
      (different : value.type ≠ type) (unpromoted : type = .float → value.type ≠ .int) :
      Misfit store entityType declared value (.typeMismatch type value.type)
  | handle {value : Value} (kind : declared.kind = .transient) (dead : ∀ object, value ≠ .live object) :
      Misfit store entityType declared value (.typeMismatch .live value.type)
  | reference {target : String} {value : Value} (kind : declared.kind = .reference target)
      (leadless : ∀ id, value ≠ .ref id) :
      Misfit store entityType declared value (.typeMismatch .entityRef value.type)
  | dangling {target : String} {id : EntityId} (kind : declared.kind = .reference target)
      (gone : store.get? id = none) : Misfit store entityType declared (.ref id) (.entityNotFound id)
  | wrongTarget {target : String} {id : EntityId} {referenced : Record}
      (kind : declared.kind = .reference target) (live : store.get? id = some referenced)
      (different : referenced.entityType ≠ target) :
      Misfit store entityType declared (.ref id) (.constraintViolation
        (.wrongTarget entityType declared.field target id referenced.entityType))

/-- What is wrong with a supplied pair after pairs with certain fields, and how it
is reported. -/
inductive PairFault (store : Store) (type : EntityType) (earlier : List String) :
    String × Value → Error → Prop where
  | undeclared {field : String} {value : Value}
      (unknown : ∀ declared ∈ type.attributes, declared.field ≠ field) :
      PairFault store type earlier (field, value) (ErrorKind.unknownAttribute type.name field)
  | repeated {declared : Attribute} {value : Value} (member : declared ∈ type.attributes)
      (again : declared.field ∈ earlier) :
      PairFault store type earlier (declared.field, value) (Error.atAttribute
        (.constraintViolation (.repeatedAttribute declared.field)) type.name declared.field)
  | unfit {declared : Attribute} {value : Value} {kind : ErrorKind} (member : declared ∈ type.attributes)
      (once : declared.field ∉ earlier) (misfit : store.Misfit type.name declared value kind) :
      PairFault store type earlier (declared.field, value)
        (Error.atAttribute kind type.name declared.field)

/-- What is wrong with a creation in regard to a declared attribute, and how it is
reported. -/
inductive DeclaredFault (store : Store) (type : EntityType) (supplied : List (String × Value))
    (declared : Attribute) : Error → Prop where
  | missing (absent : ∀ value, (declared.field, value) ∉ supplied) :
      DeclaredFault store type supplied declared (ErrorKind.missingAttribute type.name declared.field)
  | taken {value : Value} {holder : EntityId} {record : Record}
      (given : (declared.field, value) ∈ supplied) (unique : declared.unique = true)
      (live : store.get? holder = some record) (typed : record.entityType = type.name)
      (held : record.attributes[declared.field]? = some value) :
      DeclaredFault store type supplied declared (Error.atAttribute
        (.constraintViolation (.taken type.name declared.field value)) type.name declared.field)

/-- A pair of a creation is bad in regard to those before it. -/
def BadPair (store : Store) (type : EntityType) (before : List (String × Value)) :
    String × Value → Error → Prop :=
  store.PairFault type (before.map Prod.fst)

/-- Why a creation is refused. -/
inductive Refuses (store : Store) (entityType : String) (supplied : List (String × Value)) :
    Error → Prop where
  | unregistered (unknown : store.schema.find? entityType = none) :
      Refuses store entityType supplied (ErrorKind.unknownEntityType entityType)
  | pair {type : EntityType} {error : Error} (found : store.schema.find? entityType = some type)
      (first : First (store.BadPair type) supplied error) : Refuses store entityType supplied error
  | declared {type : EntityType} {error : Error} (found : store.schema.find? entityType = some type)
      (clean : Clean (store.BadPair type) supplied)
      (first : First (fun _ => store.DeclaredFault type supplied) type.attributes error) :
      Refuses store entityType supplied error

/-! ## The first pass -/

theorem accepts_eq_true_iff (declared actual : ValueType) :
    declared.accepts actual = true ↔ actual = declared ∨ declared = .float ∧ actual = .int := by
  rw [ValueType.accepts, decide_eq_true_eq, eq_comm]

theorem checkValue_eq_error_iff :
    store.checkValue entityType declared value = .error error ↔
      ∃ kind, store.Misfit entityType declared value kind ∧
        error = Error.atAttribute kind entityType declared.field := by
  unfold checkValue
  constructor
  · intro failed
    cases kind : declared.kind with
    | value type =>
        simp only [kind] at failed
        split at failed
        · cases failed
        · rename_i refused
          cases failed
          rw [accepts_eq_true_iff, not_or, not_and] at refused
          exact ⟨_, .plain kind refused.1 refused.2, rfl⟩
    | transient =>
        simp only [kind] at failed
        split at failed
        · cases failed
        · rename_i dead
          cases failed
          exact ⟨_, .handle kind (fun object same => dead (same ▸ rfl)), rfl⟩
    | reference target =>
        simp only [kind] at failed
        cases value with
        | ref id =>
            simp only [Value.entity?] at failed
            split at failed
            · cases failed
              exact ⟨_, .dangling kind ‹_›, rfl⟩
            · split at failed
              · cases failed
              · cases failed
                exact ⟨_, .wrongTarget kind ‹_› ‹_›, rfl⟩
        | _ =>
            cases failed
            exact ⟨_, .reference kind (fun id same => by cases same), rfl⟩
  · rintro ⟨kind, misfit, rfl⟩
    cases misfit with
    | @plain type value kind different unpromoted =>
        have refused : ¬ type.accepts value.type = true := by
          rw [accepts_eq_true_iff, not_or, not_and]
          exact ⟨different, unpromoted⟩
        simp only [kind, if_neg refused]
    | handle kind dead =>
        cases value with
        | live object => exact absurd rfl (dead object)
        | _ => simp [kind, Value.type]
    | reference kind leadless =>
        cases value with
        | ref id => exact absurd rfl (leadless id)
        | _ => simp [kind, Value.entity?]
    | dangling kind gone => simp only [kind, Value.entity?, gone]
    | wrongTarget kind live different =>
        simp only [kind, Value.entity?, live, if_neg different]

/-- Check one supplied pair after others have been collected. -/
def checkPair (store : Store) (type : EntityType) (collected : Std.ExtTreeMap String Value)
    (pair : String × Value) : Except Error Unit := do
  let declared ← attributeOf type pair.1
  if collected.contains pair.1 then
    .error (Error.atAttribute (.constraintViolation (.repeatedAttribute pair.1)) type.name pair.1)
  else store.checkValue type.name declared pair.2

theorem collect_cons (store : Store) (type : EntityType) (collected : Std.ExtTreeMap String Value)
    (pair : String × Value) (rest : List (String × Value)) :
    store.collect type collected (pair :: rest) =
      (store.checkPair type collected pair >>= fun _ =>
        store.collect type (collected.insert pair.1 pair.2) rest) := by
  rw [collect, checkPair]
  cases attributeOf type pair.1 with
  | error cause => rfl
  | ok declared =>
      by_cases again : collected.contains pair.1 = true
      · simp [again, bind, Except.bind]
      · simp [again, bind, Except.bind]

theorem attributeOf_eq_error_iff :
    attributeOf type field = .error error ↔
      type.attribute? field = none ∧ error = ErrorKind.unknownAttribute type.name field := by
  unfold attributeOf
  cases type.attribute? field <;> simp [eq_comm]

section Pairs

variable {collected result : Std.ExtTreeMap String Value} {earlier : List String}
  {pair : String × Value}
  (known : ∀ (field : String) (declared : Attribute),
    type.attribute? field = some declared ↔ declared ∈ type.attributes ∧ declared.field = field)
include known

/-- The check of a pair reports what is wrong with it after the pairs that have
been collected. -/
theorem checkPair_eq_error_iff (fields : ∀ field, field ∈ collected ↔ field ∈ earlier) :
    store.checkPair type collected pair = .error error ↔ store.PairFault type earlier pair error := by
  rcases pair with ⟨field, value⟩
  have unknown : type.attribute? field = none ↔
      ∀ declared ∈ type.attributes, declared.field ≠ field := by
    simp [Option.eq_none_iff_forall_ne_some, known]
  rw [checkPair, Outcome.bind_eq_error_iff]
  simp only [attributeOf_eq_ok_iff, attributeOf_eq_error_iff, known, unknown]
  constructor
  · rintro (⟨undeclared, rfl⟩ | ⟨declared, ⟨member, rfl⟩, failed⟩)
    · exact .undeclared undeclared
    · split at failed
      · rename_i again
        cases failed
        exact .repeated member ((fields _).mp (Std.ExtTreeMap.mem_iff_contains.mpr again))
      · rename_i once
        rcases checkValue_eq_error_iff.mp failed with ⟨kind, misfit, rfl⟩
        refine .unfit member (fun listed => once ?_) misfit
        exact Std.ExtTreeMap.mem_iff_contains.mp ((fields _).mpr listed)
  · intro fault
    cases fault with
    | undeclared undeclared => exact .inl ⟨undeclared, rfl⟩
    | @repeated declared value member again =>
        refine .inr ⟨declared, ⟨member, rfl⟩, ?_⟩
        rw [if_pos (Std.ExtTreeMap.mem_iff_contains.mp ((fields _).mpr again))]
    | @unfit declared value kind member once misfit =>
        refine .inr ⟨declared, ⟨member, rfl⟩, ?_⟩
        rw [if_neg (fun again => once ((fields _).mp (Std.ExtTreeMap.mem_iff_contains.mpr again)))]
        exact checkValue_eq_error_iff.mpr ⟨kind, misfit, rfl⟩

/-- The first pass reports what is wrong with the first bad pair. -/
theorem collect_eq_error_iff (fields : ∀ field, field ∈ collected ↔ field ∈ earlier) :
    store.collect type collected supplied = .error error ↔
      First (fun before => store.PairFault type (earlier ++ before.map Prod.fst)) supplied error := by
  induction supplied generalizing collected earlier with
  | nil => exact iff_of_false (fun impossible => nomatch impossible) not_first_nil
  | cons pair rest ih =>
      have fieldsAfter : ∀ field, field ∈ collected.insert pair.1 pair.2 ↔ field ∈ earlier ++ [pair.1] := by
        intro field
        rw [Std.ExtTreeMap.mem_insert, Std.LawfulEqCmp.compare_eq_iff_eq, fields, List.mem_append,
          List.mem_singleton, or_comm, eq_comm]
      have here : ∀ cause, store.checkPair type collected pair = .error cause ↔
          store.PairFault type earlier pair cause := fun _ => checkPair_eq_error_iff known fields
      rw [collect_cons, Outcome.check_bind_eq_error_iff, first_cons_iff, List.map_nil, List.append_nil]
      simp only [ne_eq, here, ih fieldsAfter, List.map_cons, List.append_assoc, List.singleton_append]

end Pairs

/-- What the first pass collects is what has been supplied. -/
theorem getElem?_collect {collected result : Std.ExtTreeMap String Value}
    (done : store.collect type collected supplied = .ok result) (field : String)
    (value : Value) :
    result[field]? = some value ↔ collected[field]? = some value ∨ (field, value) ∈ supplied := by
  induction supplied generalizing collected with
  | nil =>
      cases done
      simp
  | cons pair rest ih =>
      rw [collect_cons, Outcome.bind_eq_ok_iff] at done
      rcases done with ⟨⟨⟩, passed, done⟩
      have once : pair.1 ∉ collected := by
        rw [checkPair, Outcome.bind_eq_ok_iff] at passed
        rcases passed with ⟨declared, -, passed⟩
        split at passed
        · cases passed
        · exact fun again => ‹¬ _› (Std.ExtTreeMap.mem_iff_contains.mp again)
      simp only [ih done, Std.ExtTreeMap.getElem?_insert, Std.LawfulEqCmp.compare_eq_iff_eq,
        List.mem_cons, ← or_assoc, Prod.ext_iff]
      by_cases same : pair.1 = field
      · subst same
        simp [Std.ExtTreeMap.getElem?_eq_none once, eq_comm]
      · simp [same, Ne.symm same]

/-! ## The second pass -/

/-- The second pass reports what is wrong with a creation in regard to an
attribute. -/
theorem Coherent.checkDeclared_eq_error_iff (coherent : store.Coherent)
    {collected : Std.ExtTreeMap String Value} (found : store.schema.find? entityType = some type)
    (member : declared ∈ type.attributes)
    (given : ∀ field value, collected[field]? = some value ↔ (field, value) ∈ supplied) :
    store.checkDeclared type.name collected declared = .error error ↔
      store.DeclaredFault type supplied declared error := by
  have named := ((coherent.schema.find?_eq_some_iff entityType type).mp found).2
  have taken : ∀ value, declared.unique = true →
      (store.index.contains ⟨type.name, declared.field, value⟩ = true ↔
        ∃ holder record, store.get? holder = some record ∧ record.entityType = type.name ∧
          record.attributes[declared.field]? = some value) := by
    intro value unique
    rw [coherent.index_contains_iff]
    constructor
    · rintro ⟨holder, record, -, -, live, typed, -, -, -, -, held⟩
      exact ⟨holder, record, live, typed, held⟩
    · rintro ⟨holder, record, live, typed, held⟩
      exact ⟨holder, record, type, declared, live, typed, named ▸ found, member, rfl,
        by simp [Attribute.isIndexed, unique], held⟩
  unfold checkDeclared
  constructor
  · intro failed
    split at failed
    · rename_i absent
      cases failed
      refine .missing fun value listed => ?_
      rw [(given _ _).mpr listed] at absent
      cases absent
    · rename_i value held
      split at failed
      · rename_i conflict
        cases failed
        rcases (taken value conflict.1).mp conflict.2 with ⟨holder, record, live, typed, alsoHeld⟩
        exact .taken ((given _ _).mp held) conflict.1 live typed alsoHeld
      · cases failed
  · intro fault
    cases fault with
    | missing absent =>
        have uncollected : collected[declared.field]? = none :=
          Option.eq_none_iff_forall_ne_some.mpr fun value held => absent value ((given _ _).mp held)
        rw [uncollected]
    | @taken value holder record listed unique live typed held =>
        have conflict := (taken value unique).mpr ⟨holder, record, live, typed, held⟩
        rw [(given _ _).mpr listed]
        exact if_pos ⟨unique, conflict⟩

/-! ## Creations -/

/-- A draft is refused as creations are. -/
theorem Coherent.draft_eq_error_iff (coherent : store.Coherent) :
    store.draft entityType supplied = .error error ↔ store.Refuses entityType supplied error := by
  rw [Store.draft]
  cases found : store.schema.find? entityType with
  | none =>
      have unknown : store.declaration entityType = .error (ErrorKind.unknownEntityType entityType) := by
        rw [declaration, found]
      rw [unknown]
      constructor
      · intro failed
        cases failed
        exact .unregistered found
      · intro refuses
        cases refuses with
        | unregistered => rfl
        | pair known => cases found.symm.trans known
        | declared known => cases found.symm.trans known
  | some type =>
      have registered := ((coherent.schema.find?_eq_some_iff entityType type).mp found).1
      have known := coherent.schema.attribute?_eq_some_iff registered
      have nothing : ∀ field, field ∈ (∅ : Std.ExtTreeMap String Value) ↔ field ∈ ([] : List String) := by
        simp
      have firstPass : ∀ cause, store.collect type ∅ supplied = .error cause ↔
          First (store.BadPair type) supplied cause :=
        fun _ => collect_eq_error_iff known nothing
      have secondPass : ∀ collected, store.collect type ∅ supplied = .ok collected →
          (type.attributes.forM (store.checkDeclared type.name collected) = .error error ↔
            First (fun _ => store.DeclaredFault type supplied) type.attributes error) := by
        intro collected done
        have given : ∀ field value, collected[field]? = some value ↔ (field, value) ∈ supplied := by
          intro field value
          simp [getElem?_collect done]
        rw [forM_eq_error_iff]
        exact first_congr fun _ _ member _ => coherent.checkDeclared_eq_error_iff found member given
      rw [declaration_eq_ok_iff.mpr found]
      change (store.collect type ∅ supplied >>= fun collected =>
        type.attributes.forM (store.checkDeclared type.name collected) >>= fun _ =>
          .ok (⟨type.name, collected⟩ : Draft)) = .error error ↔ _
      rw [Outcome.bind_eq_error_iff, firstPass]
      constructor
      · rintro (first | ⟨collected, done, failed⟩)
        · exact .pair found first
        · have clean : Clean (store.BadPair type) supplied := by
            rw [clean_iff_not_first]
            intro cause first
            rw [← firstPass, done] at first
            cases first
          rcases Outcome.check_bind_eq_error_iff.mp failed with refused | ⟨-, impossible⟩
          · exact .declared found clean ((secondPass collected done).mp refused)
          · cases impossible
      · intro refuses
        cases refuses with
        | unregistered unknown => cases found.symm.trans unknown
        | pair alsoFound first =>
            cases found.symm.trans alsoFound
            exact .inl first
        | declared alsoFound clean first =>
            cases found.symm.trans alsoFound
            cases done : store.collect type ∅ supplied with
            | error cause => exact absurd ((firstPass cause).mp done) (clean_iff_not_first.mp clean cause)
            | ok collected =>
                refine .inr ⟨collected, rfl, ?_⟩
                exact Outcome.check_bind_eq_error_iff.mpr (.inl ((secondPass collected done).mpr first))

/-- What a draft holds is what has been supplied. -/
theorem getElem?_draft {draft : Draft} (done : store.draft entityType supplied = .ok draft)
    (field : String) (value : Value) :
    draft.attributes[field]? = some value ↔ (field, value) ∈ supplied := by
  rw [Store.draft, Outcome.bind_eq_ok_iff] at done
  rcases done with ⟨type, -, done⟩
  rw [Outcome.bind_eq_ok_iff] at done
  rcases done with ⟨collected, supplies, done⟩
  rw [Outcome.bind_eq_ok_iff] at done
  rcases done with ⟨⟨⟩, -, done⟩
  cases done
  simp [getElem?_collect supplies]

/-- A snapshot is another with one record more, which holds what has been
supplied. -/
structure Adds (store : Store) (id : EntityId) (entityType : String)
    (supplied : List (String × Value)) (next : Store) : Prop where
  free : store.get? id = none
  added : ∃ attributes : Std.ExtTreeMap String Value,
    next.get? id = some ⟨id, entityType, attributes⟩ ∧
      ∀ field value, attributes[field]? = some value ↔ (field, value) ∈ supplied
  kept : ∀ other, other ≠ id → next.get? other = store.get? other
  schema : next.schema = store.schema
  allocator : next.allocator = store.allocator

theorem adds_place {draft : Draft} (free : store.get? id = none)
    (passed : store.draft entityType supplied = .ok draft) :
    store.Adds id entityType supplied (store.place id draft) where
  free := free
  added := by
    refine ⟨draft.attributes, ?_, getElem?_draft passed⟩
    rw [get?_place, if_pos rfl, eq_of_draft passed]
  kept other different := by rw [get?_place, if_neg (Ne.symm different)]
  schema := rfl
  allocator := rfl

/-- Where nothing is wrong there is a draft. -/
theorem Coherent.exists_draft (coherent : store.Coherent)
    (nothing : ∀ error, ¬ store.Refuses entityType supplied error) :
    ∃ draft, store.draft entityType supplied = .ok draft := by
  cases passed : store.draft entityType supplied with
  | error cause => exact absurd (coherent.draft_eq_error_iff.mp passed) (nothing cause)
  | ok draft => exact ⟨draft, rfl⟩

/-- Only for want of a type is a creation refused for want of a type. -/
theorem refuses_unknownEntityType_iff :
    (∃ name, store.Refuses entityType supplied (ErrorKind.unknownEntityType name)) ↔
      store.schema.find? entityType = none := by
  constructor
  · rintro ⟨name, refuses⟩
    cases refuses with
    | unregistered unknown => exact unknown
    | pair found first =>
        rcases first with ⟨before, pair, after, -, -, bad⟩
        cases bad
    | declared found clean first =>
        rcases first with ⟨before, declared, after, -, -, bad⟩
        cases bad
  · exact fun unknown => ⟨entityType, .unregistered unknown⟩

end Store

/-! ## Creations in lawful histories -/

namespace World

variable {world : World} {store : Store}

/-- When a creation is refused on a snapshot of a lawful history, up to the wrap of
the counter, and how; and what it does when it is not.  It then hands out one
identifier, which is new, and adds one record.  A refused creation changes
nothing.  The repetition of a creation under a given identifier is refused for
the same reasons, and adds the same record, unless the identifier is in use. -/
theorem creation_of_lawful (lawful : world.Lawful) (member : store ∈ world.stores)
    (few : (world.issued store.allocator).length < UInt64.size) (entityType : String)
    (supplied : List (String × Value)) :
    (∀ error, store.create world.allocators entityType supplied = .error error ↔
      store.Refuses entityType supplied error) ∧
    ((∃ name, store.create world.allocators entityType supplied =
        .error (ErrorKind.unknownEntityType name)) ↔ store.schema.find? entityType = none) ∧
    (∀ error, store.Refuses entityType supplied error →
      world.perform store (.create entityType supplied) = world) ∧
    ((∀ error, ¬ store.Refuses entityType supplied error) →
      ∃ id next after, store.create world.allocators entityType supplied = .ok (id, next, after) ∧
        store.Adds id entityType supplied next ∧ id ∉ world.issued store.allocator ∧
        id.raw = world.allocators.allocated store.allocator ∧
        ∀ other, after.allocated other =
          world.allocators.allocated other + if store.allocator = other then 1 else 0) ∧
    ∀ id,
      (store.contains id = true → store.insert id entityType supplied =
        .error (ErrorKind.constraintViolation (.alreadyPresent id))) ∧
      (store.contains id = false →
        (∀ error, store.insert id entityType supplied = .error error ↔
          store.Refuses entityType supplied error) ∧
        ((∀ error, ¬ store.Refuses entityType supplied error) →
          ∃ next, store.insert id entityType supplied = .ok next ∧
            store.Adds id entityType supplied next)) := by
  have keeps := lawful.keeps member
  have coherent := keeps.coherent few
  have accounts := Reached.accounts lawful store.allocator
  have refused : ∀ error, store.create world.allocators entityType supplied = .error error ↔
      store.Refuses entityType supplied error := by
    intro error
    rw [← coherent.draft_eq_error_iff, Store.create, Outcome.bind_eq_error_iff]
    refine or_iff_left ?_
    rintro ⟨placed, drafted, impossible⟩
    cases impossible
  refine ⟨refused, ?_, ?_, ?_, fun id => ⟨?_, fun absent => ⟨?_, ?_⟩⟩⟩
  · simp only [refused, Store.refuses_unknownEntityType_iff]
  · intro error refuses
    have ran : StoreCall.run store world.allocators (.create entityType supplied) = .error error := by
      rw [StoreCall.run, (refused error).mpr refuses]
      rfl
    simp only [perform, ran]
  · intro nothing
    rcases coherent.exists_draft nothing with ⟨draft, passed⟩
    have new := accounts.allocate_notMem few
    refine ⟨_, _, _, Store.create_of_draft passed world.allocators,
      Store.adds_place (keeps.within.get?_eq_none new) passed, new, rfl, fun other => ?_⟩
    rw [Allocators.allocated_allocate]
    split
    · rename_i same
      rw [same]
    · rw [UInt64.add_zero]
  · intro live
    rw [Store.insert, if_pos live]
  · intro error
    rw [← coherent.draft_eq_error_iff, Store.insert, if_neg (by simp [absent]),
      Outcome.map_eq_error_iff]
  · intro nothing
    rcases coherent.exists_draft nothing with ⟨draft, passed⟩
    have free := (Store.contains_eq_false_iff store id).mp absent
    exact ⟨_, Store.insert_eq_ok_iff.mpr ⟨free, draft, passed, rfl⟩, Store.adds_place free passed⟩

namespace Sample

/-- What the newest snapshot of the example has against a creation. -/
def refusal? (entityType : String) (supplied : List (String × Value)) : Option (Option Error) :=
  restored.stores.head?.map fun store =>
    match store.draft entityType supplied with
    | .error cause => some cause
    | .ok _ => none

theorem refusal?_taken : refusal? "Owner" [("key", .string "first")] = some (some
    (Error.atAttribute (.constraintViolation (.taken "Owner" "key" (.string "first"))) "Owner" "key")) := by
  cbv

theorem refusal?_mismatch : refusal? "Owner" [("key", .int 1), ("age", .int 1), ("key", .int 2)] =
    some (some (Error.atAttribute (.typeMismatch .string .int) "Owner" "key")) := by
  cbv

theorem refusal?_none : refusal? "Dependent" [("rank", .int 1), ("owner", .ref ⟨0⟩)] = some none := by
  cbv

end Sample

/-- An owner cannot take the key of the restored one.  Of the three things wrong
with another the first is reported.  A dependent of the restored owner can be
created. -/
theorem creation_of_lawful_restored : ∃ store ∈ Sample.restored.stores, Sample.restored.Lawful ∧
    (Sample.restored.issued store.allocator).length < UInt64.size ∧
    store.create Sample.restored.allocators "Owner" [("key", .string "first")] = .error
      (Error.atAttribute (.constraintViolation (.taken "Owner" "key" (.string "first"))) "Owner" "key") ∧
    store.Refuses "Owner" [("key", .string "first")] (Error.atAttribute
      (.constraintViolation (.taken "Owner" "key" (.string "first"))) "Owner" "key") ∧
    store.Refuses "Owner" [("key", .int 1), ("age", .int 1), ("key", .int 2)]
      (Error.atAttribute (.typeMismatch .string .int) "Owner" "key") ∧
    ∃ id next after, store.create Sample.restored.allocators "Dependent"
        [("rank", .int 1), ("owner", .ref ⟨0⟩)] = .ok (id, next, after) ∧
      store.Adds id "Dependent" [("rank", .int 1), ("owner", .ref ⟨0⟩)] next ∧
      id ∉ Sample.restored.issued store.allocator := by
  rcases Sample.exists_newest with ⟨store, newest, -, -, issued⟩
  have member := List.mem_of_mem_head? newest
  have few : (Sample.restored.issued store.allocator).length < UInt64.size := by rw [issued]; decide
  have outcome := creation_of_lawful Sample.lawful_restored member few
  have failed : ∀ entityType supplied cause,
      Sample.refusal? entityType supplied = some (some cause) →
        store.create Sample.restored.allocators entityType supplied = .error cause := by
    intro entityType supplied cause refused
    rw [Sample.refusal?, newest, Option.map_some, Option.some.injEq] at refused
    split at refused
    · rename_i stated drafted
      rw [Store.create, drafted, Option.some.inj refused]
      rfl
    · cases refused
  have taken := failed _ _ _ Sample.refusal?_taken
  have mismatch := failed _ _ _ Sample.refusal?_mismatch
  have nothing : ∀ error, ¬ store.Refuses "Dependent" [("rank", .int 1), ("owner", .ref ⟨0⟩)] error := by
    intro error refuses
    have accepted := Sample.refusal?_none
    rw [Sample.refusal?, newest, Option.map_some, Option.some.injEq] at accepted
    split at accepted
    · cases accepted
    · rename_i draft drafted
      cases (Store.create_of_draft drafted _).symm.trans (((outcome _ _).1 error).mpr refuses)
  rcases (outcome _ _).2.2.2.1 nothing with ⟨id, next, after, created, adds, new, -⟩
  exact ⟨store, member, Sample.lawful_restored, few, taken, ((outcome _ _).1 _).mp taken,
    ((outcome _ _).1 _).mp mismatch, id, next, after, created, adds, new⟩

end World

end EntityBase
