import EntityBase.Proofs.Schema.Registration
import EntityBase.Store.Find

namespace EntityBase

/-!
# Coherent stores

Three things make a snapshot coherent.  Its schema is sound.  Its records are
what their declarations say, with every reference leading to a live entity of
the declared type.  And its index holds each entity under exactly the values
that its record holds in indexed attributes.

No operation can keep the second fact without the third.  A delete finds the
references to its victims through the index, and the check of a unique value
is a lookup for the presence of a key.  The three therefore form one
invariant, `Coherent`, although the first two are what its users want.
-/

namespace Store

variable {store : Store}

/-- Whether a value may stand in an attribute of a live entity.  Plain data
fits by its kind; a reference fits by where it leads. -/
def Fits (store : Store) (declared : Attribute) (value : Value) : Prop :=
  match declared.kind with
  | .value type => type.accepts value.type = true
  | .transient => ∃ object, value = .live object
  | .reference target =>
      ∃ id referenced, value = .ref id ∧ store.get? id = some referenced ∧
        referenced.entityType = target

/-- The attributes of a record hold one fitting value for each declaration
and nothing in any other field. -/
structure Conforms (store : Store) (type : EntityType)
    (attributes : Std.ExtTreeMap String Value) : Prop where
  holds : ∀ declared ∈ type.attributes,
    ∃ value, attributes[declared.field]? = some value ∧ store.Fits declared value
  declares : ∀ (field : String) (value : Value), attributes[field]? = some value →
    ∃ declared ∈ type.attributes, declared.field = field

/-- What the records of a snapshot promise their readers. -/
structure Integrity (store : Store) : Prop where
  ownId : ∀ (id : EntityId) (record : Record), store.get? id = some record → record.id = id
  conforms : ∀ (id : EntityId) (record : Record), store.get? id = some record →
    ∃ type, store.schema.find? record.entityType = some type ∧ store.Conforms type record.attributes
  unique : ∀ (type : EntityType) (declared : Attribute) (value : Value)
    (first second : EntityId) (left right : Record),
    store.schema.find? type.name = some type → declared ∈ type.attributes →
    declared.unique = true →
    store.get? first = some left → left.entityType = type.name →
    left.attributes[declared.field]? = some value →
    store.get? second = some right → right.entityType = type.name →
    right.attributes[declared.field]? = some value → first = second

/-- Whether a live entity holds the value of a key in an indexed attribute.
This is read off the records and the schema, without the index. -/
def Holds (store : Store) (id : EntityId) (key : IndexKey) : Prop :=
  ∃ record type declared, store.get? id = some record ∧ record.entityType = key.entityType ∧
    store.schema.find? key.entityType = some type ∧ declared ∈ type.attributes ∧
    declared.field = key.field ∧ declared.isIndexed = true ∧
    record.attributes[key.field]? = some key.value

/-- The invariant of a snapshot. -/
structure Coherent (store : Store) : Prop where
  schema : store.schema.Sound
  integrity : store.Integrity
  indexed : ∀ (id : EntityId) (key : IndexKey), id ∈ store.index.find key ↔ store.Holds id key

/-! ## Conformance on another snapshot

A record conforms on any snapshot on which the entities that it refers to are
live with the same records.
-/

theorem Fits.of_kept {next : Store} {declared : Attribute} {value : Value}
    (fits : store.Fits declared value)
    (kept : ∀ (id : EntityId) (record : Record), value = .ref id →
      declared.target? = some record.entityType → store.get? id = some record →
      next.get? id = some record) : next.Fits declared value := by
  unfold Fits at fits ⊢
  cases kind : declared.kind with
  | value type => simpa only [kind] using fits
  | transient => simpa only [kind] using fits
  | reference target =>
      simp only [kind] at fits ⊢
      rcases fits with ⟨id, referenced, led, live, typed⟩
      have targeted : declared.target? = some referenced.entityType := by
        rw [Attribute.target?, kind, typed]
      exact ⟨id, referenced, led, kept id referenced led targeted live, typed⟩

theorem Conforms.of_kept {next : Store} {type : EntityType}
    {attributes : Std.ExtTreeMap String Value} (conforms : store.Conforms type attributes)
    (kept : ∀ declared ∈ type.attributes, ∀ (id : EntityId) (record : Record),
      attributes[declared.field]? = some (Value.ref id) →
      declared.target? = some record.entityType → store.get? id = some record →
      next.get? id = some record) : next.Conforms type attributes where
  holds := by
    intro declared member
    rcases conforms.holds declared member with ⟨value, held, fits⟩
    refine ⟨value, held, fits.of_kept ?_⟩
    rintro id record rfl
    exact kept declared member id record held
  declares := conforms.declares

/-! ## Keys of records -/

theorem mem_indexKeys_iff (store : Store) (record : Record) (key : IndexKey) :
    key ∈ store.indexKeys record ↔
      ∃ type declared, record.entityType = key.entityType ∧
        store.schema.find? key.entityType = some type ∧ declared ∈ type.attributes ∧
        declared.field = key.field ∧ declared.isIndexed = true ∧
        record.attributes[key.field]? = some key.value := by
  unfold indexKeys
  constructor
  · intro listed
    split at listed
    · cases listed
    · rename_i type found
      rcases List.mem_filterMap.mp listed with ⟨declared, filtered, mapped⟩
      rcases List.mem_filter.mp filtered with ⟨member, indexed⟩
      rcases Option.map_eq_some_iff.mp mapped with ⟨value, held, rfl⟩
      exact ⟨type, declared, rfl, found, member, rfl, indexed, held⟩
  · rintro ⟨type, declared, typed, found, member, named, indexed, held⟩
    rw [typed, found]
    refine List.mem_filterMap.mpr ⟨declared, List.mem_filter.mpr ⟨member, indexed⟩, ?_⟩
    rw [named, held]
    rfl

/-- An entity holds the value of a key exactly when its record has that key. -/
theorem holds_iff (store : Store) (id : EntityId) (key : IndexKey) :
    store.Holds id key ↔ ∃ record, store.get? id = some record ∧ key ∈ store.indexKeys record := by
  constructor
  · rintro ⟨record, type, declared, live, rest⟩
    exact ⟨record, live, (mem_indexKeys_iff store record key).mpr ⟨type, declared, rest⟩⟩
  · rintro ⟨record, live, listed⟩
    rcases (mem_indexKeys_iff store record key).mp listed with ⟨type, declared, rest⟩
    exact ⟨record, type, declared, live, rest⟩

theorem contains_eq_true_iff (store : Store) (id : EntityId) :
    store.contains id = true ↔ ∃ record, store.get? id = some record := by
  rw [contains, Std.ExtTreeMap.contains_eq_isSome_getElem?, Option.isSome_iff_exists]
  rfl

theorem contains_eq_false_iff (store : Store) (id : EntityId) :
    store.contains id = false ↔ store.get? id = none := by
  rw [contains, Std.ExtTreeMap.contains_eq_isSome_getElem?, Option.isSome_eq_false_iff,
    Option.isNone_iff_eq_none]
  rfl

/-! ## What coherence says of single facts -/

/-- A reference held by a live record, with the edge that a delete of its
target goes by. -/
theorem Coherent.edge_of_reference (coherent : store.Coherent) {id target : EntityId}
    {record referenced : Record} {type : EntityType} {declared : Attribute}
    (live : store.get? id = some record) (found : store.schema.find? record.entityType = some type)
    (member : declared ∈ type.attributes) (led : declared.target? = some referenced.entityType)
    (held : record.attributes[declared.field]? = some (.ref target)) :
    (⟨record.entityType, declared.field, declared.cascade⟩ : ReferenceEdge) ∈
        store.schema.incomingReferences referenced.entityType ∧
      id ∈ store.index.find ⟨record.entityType, declared.field, .ref target⟩ := by
  have registered := (coherent.schema.find?_eq_some_iff record.entityType type).mp found
  constructor
  · rw [coherent.schema.incoming]
    exact ⟨type, registered.1, declared, member, led, by rw [registered.2]⟩
  · rw [coherent.indexed]
    exact ⟨record, type, declared, live, rfl, found, member, rfl,
      by simp [Attribute.isIndexed, led], held⟩

/-! ## New stores and registration -/

theorem get?_new (allocators : Allocators) (id : EntityId) :
    (Store.new allocators).1.get? id = none := by
  change (∅ : Std.ExtTreeMap EntityId Record)[id]? = none
  simp

/-- A new store is coherent, since it says nothing of anything. -/
theorem coherent_new (allocators : Allocators) : (Store.new allocators).1.Coherent where
  schema := Schema.sound_empty
  integrity := by
    refine ⟨?_, ?_, ?_⟩
    · intro id record live
      rw [get?_new] at live
      cases live
    · intro id record live
      rw [get?_new] at live
      cases live
    · intro type declared value first second left right found
      cases found
  indexed := by
    intro id key
    constructor
    · intro member
      change id ∈ Index.empty.find key at member
      simp at member
    · rintro ⟨record, -, -, live, -⟩
      rw [get?_new] at live
      cases live

theorem register_eq_ok {type : EntityType} {next : Store} (done : store.register type = .ok next) :
    ∃ schema, store.schema.register type = .ok schema ∧ next = { store with schema } := by
  unfold register at done
  cases registered : store.schema.register type with
  | error cause =>
      rw [registered] at done
      cases done
  | ok schema =>
      rw [registered] at done
      cases done
      exact ⟨schema, rfl, rfl⟩

theorem exists_register {type : EntityType} (passed : store.schema.fault? type = none) :
    ∃ next, store.register type = .ok next ∧ store.schema.register type = .ok next.schema := by
  have done := (Schema.register_eq_ok_iff _ _ _).mpr ⟨passed, rfl⟩
  exact ⟨_, by rw [register, done]; rfl, done⟩

theorem get?_register {type : EntityType} {next : Store} (done : store.register type = .ok next)
    (id : EntityId) : next.get? id = store.get? id := by
  rcases register_eq_ok done with ⟨schema, -, rfl⟩
  rfl

section Registration

variable {type : EntityType} {next : Store} (coherent : store.Coherent)
  (done : store.register type = .ok next)
include coherent done

/-- The type of a live record is registered already, so its declaration stays. -/
theorem Coherent.find?_register {id : EntityId} {record : Record}
    (live : store.get? id = some record) :
    next.schema.find? record.entityType = store.schema.find? record.entityType := by
  rcases coherent.integrity.conforms id record live with ⟨declaration, found, -⟩
  rcases register_eq_ok done with ⟨schema, registered, rfl⟩
  rw [found]
  exact Schema.find?_register_of_some registered found

theorem Coherent.indexKeys_register {id : EntityId} {record : Record}
    (live : store.get? id = some record) : next.indexKeys record = store.indexKeys record := by
  unfold indexKeys
  rw [coherent.find?_register done live]

theorem Coherent.integrity_register : next.Integrity where
  ownId id record live := coherent.integrity.ownId id record (get?_register done id ▸ live)
  conforms := by
    intro id record live
    rw [get?_register done] at live
    rcases coherent.integrity.conforms id record live with ⟨declaration, found, conforms⟩
    refine ⟨declaration, (coherent.find?_register done live).trans found, conforms.of_kept ?_⟩
    intro declared member other referenced held led referencedLive
    rw [get?_register done, referencedLive]
  unique := by
    intro declaration declared value first second left right found member unique
      firstLive leftTyped leftHeld secondLive rightTyped rightHeld
    rw [get?_register done] at firstLive secondLive
    -- A record of the type is live, so its declaration is an old one.
    rw [← leftTyped, coherent.find?_register done firstLive, leftTyped] at found
    exact coherent.integrity.unique declaration declared value first second left right found member
      unique firstLive leftTyped leftHeld secondLive rightTyped rightHeld

/-- Registration keeps a store coherent: it says nothing new about the
records that are there. -/
theorem Coherent.register : next.Coherent where
  schema := by
    rcases register_eq_ok done with ⟨schema, registered, rfl⟩
    exact coherent.schema.register registered
  integrity := coherent.integrity_register done
  indexed := by
    intro id key
    have members : next.index = store.index := by
      rcases register_eq_ok done with ⟨schema, -, rfl⟩
      rfl
    rw [members, coherent.indexed, holds_iff, holds_iff]
    simp only [get?_register done]
    constructor
    · rintro ⟨record, live, listed⟩
      exact ⟨record, live, coherent.indexKeys_register done live ▸ listed⟩
    · rintro ⟨record, live, listed⟩
      exact ⟨record, live, coherent.indexKeys_register done live ▸ listed⟩

end Registration

end Store

end EntityBase
