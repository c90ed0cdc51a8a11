import EntityBase.Proofs.Index.Relation
import EntityBase.Proofs.Store.History
import EntityBase.Store.Find
import Mathlib.Data.Finset.Card

namespace EntityBase

/-!
# Lookups and scans

The index exists to save a scan of the records, and on a coherent store it
gives what the scan would give.  A lookup of a unique attribute therefore
meets one entity at most.

The number of keys is a property of the records as well.  No key is kept for
an empty set, so there is one for each value that some live entity holds in an
indexed attribute of its type, and none besides.
-/

/-- A set in which any two members agree has one answer or none. -/
theorem Matches.single_eq_ok (found : Matches)
    (alike : ∀ first ∈ found.ids, ∀ second ∈ found.ids, first = second) :
    ∃ answer, found.single = .ok answer ∧ ∀ id, answer = some id ↔ id ∈ found.ids := by
  have members : ∀ id, id ∈ found.ids ↔ id ∈ found.ids.toList :=
    fun _ => Std.ExtTreeSet.mem_toList.symm
  unfold single
  cases listed : found.ids.toList with
  | nil => exact ⟨none, rfl, by simp [members, listed]⟩
  | cons first rest =>
      cases rest with
      | nil => exact ⟨some first, rfl, by simp [members, listed, eq_comm]⟩
      | cons second others =>
          have distinct := Std.ExtTreeSet.distinct_toList (t := found.ids)
          rw [listed] at distinct
          have different := (List.pairwise_cons.mp distinct).1 second List.mem_cons_self
          have same := alike first ((members first).mpr (by simp [listed])) second
            ((members second).mpr (by simp [listed]))
          exact absurd (same ▸ Std.ReflCmp.compare_self) different

namespace Store

variable {store : Store} {type : EntityType} {declared : Attribute} {entityType field : String}
  {value : Value}

/-! ## Scanning the records -/

theorem values_eq_map_toList (records : Std.ExtTreeMap EntityId Record) :
    records.values = records.toList.map Prod.snd := by
  have folded : records.values = records.foldr (fun _ record rest => record :: rest) [] := by
    rcases records with ⟨⟨tree⟩⟩
    induction tree using Quotient.ind
    rfl
  rw [folded, Std.ExtTreeMap.foldr_eq_foldr_toList]
  induction records.toList with
  | nil => rfl
  | cons entry rest ih => rw [List.foldr_cons, ih, List.map_cons]

theorem mem_recordsOf_iff (store : Store) (entityType : String) (record : Record) :
    record ∈ store.recordsOf entityType ↔
      record.entityType = entityType ∧ ∃ id, store.get? id = some record := by
  simp only [recordsOf, List.mem_filter, values_eq_map_toList, List.mem_map, Prod.exists,
    exists_eq_right, Std.ExtTreeMap.mem_toList_iff_getElem?_eq_some, decide_eq_true_eq, get?]
  exact And.comm

/-- The entities of a type that hold a value in a field, found by going
through the records. -/
def scan (store : Store) (entityType field : String) (value : Value) : EntitySet :=
  Std.ExtTreeSet.ofList
    (((store.recordsOf entityType).filter (·.attributes[field]? = some value)).map (·.id))

theorem Integrity.mem_scan_iff (integrity : store.Integrity) (id : EntityId) :
    id ∈ store.scan entityType field value ↔
      ∃ record, store.get? id = some record ∧ record.entityType = entityType ∧
        record.attributes[field]? = some value := by
  simp only [scan, Std.ExtTreeSet.mem_ofList, List.contains_iff_mem, List.mem_map, List.mem_filter,
    mem_recordsOf_iff, decide_eq_true_eq]
  constructor
  · rintro ⟨record, ⟨⟨typed, other, live⟩, held⟩, rfl⟩
    rw [integrity.ownId other record live]
    exact ⟨record, live, typed, held⟩
  · rintro ⟨record, live, typed, held⟩
    exact ⟨record, ⟨⟨typed, id, live⟩, held⟩, integrity.ownId id record live⟩

/-! ## Looking up an indexed attribute -/

theorem find_eq_ok_of_indexed (store : Store) (value : Value)
    (found : store.schema.find? entityType = some type)
    (known : type.attribute? field = some declared) (indexed : declared.isIndexed = true) :
    store.find entityType field value =
      .ok ⟨entityType, field, value, store.index.find ⟨entityType, field, value⟩⟩ := by
  unfold find
  rw [declaration, found]
  change (attributeOf type field >>= _) = _
  rw [attributeOf, known]
  exact if_pos indexed

/-- On a coherent store the entry under a key of an indexed attribute is the
scan for its value. -/
theorem Coherent.index_find_eq_scan (coherent : store.Coherent)
    (found : store.schema.find? entityType = some type) (member : declared ∈ type.attributes)
    (named : declared.field = field) (indexed : declared.isIndexed = true) :
    store.index.find ⟨entityType, field, value⟩ = store.scan entityType field value := by
  apply Std.ExtTreeSet.ext_mem
  intro id
  rw [coherent.indexed, coherent.integrity.mem_scan_iff]
  constructor
  · rintro ⟨record, -, -, live, typed, -, -, -, -, held⟩
    exact ⟨record, live, typed, held⟩
  · rintro ⟨record, live, typed, held⟩
    exact ⟨record, type, declared, live, typed, found, member, named, indexed, held⟩

/-- A unique value has one holder at most. -/
theorem Coherent.eq_of_holds (coherent : store.Coherent)
    (found : store.schema.find? entityType = some type) (member : declared ∈ type.attributes)
    (named : declared.field = field) (unique : declared.unique = true) {first second : EntityId}
    (left : store.Holds first ⟨entityType, field, value⟩)
    (right : store.Holds second ⟨entityType, field, value⟩) : first = second := by
  have typeNamed := ((coherent.schema.find?_eq_some_iff entityType type).mp found).2
  rcases left with ⟨record, -, -, firstLive, leftTyped, -, -, -, -, leftHeld⟩
  rcases right with ⟨other, -, -, secondLive, rightTyped, -, -, -, -, rightHeld⟩
  rw [← named] at leftHeld rightHeld
  exact coherent.integrity.unique type declared value first second record other
    (typeNamed ▸ found) member unique firstLive (leftTyped.trans typeNamed.symm) leftHeld
    secondLive (rightTyped.trans typeNamed.symm) rightHeld

/-- A lookup of a value with one holder at most answers with the holder. -/
theorem Coherent.single_eq_ok (coherent : store.Coherent)
    (found : store.schema.find? entityType = some type) (member : declared ∈ type.attributes)
    (named : declared.field = field) (indexed : declared.isIndexed = true)
    (alike : ∀ first second, store.Holds first ⟨entityType, field, value⟩ →
      store.Holds second ⟨entityType, field, value⟩ → first = second) :
    ∃ answer, store.single entityType field value = .ok answer ∧
      ∀ id, answer = some id ↔ store.Holds id ⟨entityType, field, value⟩ := by
  have registered := ((coherent.schema.find?_eq_some_iff entityType type).mp found).1
  have known := (coherent.schema.attribute?_eq_some_iff registered field declared).mpr ⟨member, named⟩
  have looked := store.find_eq_ok_of_indexed value found known indexed
  have inIndex := fun id => coherent.indexed id ⟨entityType, field, value⟩
  let found : Matches := ⟨entityType, field, value, store.index.find ⟨entityType, field, value⟩⟩
  have one : ∀ first ∈ found.ids, ∀ second ∈ found.ids, first = second := by
    intro first firstMember second secondMember
    exact alike first second ((inIndex first).mp firstMember) ((inIndex second).mp secondMember)
  rcases found.single_eq_ok one with ⟨answer, single, exact⟩
  refine ⟨answer, ?_, fun id => (exact id).trans (inIndex id)⟩
  rw [Store.single, looked]
  exact single

/-! ## The number of keys -/

/-- The values that live entities hold in indexed attributes. -/
def heldKeys (store : Store) : Finset IndexKey :=
  (store.records.values.flatMap store.indexKeys).toFinset

theorem mem_heldKeys_iff (store : Store) (key : IndexKey) :
    key ∈ store.heldKeys ↔ ∃ id, store.Holds id key := by
  simp only [heldKeys, List.mem_toFinset, List.mem_flatMap, values_eq_map_toList, List.mem_map,
    Prod.exists, exists_eq_right, Std.ExtTreeMap.mem_toList_iff_getElem?_eq_some, holds_iff, get?]
  constructor
  · rintro ⟨record, ⟨id, live⟩, listed⟩
    exact ⟨id, record, live, listed⟩
  · rintro ⟨id, record, live, listed⟩
    exact ⟨record, ⟨id, live⟩, listed⟩

/-- The index represents what the live entities hold. -/
theorem Coherent.represents (coherent : store.Coherent) :
    store.index.Represents fun key id => store.Holds id key :=
  Index.represents_of_find fun key id => coherent.indexed id key

/-- A key is in the index exactly when some live entity holds its value. -/
theorem Coherent.index_contains_iff (coherent : store.Coherent) (key : IndexKey) :
    store.index.contains key = true ↔ ∃ id, store.Holds id key :=
  coherent.represents.contains key

theorem Coherent.index_size (coherent : store.Coherent) :
    store.index.size = store.heldKeys.card := by
  have counted := coherent.represents.size
  have held : {key | ∃ id, store.Holds id key} = ↑store.heldKeys := by
    ext key
    exact (store.mem_heldKeys_iff key).symm
  rw [held, Set.encard_coe_eq_coe_finsetCard] at counted
  exact_mod_cast counted

end Store

end EntityBase
