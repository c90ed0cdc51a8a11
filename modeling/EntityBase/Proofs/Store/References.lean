import Mathlib.Logic.Relation
import EntityBase.Proofs.Store.Deletion

namespace EntityBase

/-!
# References and dependence

A delete finds the references to its victims in the index, along the edges that
the schema lists.  On a coherent store these are the references that the
records hold, neither more nor fewer.  A delete can then be described without
either table.  It removes what depends on its target through cascading
references, and it succeeds on a live target unless a plain reference leads
from outside to something that it would remove.

A reference is a fact about one record and its declaration.  Two snapshots that
agree on both agree on the references of the entities that they share, however
much they differ elsewhere.
-/

/-- An entity refers to another by a reference attribute, which cascades or not
as flagged.  The records need not be those of one snapshot. -/
def Schema.Refers (schema : Schema) (records : EntityId → Option Record) (cascade : Bool)
    (owner target : EntityId) : Prop :=
  ∃ record type declared, records owner = some record ∧
    schema.find? record.entityType = some type ∧ declared ∈ type.attributes ∧
    declared.target?.isSome = true ∧ declared.cascade = cascade ∧
    record.attributes[declared.field]? = some (.ref target)

/-- Cascading references lead from an entity to another in any number of steps.
Every entity depends on itself. -/
def Schema.Depends (schema : Schema) (records : EntityId → Option Record) :
    EntityId → EntityId → Prop :=
  Relation.ReflTransGen (schema.Refers records true)

namespace Store

/-- The references that the records of a snapshot hold. -/
abbrev Refers (store : Store) : Bool → EntityId → EntityId → Prop :=
  store.schema.Refers store.get?

abbrev Depends (store : Store) : EntityId → EntityId → Prop :=
  store.schema.Depends store.get?

variable {store next first second : Store} {arrangement : Arrangement} {cascade : Bool}
  {id other owner target root : EntityId} {record : Record} {removed : List EntityId}

theorem contains_owner (refers : store.Refers cascade owner target) :
    store.contains owner = true := by
  rcases refers with ⟨record, -, -, live, -⟩
  exact (contains_eq_true_iff store owner).mpr ⟨record, live⟩

/-! ## References on a coherent store -/

/-- The reference of a live record leads to a live entity of the declared
type. -/
theorem Coherent.referenced (coherent : store.Coherent) {type : EntityType} {declared : Attribute}
    (live : store.get? owner = some record)
    (found : store.schema.find? record.entityType = some type)
    (member : declared ∈ type.attributes) (refers : declared.target?.isSome = true)
    (held : record.attributes[declared.field]? = some (.ref target)) :
    ∃ referenced, store.get? target = some referenced ∧
      declared.target? = some referenced.entityType := by
  rcases coherent.integrity.conforms owner record live with ⟨same, alsoFound, conforms⟩
  cases found.symm.trans alsoFound
  rcases conforms.holds declared member with ⟨value, alsoHeld, fits⟩
  cases held.symm.trans alsoHeld
  cases kind : declared.kind with
  | value type => simp [Attribute.target?, kind] at refers
  | transient => simp [Attribute.target?, kind] at refers
  | reference named =>
      simp only [Fits, kind] at fits
      rcases fits with ⟨leads, referenced, same, targetLive, typed⟩
      cases same
      exact ⟨referenced, targetLive, by rw [Attribute.target?, kind, typed]⟩

theorem Coherent.contains_target (coherent : store.Coherent)
    (refers : store.Refers cascade owner target) : store.contains target = true := by
  rcases refers with ⟨record, type, declared, live, found, member, leads, -, held⟩
  rcases coherent.referenced live found member leads held with ⟨referenced, targetLive, -⟩
  exact (contains_eq_true_iff store target).mpr ⟨referenced, targetLive⟩

/-- The tables that a delete consults show the references that are there. -/
theorem Coherent.mem_referrers_owner_iff (coherent : store.Coherent) (arrangement : Arrangement) :
    (∃ referrer ∈ store.referrers arrangement cascade target, referrer.owner = owner) ↔
      store.Refers cascade owner target := by
  constructor
  · rintro ⟨referrer, listed, rfl⟩
    rcases (mem_referrers_iff _ _ _ _ _).mp listed with
      ⟨referenced, targetLive, edge, incoming, flagged, indexed, -⟩
    rcases (coherent.schema.incoming _ _).mp incoming with
      ⟨type, registered, declared, member, leads, rfl⟩
    rw [coherent.indexed] at indexed
    rcases indexed with ⟨record, -, -, live, typed, -, -, -, -, held⟩
    have found := (coherent.schema.find?_eq_some_iff type.name type).mpr ⟨registered, rfl⟩
    exact ⟨record, type, declared, live, typed ▸ found, member, by rw [leads]; rfl, flagged, held⟩
  · rintro ⟨record, type, declared, live, found, member, leads, rfl, held⟩
    rcases coherent.referenced live found member leads held with ⟨referenced, targetLive, typed⟩
    exact ⟨_, coherent.mem_referrers arrangement live found member typed held targetLive, rfl⟩

theorem Coherent.mem_dependents_iff (coherent : store.Coherent) (arrangement : Arrangement) :
    owner ∈ store.dependents arrangement target ↔ store.Refers true owner target := by
  rw [dependents, List.mem_map, coherent.mem_referrers_owner_iff]

/-! ## Deletes -/

/-- A cascade takes what depends on its root. -/
theorem Coherent.mem_cascadeOrder_iff (coherent : store.Coherent) (arrangement : Arrangement) :
    id ∈ store.cascadeOrder arrangement root ↔ store.Depends id root := by
  constructor
  · have closed : ∀ target dependent, store.Depends target root →
        dependent ∈ store.dependents arrangement target → store.Depends dependent root :=
      fun _ _ depends listed => .head ((coherent.mem_dependents_iff arrangement).mp listed) depends
    exact cascadeOrder_least .refl closed
  · intro depends
    induction depends using Relation.ReflTransGen.head_induction_on with
    | refl => exact root_mem_cascadeOrder store arrangement root
    | head refers _ ih =>
        exact cascadeOrder_closed ih ((coherent.mem_dependents_iff arrangement).mpr refers)

/-- A delete succeeds exactly when its target is live and whoever refers to
something that depends on the target depends on it as well. -/
theorem Coherent.exists_deleteArranged_iff (coherent : store.Coherent) (arrangement : Arrangement) :
    (∃ next removed, store.deleteArranged arrangement id = .ok (next, removed)) ↔
      store.contains id = true ∧ ∀ owner victim, store.Depends victim id →
        store.Refers false owner victim → store.Depends owner id := by
  have unprotected : store.protection? arrangement (store.cascadeOrder arrangement id) = none ↔
      ∀ owner victim, store.Depends victim id → store.Refers false owner victim →
        store.Depends owner id := by
    simp only [protection?_eq_none_iff, coherent.mem_cascadeOrder_iff]
    constructor
    · intro within owner victim depends refers
      rcases (coherent.mem_referrers_owner_iff arrangement).mpr refers with ⟨referrer, listed, rfl⟩
      exact within victim depends referrer listed
    · intro within victim depends referrer listed
      exact within referrer.owner victim depends
        ((coherent.mem_referrers_owner_iff arrangement).mp ⟨referrer, listed, rfl⟩)
  rw [← unprotected]
  constructor
  · rintro ⟨next, removed, done⟩
    rcases deleteArranged_eq_ok done with ⟨live, rfl, passed, -⟩
    exact ⟨live, passed⟩
  · rintro ⟨live, passed⟩
    let doomed := store.cascadeOrder arrangement id
    refine ⟨doomed.foldl store.remove store, doomed, ?_⟩
    unfold Store.deleteArranged
    rw [if_pos live]
    simp only [passed, doomed]

/-- The records after a delete are those of the entities that do not depend on
its target. -/
theorem Coherent.get?_deleteArranged_iff (coherent : store.Coherent)
    (done : store.deleteArranged arrangement id = .ok (next, removed)) :
    next.get? other = some record ↔ store.get? other = some record ∧ ¬ store.Depends other id := by
  rw [Store.get?_deleteArranged_iff done]
  rcases deleteArranged_eq_ok done with ⟨-, rfl, -, -⟩
  rw [coherent.mem_cascadeOrder_iff]

theorem Coherent.contains_deleteArranged_iff (coherent : store.Coherent)
    (done : store.deleteArranged arrangement id = .ok (next, removed)) :
    next.contains other = true ↔ store.contains other = true ∧ ¬ store.Depends other id := by
  simp only [contains_eq_true_iff, coherent.get?_deleteArranged_iff done, exists_and_right]

/-! ## Snapshots that agree -/

/-- What two snapshots both have is the same in both. -/
structure Agrees (first second : Store) : Prop where
  records : ∀ (id : EntityId) (left right : Record), first.get? id = some left →
    second.get? id = some right → left = right
  types : ∀ (name : String) (left right : EntityType), first.schema.find? name = some left →
    second.schema.find? name = some right → left = right

theorem Agrees.symm (agrees : first.Agrees second) : second.Agrees first :=
  ⟨fun id _ _ left right => (agrees.records id _ _ right left).symm,
    fun name _ _ left right => (agrees.types name _ _ right left).symm⟩

theorem Agrees.get?_eq (agrees : first.Agrees second) (live : first.get? id = some record)
    (alsoLive : second.contains id = true) : second.get? id = some record := by
  rcases (contains_eq_true_iff second id).mp alsoLive with ⟨same, found⟩
  rw [found, agrees.records id record same live found]

/-- A reference that one snapshot shows is there in the other if its owner is. -/
theorem Agrees.refers (agrees : first.Agrees second) (coherent : second.Coherent)
    (live : second.contains owner = true) (refers : first.Refers cascade owner target) :
    second.Refers cascade owner target := by
  rcases refers with ⟨record, type, declared, ownerLive, found, rest⟩
  have kept := agrees.get?_eq ownerLive live
  rcases coherent.integrity.conforms owner record kept with ⟨same, alsoFound, -⟩
  rw [← agrees.types _ type same found alsoFound] at alsoFound
  exact ⟨record, type, declared, kept, alsoFound, rest⟩

/-- Dependence carries over in the same way, since all that an entity refers to
is live where the entity is. -/
theorem Agrees.depends (agrees : first.Agrees second) (coherent : second.Coherent)
    (live : second.contains id = true) (depends : first.Depends id root) :
    second.Depends id root ∧ second.contains root = true := by
  induction depends using Relation.ReflTransGen.head_induction_on with
  | refl => exact ⟨.refl, live⟩
  | head refers _ ih =>
      have kept := agrees.refers coherent live refers
      rcases ih (coherent.contains_target kept) with ⟨rest, rootLive⟩
      exact ⟨.head kept rest, rootLive⟩

end Store

end EntityBase
