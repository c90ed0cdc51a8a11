import EntityBase.Schema
import Mathlib.Data.List.Nodup

namespace EntityBase

/-!
# What registration keeps true of a schema

Names find at most one declaration, and the table of incoming references
holds exactly the reference attributes of the registered types.  Deletion
consults that table and nothing else, so an edge missing from it would leave
a dangling reference behind.

A registered declaration is never changed or replaced.  A later registration
therefore adds answers to `find?` and alters none, which is why the records
and the index entries of older types are unaffected by it.
-/

/-- Searching by a key that no two members share finds exactly the member
with that key. -/
theorem find?_key_eq_some_iff {α : Type} {key : α → String} {members : List α}
    (distinct : (members.map key).Nodup) (name : String) (found : α) :
    members.find? (fun member => key member = name) = some found ↔
      found ∈ members ∧ key found = name := by
  constructor
  · intro searched
    exact ⟨List.mem_of_find?_eq_some searched, by simpa using List.find?_some searched⟩
  · rintro ⟨member, named⟩
    cases searched : members.find? (fun other => key other = name) with
    | none => exact absurd named (by simpa using List.find?_eq_none.mp searched found member)
    | some other =>
        have otherNamed : key other = name := by simpa using List.find?_some searched
        have same := List.inj_on_of_nodup_map distinct (List.mem_of_find?_eq_some searched) member
          (otherNamed.trans named.symm)
        rw [same]

namespace Schema

variable {schema next : Schema} {type : EntityType}

/-- The facts about the registered types that every registration keeps. -/
structure Sound (schema : Schema) : Prop where
  names : (schema.types.map (·.name)).Nodup
  fields : ∀ type ∈ schema.types, (type.attributes.map (·.field)).Nodup
  /-- The table lists each reference attribute under its target, and no more. -/
  incoming : ∀ (target : String) (edge : ReferenceEdge),
    edge ∈ schema.incomingReferences target ↔
      ∃ type ∈ schema.types, ∃ declared ∈ type.attributes,
        declared.target? = some target ∧ edge = ⟨type.name, declared.field, declared.cascade⟩

theorem sound_empty : Sound ∅ where
  names := List.nodup_nil
  fields := by
    intro type member
    cases member
  incoming := by
    intro target edge
    constructor
    · intro listed
      change edge ∈ (((∅ : Std.ExtTreeMap String (List ReferenceEdge))[target]?).getD []) at listed
      simp at listed
    · rintro ⟨type, member, -⟩
      cases member

namespace Sound

theorem find?_eq_some_iff (sound : schema.Sound) (name : String) (type : EntityType) :
    schema.find? name = some type ↔ type ∈ schema.types ∧ type.name = name :=
  find?_key_eq_some_iff sound.names name type

theorem attribute?_eq_some_iff (sound : schema.Sound) (member : type ∈ schema.types)
    (field : String) (declared : Attribute) :
    type.attribute? field = some declared ↔ declared ∈ type.attributes ∧ declared.field = field :=
  find?_key_eq_some_iff (sound.fields type member) field declared

end Sound

/-! ## Declarations that pass -/

/-- An attribute list has no fault when it names no field twice, and none that
was seen before, and none of its attributes has a fault of its own. -/
theorem attributesFault?_eq_none_iff {entityType : String} {seen : List String}
    {attributes : List Attribute} :
    schema.attributesFault? entityType seen attributes = none ↔
      (attributes.map (·.field)).Nodup ∧ (∀ declared ∈ attributes, declared.field ∉ seen) ∧
        ∀ declared ∈ attributes, schema.attributeFault? entityType declared = none := by
  induction attributes generalizing seen with
  | nil => simp [attributesFault?]
  | cons declared rest ih =>
      rw [attributesFault?, List.map_cons, List.nodup_cons, List.forall_mem_cons,
        List.forall_mem_cons]
      by_cases repeated : declared.field ∈ seen
      · simp [repeated]
      · rw [if_neg repeated]
        cases schema.attributeFault? entityType declared with
        | some fault => simp
        | none =>
            simp only [ih, List.mem_map, List.mem_cons]
            grind

/-- What a registration that succeeds has checked, as far as the schema's
own facts depend on it, and what it returns. -/
theorem register_eq_ok (done : schema.register type = .ok next) :
    schema.contains type.name = false ∧ (type.attributes.map (·.field)).Nodup ∧
      next = ⟨schema.types ++ [type], type.attributes.foldl (addIncoming type.name) schema.incoming⟩ := by
  rcases (register_eq_ok_iff schema next type).mp done with ⟨passed, result⟩
  unfold fault? at passed
  split at passed
  · cases passed
  · rename_i fresh
    split at passed
    · cases passed
    · rename_i fields
      exact ⟨by simpa using fresh, (attributesFault?_eq_none_iff.mp fields).1, result⟩

/-- A new type has the last place. -/
theorem types_register (done : schema.register type = .ok next) :
    next.types = schema.types ++ [type] := by
  rw [(register_eq_ok done).2.2]

/-- A registration answers for the new name and leaves every other answer
alone. -/
theorem find?_register (done : schema.register type = .ok next) (name : String) :
    next.find? name = if type.name = name then some type else schema.find? name := by
  rcases register_eq_ok done with ⟨fresh, -, rfl⟩
  simp only [find?, List.find?_append, List.find?_cons, List.find?_nil]
  by_cases same : type.name = name
  · subst same
    have absent : schema.types.find? (fun other => other.name = type.name) = none := by
      simpa [contains, find?] using fresh
    simp [absent]
  · simp [same]

/-- A name that is found stays found, with the same declaration. -/
theorem find?_register_of_some (done : schema.register type = .ok next) {name : String}
    {declared : EntityType} (found : schema.find? name = some declared) :
    next.find? name = some declared := by
  rw [find?_register done]
  by_cases same : type.name = name
  · rcases register_eq_ok done with ⟨fresh, -, -⟩
    rw [contains, same, found] at fresh
    cases fresh
  · rw [if_neg same, found]

/-- A schema that finds whatever another one finds. -/
def Extends (later earlier : Schema) : Prop :=
  ∀ (name : String) (type : EntityType), earlier.find? name = some type → later.find? name = some type

theorem Extends.refl (schema : Schema) : schema.Extends schema :=
  fun _ _ found => found

theorem Extends.register {earlier : Schema} (grows : schema.Extends earlier)
    (done : schema.register type = .ok next) : next.Extends earlier :=
  fun name declared found => find?_register_of_some done (grows name declared found)

/-! ## The table of incoming references -/

/-- The edge that an attribute contributes to the table under a target. -/
def edge? (owner target : String) (declared : Attribute) : Option ReferenceEdge :=
  if declared.target? = some target then some ⟨owner, declared.field, declared.cascade⟩ else none

/-- Recording attributes appends their edges, in declaration order. -/
theorem getD_foldl_addIncoming (owner target : String) (attributes : List Attribute)
    (incoming : Std.ExtTreeMap String (List ReferenceEdge)) :
    ((attributes.foldl (addIncoming owner) incoming)[target]?).getD [] =
      (incoming[target]?).getD [] ++ attributes.filterMap (edge? owner target) := by
  induction attributes generalizing incoming with
  | nil => simp
  | cons declared rest ih =>
      rw [List.foldl_cons, ih, List.filterMap_cons]
      cases led : declared.target? with
      | none => simp [addIncoming, edge?, led]
      | some other =>
          simp only [addIncoming, led, Std.ExtTreeMap.getElem?_alter, edge?]
          by_cases same : other = target
          · subst same
            simp
          · simp [same]

theorem incomingReferences_register (done : schema.register type = .ok next) (target : String) :
    next.incomingReferences target =
      schema.incomingReferences target ++ type.attributes.filterMap (edge? type.name target) := by
  rcases register_eq_ok done with ⟨-, -, rfl⟩
  exact getD_foldl_addIncoming type.name target type.attributes schema.incoming

theorem Sound.register (sound : schema.Sound) (done : schema.register type = .ok next) :
    next.Sound := by
  rcases register_eq_ok done with ⟨fresh, fields, -⟩
  have types := types_register done
  refine ⟨?_, ?_, ?_⟩
  · rw [types, List.map_append, List.nodup_append]
    refine ⟨sound.names, List.nodup_singleton _, ?_⟩
    intro name listed other last same
    rcases List.mem_map.mp listed with ⟨registered, member, named⟩
    have present : schema.contains type.name = true := by
      rw [contains_eq_true_iff]
      refine ⟨registered, member, ?_⟩
      rw [named, same]
      simpa using last
    rw [fresh] at present
    cases present
  · intro declared member
    rw [types] at member
    rcases List.mem_append.mp member with old | last
    · exact sound.fields declared old
    · rw [List.mem_singleton.mp last]
      exact fields
  · intro target edge
    rw [incomingReferences_register done, List.mem_append, sound.incoming, types]
    simp only [List.mem_append, List.mem_singleton, List.mem_filterMap, edge?, or_and_right,
      exists_or, exists_eq_left, Option.ite_none_right_eq_some, Option.some.injEq]
    grind

end Schema

end EntityBase
