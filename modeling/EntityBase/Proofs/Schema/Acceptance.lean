import EntityBase.Proofs.Schema.Registration
import Mathlib.Data.List.Duplicate
import Mathlib.Logic.Relation

namespace EntityBase

/-!
# Which declarations are accepted

A schema is made by offering it declarations, of which it takes some.  Those that
it takes become its types, in the order in which they were offered, and their
references the table of incoming references.  The others leave no trace.

What speaks against a declaration can be read off the declaration and the names
that are registered already.  A type refers to types registered before it, or to
itself, so the cascading references among the registered types go back in the
order of registration and form no cycle.

The search for a cycle does not know this and walks through all that the
declaration leads to.  It can only come back to where it began at its first
step, by a cascading reference of the declaration to itself.  This is checked
last, and is reported when nothing else speaks against the declaration.
-/

namespace Schema

variable {schema next : Schema} {type : EntityType} {start : String} {unvisited : List String}
  {stack : List Trail} {path : List String} {fault : SchemaFault}

/-- A registered type declares a cascading reference to a type. -/
def Cascades (schema : Schema) (owner target : String) : Prop :=
  ∃ type ∈ schema.types, type.name = owner ∧
    ∃ declared ∈ type.attributes, declared.cascade = true ∧ declared.target? = some target

/-- What speaks against a declaration, and how it is reported. -/
inductive Against (schema : Schema) (type : EntityType) : SchemaFault → Prop where
  | registered (present : schema.contains type.name = true) :
      Against schema type (.duplicateEntityType type.name)
  | repeated {field : String} (twice : List.Duplicate field (type.attributes.map (·.field))) :
      Against schema type (.duplicateAttribute type.name field)
  | uniqueFloat {declared : Attribute} (member : declared ∈ type.attributes)
      (unique : declared.unique = true) (float : declared.kind = .value .float) :
      Against schema type (.unhashableUnique type.name declared.field .float)
  | cascadingValue {declared : Attribute} (member : declared ∈ type.attributes)
      (cascades : declared.cascade = true) (plain : declared.target? = none) :
      Against schema type (.cascadeOnNonReference type.name declared.field)
  | unknownTarget {declared : Attribute} {target : String} (member : declared ∈ type.attributes)
      (leads : declared.target? = some target) (foreign : target ≠ type.name)
      (unknown : schema.contains target = false) :
      Against schema type (.unknownReferenceTarget type.name declared.field target)
  | cascadesToItself {declared : Attribute} (member : declared ∈ type.attributes)
      (cascades : declared.cascade = true) (leads : declared.target? = some type.name) :
      Against schema type (.cascadeCycle type.name [type.name, type.name])

/-! ## The search for a cycle -/

theorem mem_cascadeTargets_iff (type : EntityType) (target : String) :
    target ∈ type.cascadeTargets ↔
      ∃ declared ∈ type.attributes, declared.cascade = true ∧ declared.target? = some target := by
  simp [EntityType.cascadeTargets, Attribute.cascadeTarget?]

/-- The trails one reference further, as the search puts them on the stack. -/
theorem mem_reverse_extend_iff (trail : Trail) (targets : List String) (other : Trail) :
    other ∈ (trail.extend targets).reverse ↔
      ∃ target ∈ targets, (⟨target, trail.path ++ [target]⟩ : Trail) = other := by
  rw [List.mem_reverse, Trail.extend, List.mem_map]

/-- The search returns a path that it has got by extending the trails it began
with. -/
theorem of_searchCycle_eq_some {kept : Trail → Prop}
    (extended : ∀ trail, kept trail → ∀ target ∈ schema.cascadeTargets trail.current,
      kept ⟨target, trail.path ++ [target]⟩)
    (waits : ∀ trail ∈ stack, kept trail)
    (found : schema.searchCycle start unvisited stack = some path) : kept ⟨start, path⟩ := by
  fun_induction searchCycle schema start unvisited stack with
  | case1 unvisited => cases found
  | case2 unvisited trail rest returned =>
      cases found
      exact returned ▸ waits trail List.mem_cons_self
  | case3 unvisited trail rest elsewhere unseen ih =>
      refine ih (fun other member => ?_) found
      rcases List.forall_mem_cons.mp waits with ⟨first, others⟩
      rcases List.mem_append.mp member with further | later
      · rcases (mem_reverse_extend_iff _ _ _).mp further with ⟨target, led, rfl⟩
        exact extended trail first target led
      · exact others other later
  | case4 unvisited trail rest elsewhere seen ih =>
      exact ih (List.forall_mem_cons.mp waits).2 found

/-- The search finds a way back if one of the trails it begins with is one. -/
theorem isSome_searchCycle {trail : Trail} (waits : trail ∈ stack) (returned : trail.current = start) :
    (schema.searchCycle start unvisited stack).isSome = true := by
  fun_induction searchCycle schema start unvisited stack with
  | case1 unvisited => cases waits
  | case2 unvisited first rest same => rfl
  | case3 unvisited first rest elsewhere unseen ih =>
      rcases List.mem_cons.mp waits with same | later
      · exact absurd (same ▸ returned) elsewhere
      · exact ih (List.mem_append_right _ later)
  | case4 unvisited first rest elsewhere seen ih =>
      rcases List.mem_cons.mp waits with same | later
      · exact absurd (same ▸ returned) elsewhere
      · exact ih later

/-! ## The order of registration -/

/-- The place of a type in the order of registration. -/
def position (schema : Schema) (name : String) : Nat :=
  schema.types.findIdx (·.name = name)

/-- Cascading references lead to types that are registered, and that were so
before. -/
def Layered (schema : Schema) : Prop :=
  ∀ owner target, schema.Cascades owner target →
    schema.contains target = true ∧ schema.position target < schema.position owner

theorem layered_empty : Layered ∅ := by
  rintro owner target ⟨type, member, -⟩
  cases member

/-- Along cascading references, types were registered earlier and earlier. -/
theorem Layered.acyclic (layered : schema.Layered) (name : String) :
    ¬ Relation.TransGen schema.Cascades name name := by
  have earlier : ∀ target, Relation.TransGen schema.Cascades name target →
      schema.position target < schema.position name := by
    intro target leads
    induction leads with
    | single cascades => exact (layered _ _ cascades).2
    | tail _ cascades ih => exact Nat.lt_trans (layered _ _ cascades).2 ih
  exact fun cycle => Nat.lt_irrefl _ (earlier name cycle)

theorem cascades_of_mem_cascadeTargets {owner target : String}
    (led : target ∈ schema.cascadeTargets owner) : schema.Cascades owner target := by
  unfold cascadeTargets at led
  split at led
  · rename_i type found
    exact ⟨type, List.mem_of_find?_eq_some found, by simpa using List.find?_some found,
      (mem_cascadeTargets_iff type target).mp led⟩
  · cases led

/-- A new declaration is on a cycle only by a reference to itself. -/
theorem Layered.cascadeCycle?_eq_some (layered : schema.Layered)
    (fresh : schema.contains type.name = false) (found : schema.cascadeCycle? type = some path) :
    path = [type.name, type.name] ∧ type.name ∈ type.cascadeTargets := by
  -- A trail is either one step long or has reached a registered type.
  let kept (trail : Trail) : Prop :=
    (trail.path = [type.name, trail.current] ∧ trail.current ∈ type.cascadeTargets) ∨
      schema.contains trail.current = true
  have extended : ∀ trail, kept trail → ∀ target ∈ schema.cascadeTargets trail.current,
      kept ⟨target, trail.path ++ [target]⟩ :=
    fun trail _ target led => .inr (layered _ _ (cascades_of_mem_cascadeTargets led)).1
  have back : kept ⟨type.name, path⟩ := by
    refine of_searchCycle_eq_some extended (fun trail waits => ?_) found
    rcases (mem_reverse_extend_iff _ _ _).mp waits with ⟨target, led, rfl⟩
    exact .inl ⟨rfl, led⟩
  rcases back with short | registered
  · exact short
  · rw [fresh] at registered
    cases registered

theorem isSome_cascadeCycle? (led : type.name ∈ type.cascadeTargets) :
    (schema.cascadeCycle? type).isSome = true :=
  isSome_searchCycle ((mem_reverse_extend_iff _ _ _).mpr ⟨_, led, rfl⟩) rfl

/-! ## Faults -/

theorem isHashable_valueType_iff (kind : AttributeKind) :
    kind.valueType.isHashable = true ↔ kind ≠ .value .float := by
  cases kind with
  | value type => exact decide_eq_true_iff.trans (by simp [AttributeKind.valueType])
  | _ => simp [AttributeKind.valueType, ValueType.isHashable]

theorem attributeFault?_eq_none_iff (schema : Schema) (entityType : String) (declared : Attribute) :
    schema.attributeFault? entityType declared = none ↔
      (declared.unique = true → declared.kind ≠ .value .float) ∧
        (declared.cascade = true → declared.target? ≠ none) ∧
        ∀ target, declared.target? = some target →
          target = entityType ∨ schema.contains target = true := by
  simp only [attributeFault?, isHashable_valueType_iff, not_not]
  cases leads : declared.target? with
  | none =>
      by_cases float : declared.unique = true ∧ declared.kind = .value .float
      · simp [float]
      · simpa [float] using fun _ => not_and.mp float
  | some target =>
      have plain : declared.kind ≠ .value .float := by
        intro float
        simp [Attribute.target?, float] at leads
      simp [plain, or_iff_not_imp_left]

/-- What is wrong with an attribute of a declaration speaks against the
declaration, and is not a cycle. -/
theorem against_of_attributeFault? {declared : Attribute} (member : declared ∈ type.attributes)
    (found : schema.attributeFault? type.name declared = some fault) :
    schema.Against type fault ∧ ∀ name path, fault ≠ .cascadeCycle name path := by
  simp only [attributeFault?, isHashable_valueType_iff, not_not] at found
  split at found
  · rename_i float
    cases found
    rw [float.2]
    exact ⟨.uniqueFloat member float.1 float.2, nofun⟩
  · cases leads : declared.target? with
    | none =>
        rw [leads] at found
        rcases Option.ite_none_right_eq_some.mp found with ⟨cascades, same⟩
        cases same
        exact ⟨.cascadingValue member cascades leads, nofun⟩
    | some target =>
        rw [leads] at found
        rcases Option.ite_none_right_eq_some.mp found with ⟨⟨foreign, unknown⟩, same⟩
        cases same
        exact ⟨.unknownTarget member leads foreign (by simpa using unknown), nofun⟩

/-- The fault of a list of attributes is a field that is named twice, or the
fault of an attribute. -/
theorem attributesFault?_eq_some {entityType : String} {seen : List String}
    {attributes : List Attribute}
    (found : schema.attributesFault? entityType seen attributes = some fault) :
    (∃ field, fault = .duplicateAttribute entityType field ∧
        List.Duplicate field (seen ++ attributes.map (·.field))) ∨
      ∃ declared ∈ attributes, schema.attributeFault? entityType declared = some fault := by
  induction attributes generalizing seen with
  | nil => cases found
  | cons declared rest ih =>
      unfold attributesFault? at found
      split at found
      · rename_i repeated
        cases found
        refine .inl ⟨declared.field, rfl, List.duplicate_iff_sublist.mpr ?_⟩
        exact (List.singleton_sublist.mpr repeated).append
          (List.singleton_sublist.mpr List.mem_cons_self)
      · split at found
        · rename_i own
          cases found
          exact .inr ⟨declared, List.mem_cons_self, own⟩
        · rcases ih found with ⟨field, reported, twice⟩ | ⟨other, member, own⟩
          · refine .inl ⟨field, reported, ?_⟩
            rw [List.duplicate_iff_two_le_count] at twice ⊢
            rwa [List.map_cons, List.perm_middle.count_eq]
          · exact .inr ⟨other, List.mem_cons_of_mem _ member, own⟩

theorem against_of_attributesFault?
    (found : schema.attributesFault? type.name [] type.attributes = some fault) :
    schema.Against type fault ∧ ∀ name path, fault ≠ .cascadeCycle name path := by
  rcases attributesFault?_eq_some found with ⟨field, rfl, twice⟩ | ⟨declared, member, own⟩
  · exact ⟨.repeated twice, nofun⟩
  · exact against_of_attributeFault? member own

/-- Where the name is new and no attribute has a fault, only a cascading
reference of the declaration to itself can speak against it. -/
theorem Against.of_passed (against : schema.Against type fault)
    (fresh : schema.contains type.name = false)
    (passed : schema.attributesFault? type.name [] type.attributes = none) :
    fault = .cascadeCycle type.name [type.name, type.name] ∧ type.name ∈ type.cascadeTargets := by
  rcases attributesFault?_eq_none_iff.mp passed with ⟨distinct, -, sound⟩
  simp only [attributeFault?_eq_none_iff] at sound
  cases against with
  | registered present => cases fresh.symm.trans present
  | repeated twice => exact absurd distinct twice.not_nodup
  | uniqueFloat member unique float => exact absurd float ((sound _ member).1 unique)
  | cascadingValue member cascades plain => exact absurd plain ((sound _ member).2.1 cascades)
  | unknownTarget member leads foreign unknown =>
      rcases (sound _ member).2.2 _ leads with same | known
      · exact absurd same foreign
      · cases unknown.symm.trans known
  | cascadesToItself member cascades leads =>
      exact ⟨rfl, (mem_cascadeTargets_iff _ _).mpr ⟨_, member, cascades, leads⟩⟩

/-- What is reported of a declaration speaks against it. -/
theorem Layered.against_of_fault? (layered : schema.Layered) (found : schema.fault? type = some fault) :
    schema.Against type fault := by
  unfold fault? at found
  split at found
  · rename_i present
    cases found
    exact .registered present
  · rename_i fresh
    split at found
    · rename_i own
      cases found
      exact (against_of_attributesFault? own).1
    · rcases Option.map_eq_some_iff.mp found with ⟨path, cycle, rfl⟩
      rcases layered.cascadeCycle?_eq_some (by simpa using fresh) cycle with ⟨rfl, led⟩
      rcases (mem_cascadeTargets_iff _ _).mp led with ⟨declared, member, cascades, leads⟩
      exact .cascadesToItself member cascades leads

/-- A declaration without a fault has nothing against it. -/
theorem not_against_of_fault?_eq_none (passed : schema.fault? type = none) :
    ¬ schema.Against type fault := by
  intro against
  unfold fault? at passed
  split at passed
  · cases passed
  · rename_i fresh
    split at passed
    · cases passed
    · rename_i sound
      rcases against.of_passed (by simpa using fresh) sound with ⟨-, led⟩
      have cycle : (schema.cascadeCycle? type).isSome = true := isSome_cascadeCycle? led
      rw [Option.map_eq_none_iff.mp passed] at cycle
      cases cycle

/-- A cycle is reported when it is all that speaks against a declaration. -/
theorem Layered.fault?_eq_cycle_iff (layered : schema.Layered) (name : String) (path : List String) :
    schema.fault? type = some (.cascadeCycle name path) ↔
      schema.Against type (.cascadeCycle name path) ∧
        ∀ other, schema.Against type other → other = .cascadeCycle name path := by
  constructor
  · intro found
    have against := layered.against_of_fault? found
    refine ⟨against, fun other also => ?_⟩
    unfold fault? at found
    split at found
    · cases found
    · rename_i fresh
      split at found
      · rename_i own
        cases found
        exact absurd rfl ((against_of_attributesFault? own).2 name path)
      · rename_i passed
        rw [(also.of_passed (by simpa using fresh) passed).1,
          (against.of_passed (by simpa using fresh) passed).1]
  · rintro ⟨against, only⟩
    cases found : schema.fault? type with
    | none => exact absurd against (not_against_of_fault?_eq_none found)
    | some fault => rw [only fault (layered.against_of_fault? found)]

theorem fault?_of_contains (taken : schema.contains type.name = true) :
    schema.fault? type = some (.duplicateEntityType type.name) := by
  rw [fault?, if_pos taken]

/-- A declaration under a free name is accepted if its attributes are in order
and its cascading references lead to types that have none. -/
theorem fault?_eq_none_of_shallow (fresh : schema.contains type.name = false)
    (fields : (type.attributes.map (·.field)).Nodup)
    (sound : ∀ declared ∈ type.attributes, schema.attributeFault? type.name declared = none)
    (shallow : ∀ target ∈ type.cascadeTargets,
      target ≠ type.name ∧ schema.cascadeTargets target = []) :
    schema.fault? type = none := by
  have passed : schema.attributesFault? type.name [] type.attributes = none :=
    attributesFault?_eq_none_iff.mpr ⟨fields, by simp, sound⟩
  have acyclic : schema.cascadeCycle? type = none := by
    -- No trail is longer than the one step to a type that the declaration names.
    let kept (trail : Trail) : Prop := trail.current ∈ type.cascadeTargets
    refine Option.eq_none_iff_forall_ne_some.mpr fun path found => ?_
    have back : kept ⟨type.name, path⟩ := by
      refine of_searchCycle_eq_some (fun trail named target led => ?_) (fun trail waits => ?_) found
      · rw [(shallow _ named).2] at led
        cases led
      · rcases (mem_reverse_extend_iff _ _ _).mp waits with ⟨target, named, rfl⟩
        exact named
    exact (shallow _ back).1 rfl
  rw [fault?, fresh, if_neg Bool.false_ne_true, passed, acyclic]
  rfl

/-- A type without attributes needs a free name only. -/
theorem fault?_bare {name : String} (fresh : schema.contains name = false) :
    schema.fault? { name } = none :=
  fault?_eq_none_of_shallow fresh .nil (List.forall_mem_nil _) (List.forall_mem_nil _)

/-! ## Registration -/

theorem register_eq_error_iff (schema : Schema) (type : EntityType) (error : Error) :
    schema.register type = .error error ↔
      ∃ fault, schema.fault? type = some fault ∧ error = ErrorKind.schema fault := by
  unfold register
  cases schema.fault? type <;> simp [eq_comm]

theorem contains_register (done : schema.register type = .ok next) (name : String) :
    next.contains name = true ↔ schema.contains name = true ∨ type.name = name := by
  rw [contains, find?_register done]
  by_cases same : type.name = name <;> simp [same, contains]

/-- Registration leaves the places of the types that are there already. -/
theorem position_register_of_contains (done : schema.register type = .ok next) {name : String}
    (known : schema.contains name = true) : next.position name = schema.position name := by
  rcases register_eq_ok done with ⟨-, -, rfl⟩
  rw [contains_eq_true_iff] at known
  rw [position, List.findIdx_append, if_pos (by simpa using known), position]

/-- The place of a new type is the number of those before it. -/
theorem position_register_self (done : schema.register type = .ok next) :
    next.position type.name = schema.types.length := by
  rcases register_eq_ok done with ⟨fresh, -, rfl⟩
  rw [Bool.eq_false_iff, Ne, contains_eq_true_iff] at fresh
  rw [position, List.findIdx_append, if_neg (by simpa using fresh)]
  simp [List.findIdx_cons]

theorem position_lt_of_contains {name : String} (known : schema.contains name = true) :
    schema.position name < schema.types.length := by
  rw [contains_eq_true_iff] at known
  exact List.findIdx_lt_length.mpr (by simpa using known)

theorem Layered.register (layered : schema.Layered) (done : schema.register type = .ok next) :
    next.Layered := by
  have passed := ((register_eq_ok_iff schema next type).mp done).1
  rintro owner target ⟨declaration, member, rfl, declared, listed, cascades, leads⟩
  rw [types_register done] at member
  rcases List.mem_append.mp member with old | last
  · have known : schema.contains declaration.name = true :=
      (contains_eq_true_iff _ _).mpr ⟨declaration, old, rfl⟩
    rcases layered _ _ ⟨declaration, old, rfl, declared, listed, cascades, leads⟩ with
      ⟨targetKnown, earlier⟩
    rw [position_register_of_contains done known, position_register_of_contains done targetKnown]
    exact ⟨(contains_register done target).mpr (.inl targetKnown), earlier⟩
  · cases List.mem_singleton.mp last
    -- Had the target not been there before, something would speak against the declaration.
    have foreign : target ≠ type.name := by
      rintro rfl
      exact not_against_of_fault?_eq_none passed (.cascadesToItself listed cascades leads)
    have targetKnown : schema.contains target = true := by
      by_contra unknown
      exact not_against_of_fault?_eq_none passed
        (.unknownTarget listed leads foreign (by simpa using unknown))
    rw [position_register_self done, position_register_of_contains done targetKnown]
    exact ⟨(contains_register done target).mpr (.inl targetKnown),
      position_lt_of_contains targetKnown⟩

/-! ## Schemas made by registration -/

/-- The schema after a declaration has been offered to it.  A refused one leaves
it as it is. -/
def offer (schema : Schema) (type : EntityType) : Schema :=
  match schema.register type with
  | .ok next => next
  | .error _ => schema

/-- What registration keeps is kept by offers, taken or refused. -/
theorem offers_keep {kept : Schema → Prop}
    (step : ∀ {schema next : Schema} {type : EntityType}, kept schema →
      schema.register type = .ok next → kept next)
    (start : kept schema) (offers : List EntityType) : kept (offers.foldl offer schema) := by
  induction offers generalizing schema with
  | nil => exact start
  | cons type rest ih =>
      rw [List.foldl_cons]
      apply ih
      unfold offer
      split
      · exact step start ‹_›
      · exact start

/-- The offers that a schema takes, when they are made one after another. -/
def accepted (schema : Schema) : (offers : List EntityType) → List EntityType
  | [] => []
  | type :: rest =>
      match schema.register type with
      | .ok next => type :: next.accepted rest
      | .error _ => schema.accepted rest

/-- The offers that are taken become the registered types, in the order in which
they were made. -/
theorem types_offers (offers : List EntityType) (schema : Schema) :
    (offers.foldl offer schema).types = schema.types ++ schema.accepted offers := by
  induction offers generalizing schema with
  | nil => exact (List.append_nil _).symm
  | cons type rest ih =>
      rw [List.foldl_cons, ih]
      cases done : schema.register type with
      | error error => simp only [offer, accepted, done]
      | ok next =>
          simp only [offer, accepted, done, types_register done, List.append_assoc,
            List.singleton_append]

theorem accepted_sublist (offers : List EntityType) (schema : Schema) :
    (schema.accepted offers).Sublist offers := by
  induction offers generalizing schema with
  | nil => exact .slnil
  | cons type rest ih =>
      unfold accepted
      split
      · exact (ih _).cons_cons type
      · exact (ih schema).cons type

/-- The edges that lead to a type, in the order of registration and declaration. -/
def edgesTo (schema : Schema) (target : String) : List ReferenceEdge :=
  schema.types.flatMap fun type => type.attributes.filterMap (edge? type.name target)

/-- The table of incoming references lists the edges in their order. -/
def Tabulated (schema : Schema) : Prop :=
  ∀ target, schema.incomingReferences target = schema.edgesTo target

theorem tabulated_empty : Tabulated ∅ := by
  intro target
  change ((∅ : Std.ExtTreeMap String (List ReferenceEdge))[target]?).getD [] = []
  simp

theorem Tabulated.register (tabulated : schema.Tabulated) (done : schema.register type = .ok next) :
    next.Tabulated := by
  intro target
  rw [incomingReferences_register done, tabulated, edgesTo, edgesTo, types_register done,
    List.flatMap_append, List.flatMap_singleton]

/-- A declaration has been added to a schema.  It is the last of the types, its
name finds it, and its references are the last in the table. -/
structure Adds (schema : Schema) (type : EntityType) (next : Schema) : Prop where
  types : next.types = schema.types ++ [type]
  names : ∀ name, next.find? name = if type.name = name then some type else schema.find? name
  incoming : ∀ target, next.incomingReferences target =
    schema.incomingReferences target ++ type.attributes.filterMap (edge? type.name target)

theorem adds_register (done : schema.register type = .ok next) : schema.Adds type next where
  types := types_register done
  names := find?_register done
  incoming := incomingReferences_register done

/-- What there is to say of a schema that registration has made. -/
structure Registry (schema : Schema) : Prop where
  /-- What is not refused is added. -/
  accepts : ∀ type next, schema.register type = .ok next →
    schema.Adds type next ∧ schema.offer type = next
  refuses : ∀ type, (∃ error, schema.register type = .error error) ↔ ∃ fault, schema.Against type fault
  /-- What is reported speaks against the declaration, and nothing has changed. -/
  reports : ∀ type error, schema.register type = .error error →
    (∃ fault, error = ErrorKind.schema fault ∧ schema.Against type fault) ∧ schema.offer type = schema
  /-- A cycle is reported when it is all that speaks against the declaration. -/
  cycle : ∀ type name path,
    schema.register type = .error (ErrorKind.schema (.cascadeCycle name path)) ↔
      schema.Against type (.cascadeCycle name path) ∧
        ∀ other, schema.Against type other → other = .cascadeCycle name path
  acyclic : ∀ name, ¬ Relation.TransGen schema.Cascades name name
  incoming : ∀ target, schema.incomingReferences target = schema.edgesTo target

theorem Layered.registry (layered : schema.Layered) (tabulated : schema.Tabulated) :
    schema.Registry where
  accepts type next done := ⟨adds_register done, by rw [offer, done]⟩
  refuses type := by
    simp only [register_eq_error_iff]
    constructor
    · rintro ⟨error, fault, found, -⟩
      exact ⟨fault, layered.against_of_fault? found⟩
    · rintro ⟨fault, against⟩
      cases found : schema.fault? type with
      | none => exact absurd against (not_against_of_fault?_eq_none found)
      | some reported => exact ⟨_, reported, rfl, rfl⟩
  reports type error failed := by
    rcases (register_eq_error_iff schema type error).mp failed with ⟨fault, found, same⟩
    exact ⟨⟨fault, same, layered.against_of_fault? found⟩, by rw [offer, failed]⟩
  cycle type name path := by
    rw [register_eq_error_iff, ← layered.fault?_eq_cycle_iff]
    simp
  acyclic := layered.acyclic
  incoming := tabulated

/-- However declarations are offered to an empty schema, and whichever of them
are refused, the result is a registry of exactly those that were taken, in the
order of the offers. -/
theorem registry_of_offers (offers : List EntityType) :
    (offers.foldl offer ∅).Registry ∧
      (offers.foldl offer ∅).types = (∅ : Schema).accepted offers ∧
      (offers.foldl offer ∅).types.Sublist offers := by
  have layered := offers_keep Layered.register layered_empty offers
  have tabulated := offers_keep Tabulated.register tabulated_empty offers
  have taken : (offers.foldl offer ∅).types = (∅ : Schema).accepted offers := types_offers offers ∅
  exact ⟨layered.registry tabulated, taken, taken ▸ accepted_sublist offers ∅⟩

/-- A tree whose nodes would go with their parents. -/
example : (∅ : Schema).register
      { name := "Node", attributes := [{ field := "parent", kind := .reference "Node", cascade := true }] } =
    .error (ErrorKind.schema (.cascadeCycle "Node" ["Node", "Node"])) := by
  cbv

end Schema

end EntityBase
