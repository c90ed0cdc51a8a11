import EntityBase.Proofs.Store.Creation
import EntityBase.Proofs.Store.References

namespace EntityBase

/-!
# Repeating a write on another snapshot

A write that one snapshot has accepted is offered to another that agrees with
it.  The checks are made again there, so it may be refused.  The statements
here say what is enough for it to be accepted.

A creation needs its references to lead to entities that are still live, and
its unique values not to be held by entities that only the second snapshot has.
A deletion needs its target to be live, and no such newcomer may refer to what
it removes.  It then removes from the second snapshot what it has removed from
the first, as far as that is there, and nothing else.
-/

theorem mem_of_getElem?_foldl_insert {supplied : List (String × Value)} {field : String}
    {value : Value} {collected : Std.ExtTreeMap String Value}
    (held : (supplied.foldl (fun collected pair => collected.insert pair.1 pair.2)
      collected)[field]? = some value) :
    collected[field]? = some value ∨ (field, value) ∈ supplied := by
  induction supplied generalizing collected with
  | nil => exact Or.inl held
  | cons pair rest ih =>
      rcases ih held with inserted | later
      · rw [Std.ExtTreeMap.getElem?_insert] at inserted
        split at inserted
        · rename_i same
          cases inserted
          cases Std.LawfulEqOrd.eq_of_compare same
          exact Or.inr List.mem_cons_self
        · exact Or.inl inserted
      · exact Or.inr (List.mem_cons_of_mem _ later)

/-- What a draft holds has been supplied. -/
theorem mem_of_getElem?_assemble {supplied : List (String × Value)} {field : String} {value : Value}
    (held : (assemble supplied)[field]? = some value) : (field, value) ∈ supplied := by
  rcases mem_of_getElem?_foldl_insert held with absent | member
  · simp at absent
  · exact member

namespace Store

variable {first second next : Store} {type : EntityType} {entityType : String}
  {supplied : List (String × Value)} {draft : Draft} {id : EntityId}

/-! ## Creations -/

/-- The supplied pairs pass on a second snapshot if their values still fit. -/
theorem collect_of_fits {collected result : Std.ExtTreeMap String Value}
    (done : first.collect type collected supplied = .ok result)
    (fits : ∀ (field : String) (value : Value) (declared : Attribute),
      type.attribute? field = some declared → (field, value) ∈ supplied →
      first.Fits declared value → second.Fits declared value) :
    second.collect type collected supplied = .ok result := by
  induction supplied generalizing collected with
  | nil => exact done
  | cons pair rest ih =>
      rcases pair with ⟨field, value⟩
      rw [collect, Outcome.bind_eq_ok_iff] at done ⊢
      rcases done with ⟨declared, known, done⟩
      refine ⟨declared, known, ?_⟩
      split at done
      · cases done
      · rename_i single
        rw [if_neg single]
        rw [Outcome.bind_eq_ok_iff] at done ⊢
        rcases done with ⟨⟨⟩, checked, done⟩
        rw [checkValue_eq_ok_iff] at checked
        have kept := fits field value declared (attributeOf_eq_ok_iff.mp known) List.mem_cons_self
          checked
        refine ⟨(), (checkValue_eq_ok_iff _ _ _ _).mpr kept, ih done ?_⟩
        exact fun other content declared known member =>
          fits other content declared known (List.mem_cons_of_mem _ member)

/-- Whatever holds a value of a creation in a unique attribute on the second
snapshot is not among the entities that only this one has. -/
def NoRival (first second : Store) (entityType : String) (supplied : List (String × Value)) :
    Prop :=
  ∀ (newcomer : EntityId) (record : Record) (type : EntityType) (declared : Attribute)
    (value : Value), second.get? newcomer = some record → first.contains newcomer = false →
    record.entityType = entityType → second.schema.find? entityType = some type →
    declared ∈ type.attributes → declared.unique = true →
    record.attributes[declared.field]? = some value → (declared.field, value) ∉ supplied

/-- The entities that a creation refers to are live on another snapshot. -/
def KeepsReferences (first second : Store) (entityType : String)
    (supplied : List (String × Value)) : Prop :=
  ∀ (type : EntityType) (declared : Attribute) (target : EntityId),
    first.schema.find? entityType = some type → declared ∈ type.attributes →
    declared.target?.isSome = true → (declared.field, Value.ref target) ∈ supplied →
    first.contains target = true → second.contains target = true

section Creations

variable (coherent : first.Coherent) (alsoCoherent : second.Coherent)
  (agrees : first.Agrees second) (grows : second.schema.Extends first.schema)
include coherent alsoCoherent agrees grows

/-- A value that nobody held before is held by no newcomer either. -/
theorem Coherent.untaken_of_agrees {type : EntityType} {declared : Attribute} {value : Value}
    (noRival : first.NoRival second entityType supplied)
    (declaration : first.schema.find? entityType = some type) (member : declared ∈ type.attributes)
    (unique : declared.unique = true) (asked : (declared.field, value) ∈ supplied)
    (untaken : first.index.find ⟨entityType, declared.field, value⟩ = ∅) :
    second.index.find ⟨entityType, declared.field, value⟩ = ∅ := by
  have found := grows entityType type declaration
  apply Std.ExtTreeSet.ext_mem
  intro holder
  refine ⟨fun listed => ?_, fun listed => absurd listed Std.ExtTreeSet.not_mem_empty⟩
  rw [alsoCoherent.indexed] at listed
  rcases listed with ⟨record, -, -, live, typed, -, -, -, -, holds⟩
  cases old : first.contains holder with
  | false =>
      exact (noRival holder record type declared value live old typed found member unique holds
        asked).elim
  | true =>
      have before := agrees.symm.get?_eq live old
      rw [← untaken, coherent.indexed]
      exact ⟨record, type, declared, before, typed, declaration, member, rfl,
        by simp [Attribute.isIndexed, unique], holds⟩

theorem Coherent.draft_of_agrees
    (present : first.KeepsReferences second entityType supplied)
    (noRival : first.NoRival second entityType supplied)
    (passed : first.draft entityType supplied = .ok draft) :
    second.draft entityType supplied = .ok draft := by
  rw [Store.draft, Outcome.bind_eq_ok_iff] at passed
  rcases passed with ⟨type, declaration, passed⟩
  rw [declaration_eq_ok_iff] at declaration
  rcases (coherent.schema.find?_eq_some_iff entityType type).mp declaration with ⟨registered, named⟩
  rw [Outcome.bind_eq_ok_iff] at passed
  rcases passed with ⟨collected, supplies, passed⟩
  rw [Outcome.bind_eq_ok_iff] at passed
  rcases passed with ⟨⟨⟩, checks, result⟩
  have found := grows entityType type declaration
  have assembled : collected = assemble supplied := (collect_eq_ok supplies).1
  rw [Store.draft, Outcome.bind_eq_ok_iff]
  refine ⟨type, declaration_eq_ok_iff.mpr found, ?_⟩
  rw [Outcome.bind_eq_ok_iff]
  refine ⟨collected, collect_of_fits supplies ?_, ?_⟩
  · intro field value declared known member fits
    rcases (coherent.schema.attribute?_eq_some_iff registered field declared).mp known with
      ⟨declares, rfl⟩
    apply fits.of_kept
    rintro target record rfl leads live
    have refers : declared.target?.isSome = true := by rw [leads]; rfl
    have targetLive := (contains_eq_true_iff first target).mpr ⟨record, live⟩
    exact agrees.get?_eq live (present type declared target declaration declares refers member
      targetLive)
  · rw [Outcome.bind_eq_ok_iff]
    refine ⟨(), Outcome.forM_eq_ok_iff.mpr fun declared member => ?_, result⟩
    rcases checkDeclared_eq_ok_iff.mp (Outcome.forM_eq_ok_iff.mp checks declared member) with
      ⟨value, held, untaken⟩
    have asked := mem_of_getElem?_assemble (assembled ▸ held)
    refine checkDeclared_eq_ok_iff.mpr ⟨value, held, fun unique => ?_⟩
    exact named ▸ coherent.untaken_of_agrees alsoCoherent agrees grows noRival declaration member
      unique asked (named.symm ▸ untaken unique)

theorem Coherent.insert_of_agrees (free : second.get? id = none)
    (present : first.KeepsReferences second entityType supplied)
    (noRival : first.NoRival second entityType supplied)
    (done : first.insert id entityType supplied = .ok next) :
    ∃ later, second.insert id entityType supplied = .ok later := by
  rcases insert_eq_ok_iff.mp done with ⟨-, draft, passed, -⟩
  have repeated := coherent.draft_of_agrees alsoCoherent agrees grows present noRival passed
  exact ⟨_, insert_eq_ok_iff.mpr ⟨free, draft, repeated, rfl⟩⟩

end Creations

/-! ## Deletions -/

/-- No newcomer refers to what a deletion removes. -/
def OutOfReach (first second : Store) (id : EntityId) : Prop :=
  ∀ (newcomer target : EntityId) (cascade : Bool), first.contains newcomer = false →
    second.Refers cascade newcomer target → first.contains target = true →
    ¬ first.Depends target id

section Deletions

variable (coherent : first.Coherent) (alsoCoherent : second.Coherent)
  (agrees : first.Agrees second) (live : first.contains id = true)
  (outOfReach : first.OutOfReach second id)
include coherent agrees live outOfReach

/-- What depends on the target is no newcomer, and depended on it before. -/
theorem Coherent.depends_of_agrees {other : EntityId} (depends : second.Depends other id) :
    first.contains other = true ∧ first.Depends other id := by
  induction depends using Relation.ReflTransGen.head_induction_on with
  | refl => exact ⟨live, .refl⟩
  | @head owner target refers _ ih =>
      rcases ih with ⟨targetLive, depended⟩
      cases old : first.contains owner with
      | false => exact (outOfReach owner target true old refers targetLive depended).elim
      | true => exact ⟨rfl, .head (agrees.symm.refers coherent old refers) depended⟩

include alsoCoherent

theorem Coherent.delete_of_agrees (alsoLive : second.contains id = true) {removed : List EntityId}
    (done : first.delete id = .ok (next, removed)) :
    ∃ later others, second.delete id = .ok (later, others) := by
  rcases (coherent.exists_deleteArranged_iff .ascending).mp ⟨next, removed, done⟩ with
    ⟨-, unprotected⟩
  refine (alsoCoherent.exists_deleteArranged_iff .ascending).mpr ⟨alsoLive, ?_⟩
  intro owner victim depends refers
  rcases coherent.depends_of_agrees agrees live outOfReach depends with ⟨victimLive, depended⟩
  cases old : first.contains owner with
  | false => exact (outOfReach owner victim false old refers victimLive depended).elim
  | true =>
      have before := agrees.symm.refers coherent old refers
      exact (agrees.depends alsoCoherent (contains_owner refers)
        (unprotected owner victim depended before)).1

/-- The second deletion removes what the first has removed, as far as it is
there. -/
theorem Coherent.depends_iff_of_agrees {other : EntityId} (there : second.contains other = true) :
    second.Depends other id ↔ first.contains other = true ∧ first.Depends other id := by
  constructor
  · exact coherent.depends_of_agrees agrees live outOfReach
  · exact fun ⟨_, depended⟩ => (agrees.depends alsoCoherent there depended).1

end Deletions

end Store

end EntityBase
