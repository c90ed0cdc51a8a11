import EntityBase.Proofs.Store.Coherence
import EntityBase.Store.Delete

namespace EntityBase

/-!
# What a delete takes away

A delete leaves no reference behind.  The walk is closed under the cascading
references, since an entity is left only after everything that depends on it
has been entered.  The check that follows it is closed under the plain ones.
On a coherent store the index shows every reference of either sort, so nothing
that stays refers to anything that goes.

All of this holds for every arrangement of the index entries.  The order in
which they are walked decides the order of removal and nothing else.
-/

def CascadeStep.entity : CascadeStep → EntityId
  | .enter id => id
  | .leave id => id

namespace Store

variable {store next : Store} {arrangement : Arrangement} {id root : EntityId}
  {removed : List EntityId}

/-! ## Referrers -/

/-- The referrers of a live entity, as the index shows them. -/
theorem mem_referrers_iff (store : Store) (arrangement : Arrangement) (cascade : Bool)
    (target : EntityId) (referrer : Referrer) :
    referrer ∈ store.referrers arrangement cascade target ↔
      ∃ record, store.get? target = some record ∧
        ∃ edge ∈ store.schema.incomingReferences record.entityType, edge.cascade = cascade ∧
          referrer.owner ∈ store.index.find ⟨edge.owner, edge.field, .ref target⟩ ∧
          referrer.field = edge.field := by
  unfold referrers
  cases live : store.get? target with
  | none => simp
  | some record =>
      simp only [Option.some.injEq, exists_eq_left', List.mem_flatMap, List.mem_filter,
        decide_eq_true_eq, List.mem_map, and_assoc]
      constructor
      · rintro ⟨edge, listed, flagged, owner, member, rfl⟩
        refine ⟨edge, listed, flagged, ?_, rfl⟩
        exact Std.ExtTreeSet.mem_toList.mp ((arrangement.perm _ _).mem_iff.mp member)
      · rintro ⟨edge, listed, flagged, member, named⟩
        refine ⟨edge, listed, flagged, referrer.owner, ?_, ?_⟩
        · exact (arrangement.perm _ _).mem_iff.mpr (Std.ExtTreeSet.mem_toList.mpr member)
        · cases referrer
          exact congrArg (Referrer.mk _) named.symm

/-- On a coherent store, whoever refers to a live entity is among its
referrers, under the flag of the attribute. -/
theorem Coherent.mem_referrers (coherent : store.Coherent) (arrangement : Arrangement)
    {target : EntityId} {record referenced : Record} {type : EntityType} {declared : Attribute}
    (live : store.get? id = some record) (found : store.schema.find? record.entityType = some type)
    (member : declared ∈ type.attributes) (led : declared.target? = some referenced.entityType)
    (held : record.attributes[declared.field]? = some (.ref target))
    (targetLive : store.get? target = some referenced) :
    ⟨id, declared.field⟩ ∈ store.referrers arrangement declared.cascade target := by
  rcases coherent.edge_of_reference live found member led held with ⟨listed, indexed⟩
  rw [mem_referrers_iff]
  exact ⟨referenced, targetLive, _, listed, rfl, indexed, rfl⟩

/-- Whatever depends on an entity stands somewhere in the index. -/
theorem mem_members_of_mem_dependents {dependent : EntityId}
    (depends : dependent ∈ store.dependents arrangement id) : dependent ∈ store.index.members := by
  rcases List.mem_map.mp depends with ⟨referrer, listed, rfl⟩
  rcases (mem_referrers_iff _ _ _ _ _).mp listed with ⟨record, -, edge, -, -, member, -⟩
  exact Index.mem_members_iff.mpr ⟨_, member⟩

/-- What depends on an entity does not depend on the arrangement. -/
theorem mem_dependents_congr (first second : Arrangement) {dependent : EntityId}
    (depends : dependent ∈ store.dependents first id) : dependent ∈ store.dependents second id := by
  rcases List.mem_map.mp depends with ⟨referrer, listed, rfl⟩
  refine List.mem_map.mpr ⟨referrer, ?_, rfl⟩
  rw [mem_referrers_iff] at listed ⊢
  exact listed

/-! ## The walk -/

variable {unvisited : EntitySet} {stack : List CascadeStep}

/-- Every entity that waits to be left is left. -/
theorem mem_walk_of_leave (waits : .leave id ∈ stack) :
    id ∈ store.walk arrangement unvisited stack := by
  fun_induction walk store arrangement unvisited stack with
  | case1 unvisited => cases waits
  | case2 unvisited first rest ih =>
      rcases List.mem_cons.mp waits with same | later
      · cases same
        exact List.mem_cons_self
      · exact List.mem_cons_of_mem _ (ih later)
  | case3 unvisited entered rest unseen remaining waiting ih =>
      rcases List.mem_cons.mp waits with same | later
      · cases same
      · exact ih (List.mem_append_right _ (List.mem_cons_of_mem _ later))
  | case4 unvisited entered rest seen ih =>
      rcases List.mem_cons.mp waits with same | later
      · cases same
      · exact ih later

/-- Every entity that waits to be entered, and has not been before, is
entered and left. -/
theorem mem_walk_of_enter (waits : .enter id ∈ stack) (unseen : id ∈ unvisited) :
    id ∈ store.walk arrangement unvisited stack := by
  fun_induction walk store arrangement unvisited stack with
  | case1 unvisited => cases waits
  | case2 unvisited first rest ih =>
      rcases List.mem_cons.mp waits with same | later
      · cases same
      · exact List.mem_cons_of_mem _ (ih later unseen)
  | case3 unvisited entered rest _ remaining waiting ih =>
      by_cases same : entered = id
      · subst same
        exact mem_walk_of_leave (List.mem_append_right _ List.mem_cons_self)
      · apply ih
        · rcases List.mem_cons.mp waits with first | later
          · cases first
            exact absurd rfl same
          · exact List.mem_append_right _ (List.mem_cons_of_mem _ later)
        · exact Std.ExtTreeSet.mem_erase.mpr ⟨by simpa using same, unseen⟩
  | case4 unvisited entered rest seen ih =>
      rcases List.mem_cons.mp waits with same | later
      · cases same
        exact absurd unseen seen
      · exact ih later unseen

/-- An entity that the walk enters brings everything that depends on it.
What had been entered before the walk began is not its concern. -/
theorem walk_closed {dependent : EntityId} (listed : id ∈ store.walk arrangement unvisited stack)
    (unseen : id ∈ unvisited) (depends : dependent ∈ store.dependents arrangement id)
    (dependentUnseen : dependent ∈ unvisited) (notLeaving : .leave id ∉ stack) :
    dependent ∈ store.walk arrangement unvisited stack := by
  fun_induction walk store arrangement unvisited stack with
  | case1 unvisited => cases listed
  | case2 unvisited first rest ih =>
      rcases not_or.mp (mt List.mem_cons.mpr notLeaving) with ⟨different, notLater⟩
      rcases List.mem_cons.mp listed with same | later
      · exact absurd (congrArg CascadeStep.leave same) different
      · exact List.mem_cons_of_mem _ (ih later unseen dependentUnseen notLater)
  | case3 unvisited entered rest _ remaining waiting ih =>
      by_cases same : entered = dependent
      · subst same
        exact mem_walk_of_leave (List.mem_append_right _ List.mem_cons_self)
      · have dependentRemains : dependent ∈ remaining :=
          Std.ExtTreeSet.mem_erase.mpr ⟨by simpa using same, dependentUnseen⟩
        -- What is entered now has its dependents put on the stack; anything else
        -- is entered further on, since it does not wait to be left.
        by_cases isEntered : entered = id
        · subst isEntered
          apply mem_walk_of_enter _ dependentRemains
          apply List.mem_append_left
          rw [List.mem_map]
          refine ⟨dependent, List.mem_reverse.mpr (List.mem_filter.mpr ⟨depends, ?_⟩), rfl⟩
          exact decide_eq_true dependentRemains
        · apply ih listed (Std.ExtTreeSet.mem_erase.mpr ⟨by simpa using isEntered, unseen⟩)
            dependentRemains
          intro leaves
          rcases List.mem_append.mp leaves with entering | leaving
          · rcases List.mem_map.mp entering with ⟨other, -, impossible⟩
            cases impossible
          · rcases List.mem_cons.mp leaving with first | later
            · cases first
              exact isEntered rfl
            · exact notLeaving (List.mem_cons_of_mem _ later)
  | case4 unvisited entered rest seen ih =>
      exact ih listed unseen dependentUnseen fun later => notLeaving (List.mem_cons_of_mem _ later)

/-- The walk leaves only entities that were waiting for it or not yet
entered. -/
theorem mem_of_mem_walk (listed : id ∈ store.walk arrangement unvisited stack) :
    id ∈ unvisited ∨ .leave id ∈ stack := by
  fun_induction walk store arrangement unvisited stack with
  | case1 unvisited => cases listed
  | case2 unvisited first rest ih =>
      rcases List.mem_cons.mp listed with same | later
      · exact Or.inr (same ▸ List.mem_cons_self)
      · exact (ih later).imp_right (List.mem_cons_of_mem _)
  | case3 unvisited entered rest unseen remaining waiting ih =>
      rcases ih listed with remains | leaves
      · exact Or.inl (Std.ExtTreeSet.mem_of_mem_erase remains)
      · rcases List.mem_append.mp leaves with entering | leaving
        · rcases List.mem_map.mp entering with ⟨other, -, impossible⟩
          cases impossible
        · rcases List.mem_cons.mp leaving with first | later
          · cases first
            exact Or.inl unseen
          · exact Or.inr (List.mem_cons_of_mem _ later)
  | case4 unvisited entered rest seen ih =>
      exact (ih listed).imp_right (List.mem_cons_of_mem _)

/-- The walk stays within whatever has all that waits and is closed under
dependence. -/
theorem mem_walk_of_closed {doomed : EntityId → Prop}
    (waits : ∀ step ∈ stack, doomed step.entity)
    (closed : ∀ target dependent, doomed target →
      dependent ∈ store.dependents arrangement target → doomed dependent)
    (listed : id ∈ store.walk arrangement unvisited stack) : doomed id := by
  fun_induction walk store arrangement unvisited stack with
  | case1 unvisited => cases listed
  | case2 unvisited left rest ih =>
      rcases List.forall_mem_cons.mp waits with ⟨first, others⟩
      rcases List.mem_cons.mp listed with same | later
      · exact same ▸ first
      · exact ih others later
  | case3 unvisited entered rest unseen remaining waiting ih =>
      rcases List.forall_mem_cons.mp waits with ⟨first, others⟩
      apply ih _ listed
      intro step member
      rcases List.mem_append.mp member with entering | leaving
      · rcases List.mem_map.mp entering with ⟨dependent, reversed, rfl⟩
        exact closed entered dependent first (List.mem_of_mem_filter (List.mem_reverse.mp reversed))
      · rcases List.mem_cons.mp leaving with same | later
        · exact same ▸ first
        · exact others step later
  | case4 unvisited entered rest seen ih =>
      exact ih (List.forall_mem_cons.mp waits).2 listed

/-! ## The doomed entities -/

theorem root_mem_cascadeOrder (store : Store) (arrangement : Arrangement) (root : EntityId) :
    root ∈ store.cascadeOrder arrangement root :=
  mem_walk_of_enter List.mem_cons_self Std.ExtTreeSet.mem_insert_self

/-- The entities that a delete removes are closed under dependence. -/
theorem cascadeOrder_closed {dependent : EntityId} (doomed : id ∈ store.cascadeOrder arrangement root)
    (depends : dependent ∈ store.dependents arrangement id) :
    dependent ∈ store.cascadeOrder arrangement root := by
  have known : dependent ∈ store.index.members.insert root :=
    Std.ExtTreeSet.mem_insert.mpr (Or.inr (mem_members_of_mem_dependents depends))
  rcases mem_of_mem_walk doomed with unseen | leaving
  · exact walk_closed doomed unseen depends known (by simp)
  · simp at leaving

/-- They are the least such set with the entity that was asked for. -/
theorem cascadeOrder_least {doomed : EntityId → Prop} (asked : doomed root)
    (closed : ∀ target dependent, doomed target →
      dependent ∈ store.dependents arrangement target → doomed dependent)
    (listed : id ∈ store.cascadeOrder arrangement root) : doomed id := by
  apply mem_walk_of_closed _ closed listed
  intro step waits
  rw [List.mem_singleton.mp waits]
  exact asked

/-- Which entities are removed does not depend on the arrangement. -/
theorem mem_cascadeOrder_congr (first second : Arrangement)
    (listed : id ∈ store.cascadeOrder first root) : id ∈ store.cascadeOrder second root :=
  cascadeOrder_least (root_mem_cascadeOrder store second root)
    (fun _ _ doomed depends => cascadeOrder_closed doomed (mem_dependents_congr first second depends))
    listed

/-- No plain reference protects a list when the plain referrers of its members
are members. -/
theorem protection?_eq_none_iff {doomed : List EntityId} :
    store.protection? arrangement doomed = none ↔
      ∀ victim ∈ doomed, ∀ referrer ∈ store.referrers arrangement false victim,
        referrer.owner ∈ doomed := by
  simp [protection?, List.findSome?_eq_none_iff]

end Store

end EntityBase
