import EntityBase.Proofs.Schema.Acceptance
import Mathlib.Data.List.Chain
import Mathlib.Data.List.Flatten

namespace EntityBase

/-!
# The search for a cycle

Registration never lets cascading references form a cycle, so the search for
one meets none among the registered types.  It does not count on that.  On any
schema, with whatever cycles there are in it, the search finds a way from a
declaration back to its own name if there is one, and finds nothing otherwise.

A type may wait on the stack more than once, with a different path each time,
and only the first of these trails to be taken is followed.  No way back is
lost with the others.  One that passes through a type can be cut short to begin
where it leaves the type for the last time, and from there it does not need the
type again.

The search as it is defined ends because the types that it has yet to pass
through become fewer.  A search that only notes which types it has reached, and
takes a turn for each trail on its stack, does not know of such a bound.  It
ends all the same, with the same answer, and each cascading reference costs it
one turn at most.
-/

/-- A declaration has a cascading reference to a type. -/
def EntityType.CascadesTo (type : EntityType) (target : String) : Prop :=
  ∃ declared ∈ type.attributes, declared.cascade = true ∧ declared.target? = some target

namespace Schema

variable {schema : Schema} {type : EntityType} {start name owner target : String}
  {unvisited path : List String} {stack : List Trail} {trail : Trail}

/-- What is registered under a name has a cascading reference to a type. -/
def Links (schema : Schema) (owner target : String) : Prop :=
  ∃ type, schema.find? owner = some type ∧ type.CascadesTo target

theorem mem_cascadeTargets_iff_links (schema : Schema) (owner target : String) :
    target ∈ schema.cascadeTargets owner ↔ schema.Links owner target := by
  unfold cascadeTargets Links
  cases found : schema.find? owner with
  | none => simp
  | some type =>
      rw [mem_cascadeTargets_iff]
      simp [EntityType.CascadesTo]

theorem Links.contains (links : schema.Links owner target) : schema.contains owner = true := by
  rcases links with ⟨type, found, -⟩
  rw [Schema.contains, found]
  rfl

theorem mem_names_iff (schema : Schema) (name : String) :
    name ∈ schema.types.map (·.name) ↔ schema.contains name = true := by
  rw [contains_eq_true_iff, List.mem_map]

theorem mem_without_iff (names : List String) (name other : String) :
    other ∈ without names name ↔ other ∈ names ∧ other ≠ name := by
  simp [without]

/-! ## Paths -/

/-- A path from a declaration to a type.  Its first step is a cascading reference
of the declaration, and the others are those of registered types. -/
def LeadsTo (schema : Schema) (type : EntityType) (path : List String) (target : String) : Prop :=
  ∃ first rest, path = type.name :: first :: rest ∧ type.CascadesTo first ∧
    List.IsChain schema.Links (first :: rest) ∧ (first :: rest).getLast? = some target

theorem leadsTo_single (cascades : type.CascadesTo target) :
    schema.LeadsTo type [type.name, target] target :=
  ⟨target, [], rfl, cascades, List.isChain_singleton target, rfl⟩

theorem LeadsTo.concat (leads : schema.LeadsTo type path owner) (links : schema.Links owner target) :
    schema.LeadsTo type (path ++ [target]) target := by
  rcases leads with ⟨first, rest, rfl, cascades, chain, last⟩
  refine ⟨first, rest ++ [target], rfl, cascades, ?_, List.getLast?_concat (l := first :: rest)⟩
  refine chain.append (List.isChain_singleton target) fun other final next begun => ?_
  rw [last] at final
  cases final
  cases begun
  exact links

/-- What the search returns is a path back to the declaration. -/
theorem leadsTo_of_cascadeCycle? (found : schema.cascadeCycle? type = some path) :
    schema.LeadsTo type path type.name := by
  let kept (trail : Trail) : Prop := schema.LeadsTo type trail.path trail.current
  have extended : ∀ trail, kept trail → ∀ target ∈ schema.cascadeTargets trail.current,
      kept ⟨target, trail.path ++ [target]⟩ := by
    intro trail leads target led
    exact leads.concat ((mem_cascadeTargets_iff_links _ _ _).mp led)
  refine of_searchCycle_eq_some extended (fun trail waits => ?_) found
  rcases (mem_reverse_extend_iff _ _ _).mp waits with ⟨target, led, rfl⟩
  exact leadsTo_single ((mem_cascadeTargets_iff _ _).mp led)

/-- The types that a trail has passed through are no longer to be visited, and
it has passed through each of them once. -/
def Trail.Direct (trail : Trail) (start : String) (unvisited : List String) : Prop :=
  ∃ passed, trail.path = start :: (passed ++ [trail.current]) ∧ passed.Nodup ∧
    ∀ name ∈ passed, name ≠ start ∧ name ∉ unvisited

theorem Trail.Direct.without (direct : trail.Direct start unvisited) (name : String) :
    trail.Direct start (Schema.without unvisited name) := by
  rcases direct with ⟨passed, path, once, spent⟩
  refine ⟨passed, path, once, fun other member => ⟨(spent other member).1, fun unseen => ?_⟩⟩
  exact (spent other member).2 ((mem_without_iff _ _ _).mp unseen).1

/-- Passing through a type that is still to be visited keeps a trail direct. -/
theorem Trail.Direct.extend (direct : trail.Direct start unvisited)
    (elsewhere : trail.current ≠ start) (unseen : trail.current ∈ unvisited) (target : String) :
    Trail.Direct ⟨target, trail.path ++ [target]⟩ start (Schema.without unvisited trail.current) := by
  rcases direct with ⟨passed, path, once, spent⟩
  have fresh : trail.current ∉ passed := fun member => (spent _ member).2 unseen
  refine ⟨passed ++ [trail.current], by rw [path]; rfl, ?_, ?_⟩
  · rw [← List.concat_eq_append]
    exact once.concat fresh
  · intro name member
    rw [mem_without_iff]
    rcases List.mem_append.mp member with before | last
    · exact ⟨(spent name before).1, fun left => (spent name before).2 left.1⟩
    · cases List.mem_singleton.mp last
      exact ⟨elsewhere, fun left => left.2 rfl⟩

/-- Direct trails lead to a path that only comes back to where it began. -/
theorem nodup_tail_of_searchCycle (direct : ∀ trail ∈ stack, trail.Direct start unvisited)
    (found : schema.searchCycle start unvisited stack = some path) : path.tail.Nodup := by
  fun_induction searchCycle schema start unvisited stack with
  | case1 unvisited => cases found
  | case2 unvisited trail rest returned =>
      cases found
      rcases direct trail List.mem_cons_self with ⟨passed, path, once, spent⟩
      have between : start ∉ passed := fun member => (spent _ member).1 rfl
      rw [path, List.tail_cons, returned, ← List.concat_eq_append]
      exact once.concat between
  | case3 unvisited trail rest elsewhere unseen ih =>
      refine ih (fun other member => ?_) found
      rcases List.forall_mem_cons.mp direct with ⟨first, others⟩
      rcases List.mem_append.mp member with further | later
      · rcases (mem_reverse_extend_iff _ _ _).mp further with ⟨target, -, rfl⟩
        exact first.extend elsewhere unseen target
      · exact (others other later).without trail.current
  | case4 unvisited trail rest elsewhere seen ih =>
      exact ih (List.forall_mem_cons.mp direct).2 found

theorem nodup_tail_of_cascadeCycle? (found : schema.cascadeCycle? type = some path) :
    path.tail.Nodup := by
  refine nodup_tail_of_searchCycle (fun trail waits => ?_) found
  rcases (mem_reverse_extend_iff _ _ _).mp waits with ⟨target, -, rfl⟩
  exact ⟨[], rfl, List.nodup_nil, nofun⟩

/-! ## Ways back -/

/-- From a type, a way along cascading references to `start` that goes on from
unvisited types only. -/
inductive WayBack (schema : Schema) (start : String) (unvisited : List String) : String → Prop where
  | here : WayBack schema start unvisited start
  | along {owner target : String} (unseen : owner ∈ unvisited) (links : schema.Links owner target)
      (further : WayBack schema start unvisited target) : WayBack schema start unvisited owner

namespace WayBack

theorem of_without (back : schema.WayBack start (without unvisited name) owner) :
    schema.WayBack start unvisited owner := by
  induction back with
  | here => exact .here
  | along unseen links _ ih => exact .along ((mem_without_iff _ _ _).mp unseen).1 links ih

/-- A way back does without a type, or it does so from where it leaves the type
for the last time. -/
theorem without_or (back : schema.WayBack start unvisited owner) (name : String) :
    schema.WayBack start (without unvisited name) owner ∨
      ∃ target, schema.Links name target ∧ schema.WayBack start (without unvisited name) target := by
  induction back with
  | here => exact .inl .here
  | @along owner target unseen links further ih =>
      rcases ih with clear | passes
      · by_cases same : owner = name
        · exact .inr ⟨target, same ▸ links, clear⟩
        · exact .inl (.along ((mem_without_iff _ _ _).mpr ⟨unseen, same⟩) links clear)
      · exact .inr passes

theorem eq_or_mem (back : schema.WayBack start unvisited owner) : owner = start ∨ owner ∈ unvisited := by
  cases back with
  | here => exact .inl rfl
  | along unseen _ _ => exact .inr unseen

end WayBack

/-- Before any type has been visited, every chain of cascading references is a way
back. -/
theorem wayBack_names_iff (schema : Schema) (start name : String) :
    schema.WayBack start (schema.types.map (·.name)) name ↔
      Relation.ReflTransGen schema.Links name start := by
  constructor
  · intro back
    induction back with
    | here => exact .refl
    | along _ links _ ih => exact .head links ih
  · intro chain
    induction chain using Relation.ReflTransGen.head_induction_on with
    | refl => exact .here
    | head links _ ih => exact .along ((mem_names_iff _ _).mpr links.contains) links ih

/-- The search finds a way back exactly when there is one from a type that waits
on the stack. -/
theorem isSome_searchCycle_iff (schema : Schema) (start : String) (unvisited : List String)
    (stack : List Trail) :
    (schema.searchCycle start unvisited stack).isSome = true ↔
      ∃ trail ∈ stack, schema.WayBack start unvisited trail.current := by
  fun_induction searchCycle schema start unvisited stack with
  | case1 unvisited => simp
  | case2 unvisited trail rest returned =>
      simp only [Option.isSome_some, List.mem_cons, true_iff]
      exact ⟨trail, .inl rfl, returned ▸ .here⟩
  | case3 unvisited trail rest elsewhere unseen ih =>
      rw [ih]
      constructor
      · rintro ⟨other, member, back⟩
        rcases List.mem_append.mp member with further | later
        · rcases (mem_reverse_extend_iff _ _ _).mp further with ⟨target, led, rfl⟩
          have links := (mem_cascadeTargets_iff_links _ _ _).mp led
          exact ⟨trail, List.mem_cons_self, .along unseen links back.of_without⟩
        · exact ⟨other, List.mem_cons_of_mem _ later, back.of_without⟩
      · rintro ⟨other, member, back⟩
        rcases back.without_or trail.current with clear | ⟨target, links, clear⟩
        · rcases List.mem_cons.mp member with rfl | later
          · -- A way back from the type itself begins by leaving it.
            rcases clear.eq_or_mem with same | left
            · exact absurd same elsewhere
            · exact absurd rfl ((mem_without_iff _ _ _).mp left).2
          · exact ⟨other, List.mem_append_right _ later, clear⟩
        · have led := (mem_cascadeTargets_iff_links _ _ _).mpr links
          have waits := (mem_reverse_extend_iff trail _ _).mpr ⟨target, led, rfl⟩
          exact ⟨_, List.mem_append_left _ waits, clear⟩
  | case4 unvisited trail rest elsewhere seen ih =>
      rw [ih]
      constructor
      · rintro ⟨other, later, back⟩
        exact ⟨other, List.mem_cons_of_mem _ later, back⟩
      · rintro ⟨other, member, back⟩
        rcases List.mem_cons.mp member with rfl | later
        · rcases back.eq_or_mem with same | unseen
          · exact absurd same elsewhere
          · exact absurd unseen seen
        · exact ⟨other, later, back⟩

theorem isSome_cascadeCycle?_iff (schema : Schema) (type : EntityType) :
    (schema.cascadeCycle? type).isSome = true ↔
      ∃ first, type.CascadesTo first ∧ Relation.ReflTransGen schema.Links first type.name := by
  rw [cascadeCycle?, isSome_searchCycle_iff]
  simp only [wayBack_names_iff]
  constructor
  · rintro ⟨trail, waits, chain⟩
    rcases (mem_reverse_extend_iff _ _ _).mp waits with ⟨first, led, rfl⟩
    exact ⟨first, (mem_cascadeTargets_iff _ _).mp led, chain⟩
  · rintro ⟨first, cascades, chain⟩
    have led := (mem_cascadeTargets_iff _ _).mpr cascades
    exact ⟨_, (mem_reverse_extend_iff _ _ _).mpr ⟨first, led, rfl⟩, chain⟩

/-! ## Turns -/

/-- A search in progress: the trails that wait, and the types that have been
reached. -/
structure Search where
  stack : List Trail
  reached : List String := []

/-- Take the trail on top of the stack.  The search goes on, or it ends with what
it has found. -/
def Search.turn (schema : Schema) (start : String) (search : Search) :
    Search ⊕ Option (List String) :=
  match search.stack with
  | [] => .inr none
  | trail :: rest =>
      if trail.current = start then .inr (some trail.path)
      else if trail.current ∈ search.reached then .inl { search with stack := rest }
      else
        .inl
          { stack := (trail.extend (schema.cascadeTargets trail.current)).reverse ++ rest
            reached := trail.current :: search.reached }

/-- Take so many turns, or fewer if the search ends before. -/
def Search.run (schema : Schema) (start : String) :
    (turns : Nat) → Search → Search ⊕ Option (List String)
  | 0, search => .inl search
  | turns + 1, search =>
      match search.turn schema start with
      | .inl next => next.run schema start turns
      | .inr found => .inr found

theorem Search.run_of_turn {search next : Search} (turned : search.turn schema start = .inl next)
    (turns : Nat) : search.run schema start (turns + 1) = next.run schema start turns := by
  rw [run, turned]

/-- The search for a way from a declaration back to its name, before its first
turn. -/
def Search.opening (type : EntityType) : Search :=
  { stack := (Trail.extend ⟨type.name, [type.name]⟩ type.cascadeTargets).reverse }

/-- The cascading references of the types that are still to be visited. -/
def pending (types : List EntityType) (unvisited : List String) : List String :=
  (types.filter (·.name ∈ unvisited)).flatMap (·.cascadeTargets)

theorem length_pending_without_le (types : List EntityType) (unvisited : List String) (name : String) :
    (pending types (without unvisited name)).length ≤ (pending types unvisited).length := by
  refine ((List.monotone_filter_right types fun type left => ?_).flatMap _).length_le
  simp only [decide_eq_true_eq, mem_without_iff] at left ⊢
  exact left.1

/-- Visiting a type uses up its cascading references. -/
theorem length_pending_without (schema : Schema) (unseen : name ∈ unvisited) :
    (schema.cascadeTargets name).length + (pending schema.types (without unvisited name)).length ≤
      (pending schema.types unvisited).length := by
  unfold cascadeTargets
  cases found : schema.find? name with
  | none => simpa using length_pending_without_le schema.types unvisited name
  | some type =>
      have named : type.name = name := by simpa using List.find?_some found
      subst named
      rcases List.append_of_mem (List.mem_of_find?_eq_some found) with ⟨before, later, split⟩
      have spent : type.name ∉ without unvisited type.name := fun left =>
        ((mem_without_iff _ _ _).mp left).2 rfl
      have fewerBefore := length_pending_without_le before unvisited type.name
      have fewerLater := length_pending_without_le later unvisited type.name
      unfold pending at fewerBefore fewerLater ⊢
      simp only [split, List.filter_append, List.filter_cons, decide_eq_true_eq, if_pos unseen,
        if_neg spent, List.flatMap_append, List.flatMap_cons, List.length_append]
      omega

/-- A search that has reached the registered types that are no longer to be
visited ends within a turn for each trail and each reference that is left, and
one more. -/
theorem run_eq_searchCycle {turns : Nat} {reached : List String}
    (registered : ∀ name ∈ unvisited, schema.contains name = true)
    (agrees : ∀ name, schema.contains name = true → (name ∈ unvisited ↔ name ∉ reached))
    (enough : stack.length + (pending schema.types unvisited).length ≤ turns) :
    Search.run schema start (turns + 1) ⟨stack, reached⟩ =
      .inr (schema.searchCycle start unvisited stack) := by
  fun_induction searchCycle schema start unvisited stack generalizing turns reached with
  | case1 unvisited => rfl
  | case2 unvisited trail rest returned => simp [Search.run, Search.turn, returned]
  | case3 unvisited trail rest elsewhere unseen ih =>
      have new : trail.current ∉ reached := (agrees _ (registered _ unseen)).mp unseen
      have spends := length_pending_without schema unseen
      rw [List.length_cons] at enough
      have positive : 0 < turns := by omega
      rcases Nat.exists_eq_add_one.mpr positive with ⟨remaining, rfl⟩
      have turned : Search.turn schema start ⟨trail :: rest, reached⟩ =
          .inl ⟨(trail.extend (schema.cascadeTargets trail.current)).reverse ++ rest,
            trail.current :: reached⟩ := by
        simp only [Search.turn, if_neg elsewhere, if_neg new]
      rw [Search.run_of_turn turned]
      refine ih (fun name left => ?_) (fun name known => ?_) ?_
      · exact registered name ((mem_without_iff _ _ _).mp left).1
      · rw [mem_without_iff, agrees name known, List.mem_cons, not_or, and_comm]
      · rw [List.length_append, List.length_reverse, Trail.extend, List.length_map]
        omega
  | case4 unvisited trail rest elsewhere seen ih =>
      rw [List.length_cons] at enough
      have positive : 0 < turns := by omega
      rcases Nat.exists_eq_add_one.mpr positive with ⟨remaining, rfl⟩
      by_cases old : trail.current ∈ reached
      · have turned : Search.turn schema start ⟨trail :: rest, reached⟩ = .inl ⟨rest, reached⟩ := by
          simp only [Search.turn, if_neg elsewhere, if_pos old]
        rw [Search.run_of_turn turned]
        exact ih registered agrees (by omega)
      · -- The type is not registered, so the search goes nowhere from it.
        have unknown : ¬ schema.contains trail.current = true := fun known =>
          seen ((agrees _ known).mpr old)
        have nowhere : schema.cascadeTargets trail.current = [] := by
          refine List.eq_nil_iff_forall_not_mem.mpr fun target led => unknown ?_
          exact ((mem_cascadeTargets_iff_links _ _ _).mp led).contains
        have turned : Search.turn schema start ⟨trail :: rest, reached⟩ =
            .inl ⟨rest, trail.current :: reached⟩ := by
          simp [Search.turn, elsewhere, old, nowhere, Trail.extend]
        rw [Search.run_of_turn turned]
        refine ih registered (fun name known => ?_) (by omega)
        have other : name ≠ trail.current := by
          rintro rfl
          exact unknown known
        rw [agrees name known, List.mem_cons, not_or, and_iff_right other]

theorem run_opening (schema : Schema) (type : EntityType) :
    (Search.opening type).run schema type.name
        (((type :: schema.types).flatMap (·.cascadeTargets)).length + 1) =
      .inr (schema.cascadeCycle? type) := by
  have all : pending schema.types (schema.types.map (·.name)) =
      schema.types.flatMap (·.cascadeTargets) := by
    rw [pending, List.filter_eq_self.mpr fun type member => by simpa using ⟨type, member, rfl⟩]
  refine run_eq_searchCycle (fun name => (mem_names_iff schema name).mp) (fun name known => ?_) ?_
  · simpa using (mem_names_iff schema name).mpr known
  · rw [all, List.length_reverse, Trail.extend, List.length_map, List.flatMap_cons,
      List.length_append]

/-! ## The search -/

/-- What the search for a cycle does, on any schema and for any declaration.  It
ends, after no more turns than there are cascading references, and one.  It
finds something exactly when a chain of cascading references, the first one of
the declaration and the others of registered types, comes back to the name of
the declaration.  What it finds is such a chain, and one that comes to no type
twice. -/
theorem cascadeCycle?_decides (schema : Schema) (type : EntityType) :
    (Search.opening type).run schema type.name
        (((type :: schema.types).flatMap (·.cascadeTargets)).length + 1) =
      .inr (schema.cascadeCycle? type) ∧
    ((∃ path, schema.cascadeCycle? type = some path) ↔
      ∃ first, type.CascadesTo first ∧ Relation.ReflTransGen schema.Links first type.name) ∧
    ∀ path, schema.cascadeCycle? type = some path →
      schema.LeadsTo type path type.name ∧ path.tail.Nodup := by
  refine ⟨schema.run_opening type, ?_, fun path found => ?_⟩
  · rw [← Option.isSome_iff_exists, isSome_cascadeCycle?_iff]
  · exact ⟨leadsTo_of_cascadeCycle? found, nodup_tail_of_cascadeCycle? found⟩

/-- The first two types would go with each other, and the second of them with the
declaration. -/
example :
    let first : EntityType := ⟨"First", [{ field := "f", kind := .reference "Second", cascade := true }], false⟩
    let second : EntityType := ⟨"Second", [{ field := "f", kind := .reference "Last", cascade := true },
      { field := "g", kind := .reference "First", cascade := true }], false⟩
    let last : EntityType := ⟨"Last", [{ field := "f", kind := .reference "First", cascade := true }], false⟩
    cascadeCycle? { types := [first, second] } last = some ["Last", "First", "Second", "Last"] := by
  cbv

end Schema

end EntityBase
