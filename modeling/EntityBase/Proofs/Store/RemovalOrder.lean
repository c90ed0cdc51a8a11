import EntityBase.Proofs.Schema.Acceptance
import EntityBase.Proofs.Store.Effect

namespace EntityBase

/-!
# The order of removal

A delete lists what it removes in the order in which the walk leaves it, and a
user may rely on that order: an entity comes before those that it refers to by
cascading references, and the entity that was asked for comes last.

An entity may wait to be entered in several places of the stack, so its place in
the list is not where it was found first.  What decides is what stands above an
entity that waits to be left.  There, everything that depends on it and has not
been entered still waits to be; and all that waits there depends on it in the
end, so it has a higher rank.  The rank is the place of an entity's type in the
order of registration, along which cascading references go back.

The walk is bounded by the entities that it has yet to enter, and those are the
ones that the index mentions.  A worklist that only notes which entities it has
entered does not know of such a bound.  It ends all the same, with the same
list.
-/

namespace Store

variable {store next : Store} {arrangement : Arrangement} {id root owner target : EntityId}
  {unvisited : EntitySet} {stack : List CascadeStep} {removed : List EntityId}

/-! ## Ranks -/

/-- The place of an entity's type in the order of registration. -/
def rank (store : Store) (id : EntityId) : Nat :=
  match store.get? id with
  | some record => store.schema.position record.entityType
  | none => 0

/-- Along a cascading reference the rank goes down. -/
theorem Coherent.rank_lt (coherent : store.Coherent) (layered : store.schema.Layered)
    (refers : store.Refers true owner target) : store.rank target < store.rank owner := by
  rcases refers with ⟨record, type, declared, live, found, member, leads, cascades, held⟩
  rcases coherent.referenced live found member leads held with ⟨referenced, targetLive, led⟩
  rcases (coherent.schema.find?_eq_some_iff _ _).mp found with ⟨registered, named⟩
  simp only [rank, live, targetLive]
  exact (layered _ _ ⟨type, registered, named, declared, member, cascades, led⟩).2

/-! ## The stack -/

/-- How the steps on the stack stand to each other in a walk of entities of
which the dependents rank higher. -/
structure Ordered (store : Store) (arrangement : Arrangement) (unvisited : EntitySet)
    (stack : List CascadeStep) : Prop where
  /-- What stands above an entity that waits to be left has a higher rank. -/
  ranked : stack.Pairwise fun above below =>
    ∀ id, below = .leave id → store.rank id < store.rank above.entity
  entered : ∀ id, .leave id ∈ stack → id ∉ unvisited
  /-- What depends on an entity that waits to be left, and has not been entered,
  waits above it. -/
  waits : ∀ above id below, stack = above ++ .leave id :: below →
    ∀ dependent ∈ store.dependents arrangement id, dependent ∈ unvisited → .enter dependent ∈ above

theorem ordered_enter (store : Store) (arrangement : Arrangement) (unvisited : EntitySet)
    (root : EntityId) : store.Ordered arrangement unvisited [.enter root] where
  ranked := List.pairwise_singleton _ _
  entered id listed := by simp at listed
  waits above id below split := by
    have listed : CascadeStep.leave id ∈ [CascadeStep.enter root] := by simp [split]
    simp at listed

/-- A step that is taken off, and does not enter an entity, leaves the rest in
order. -/
theorem Ordered.tail {step : CascadeStep} (ordered : store.Ordered arrangement unvisited (step :: stack))
    (spent : ∀ id ∈ unvisited, step ≠ .enter id) : store.Ordered arrangement unvisited stack where
  ranked := ordered.ranked.of_cons
  entered id listed := ordered.entered id (List.mem_cons_of_mem _ listed)
  waits above id below split dependent depends unseen := by
    have listed := ordered.waits (step :: above) id below (by rw [split]; rfl) dependent depends unseen
    rcases List.mem_cons.mp listed with first | waiting
    · exact absurd first.symm (spent dependent unseen)
    · exact waiting

/-- What stands above an entity that waits to be left begins with all that has
been put on the stack since. -/
private theorem split_entering {entering : List EntityId} {above below : List CascadeStep}
    (split : entering.map CascadeStep.enter ++ stack = above ++ .leave id :: below) :
    ∃ between, above = entering.map CascadeStep.enter ++ between ∧
      stack = between ++ .leave id :: below := by
  induction entering generalizing above with
  | nil => exact ⟨above, rfl, split⟩
  | cons first rest ih =>
      rw [List.map_cons, List.cons_append] at split
      rcases List.cons_eq_append_iff.mp split with ⟨-, impossible⟩ | ⟨others, rfl, later⟩
      · cases impossible
      · rcases ih later with ⟨between, rfl, stacked⟩
        exact ⟨between, rfl, stacked⟩

/-- Entering an entity puts it in its place below everything that depends on
it. -/
theorem Ordered.enter
    (higher : ∀ dependent ∈ store.dependents arrangement id, store.rank id < store.rank dependent)
    (ordered : store.Ordered arrangement unvisited (.enter id :: stack)) :
    store.Ordered arrangement (unvisited.erase id)
      (((store.dependents arrangement id).filter (· ∈ unvisited.erase id)).reverse.map
        CascadeStep.enter ++ .leave id :: stack) where
  ranked := by
    rcases List.pairwise_cons.mp ordered.ranked with ⟨above, rest⟩
    refine List.pairwise_append.mpr ⟨?_, List.pairwise_cons.mpr ⟨above, rest⟩, ?_⟩
    · exact List.pairwise_map.mpr (List.pairwise_of_forall fun _ _ _ entering => nomatch entering)
    · rintro step entering other leaving below rfl
      rcases List.mem_map.mp entering with ⟨dependent, reversed, rfl⟩
      have first := higher dependent (List.mem_of_mem_filter (List.mem_reverse.mp reversed))
      rcases List.mem_cons.mp leaving with same | later
      · cases same
        exact first
      · exact Nat.lt_trans (above _ later below rfl) first
  entered other listed := by
    intro unseen
    rcases Std.ExtTreeSet.mem_erase.mp unseen with ⟨different, before⟩
    rcases List.mem_append.mp listed with entering | leaving
    · simp at entering
    · rcases List.mem_cons.mp leaving with same | later
      · cases same
        simp at different
      · exact ordered.entered other (List.mem_cons_of_mem _ later) before
  waits above other below split dependent depends unseen := by
    rcases split_entering split with ⟨between, rfl, stacked⟩
    rcases List.cons_eq_append_iff.mp stacked with ⟨rfl, same⟩ | ⟨others, rfl, rest⟩
    · -- This is the entity itself, and what depends on it has just been put above it.
      cases same
      refine List.mem_append_left _ (List.mem_map.mpr ⟨dependent, List.mem_reverse.mpr ?_, rfl⟩)
      exact List.mem_filter.mpr ⟨depends, decide_eq_true unseen⟩
    · rcases Std.ExtTreeSet.mem_erase.mp unseen with ⟨different, before⟩
      have waiting := ordered.waits (.enter id :: others) other below (by rw [rest]; rfl) dependent
        depends before
      rcases List.mem_cons.mp waiting with same | later
      · cases same
        simp at different
      · exact List.mem_append_right _ (List.mem_cons_of_mem _ later)

/-! ## The list -/

/-- In a walk from an ordered stack, an entity is left after everything that
depends on it and is left at all. -/
theorem Ordered.sublist_walk
    (higher : ∀ target, ∀ dependent ∈ store.dependents arrangement target,
      store.rank target < store.rank dependent)
    (ordered : store.Ordered arrangement unvisited stack)
    (depends : owner ∈ store.dependents arrangement target)
    (ownerLeft : owner ∈ store.walk arrangement unvisited stack)
    (targetLeft : target ∈ store.walk arrangement unvisited stack) :
    [owner, target].Sublist (store.walk arrangement unvisited stack) := by
  fun_induction walk store arrangement unvisited stack with
  | case1 unvisited => cases ownerLeft
  | case2 unvisited left rest ih =>
      have later := ordered.tail (fun other unseen same => by cases same)
      rcases List.mem_cons.mp ownerLeft with same | ownerLater
      · subst same
        rcases List.mem_cons.mp targetLeft with same | targetLater
        · exact absurd (higher _ _ depends) (same ▸ Nat.lt_irrefl _)
        · exact (List.singleton_sublist.mpr targetLater).cons_cons owner
      · rcases List.mem_cons.mp targetLeft with same | targetLater
        · -- Nothing waits above the target, so what depends on it has been left before.
          subst same
          rcases mem_of_mem_walk ownerLater with unseen | leaving
          · cases ordered.waits [] target rest rfl owner depends unseen
          · have lower := (List.pairwise_cons.mp ordered.ranked).1 _ leaving owner rfl
            exact absurd (higher _ _ depends) (Nat.lt_asymm lower)
        · exact (ih later ownerLater targetLater).cons left
  | case3 unvisited entered rest unseen remaining waiting ih =>
      exact ih (ordered.enter (higher entered)) ownerLeft targetLeft
  | case4 unvisited entered rest seen ih =>
      refine ih (ordered.tail ?_) ownerLeft targetLeft
      rintro other unseen same
      cases same
      exact seen unseen

/-- The last step of the stack is the last to be taken. -/
theorem walk_append_leave (store : Store) (arrangement : Arrangement) (unvisited : EntitySet)
    (stack : List CascadeStep) (root : EntityId) :
    store.walk arrangement unvisited (stack ++ [.leave root]) =
      store.walk arrangement unvisited stack ++ [root] := by
  fun_induction walk store arrangement unvisited stack with
  | case1 unvisited => simp [walk]
  | case2 unvisited left rest ih => simp [walk, ih]
  | case3 unvisited entered rest unseen remaining waiting ih =>
      rw [List.cons_append, walk, if_pos unseen]
      simpa only [List.append_assoc, List.cons_append] using ih
  | case4 unvisited entered rest seen ih =>
      rwa [List.cons_append, walk, if_neg seen]

theorem getLast?_cascadeOrder (store : Store) (arrangement : Arrangement) (root : EntityId) :
    (store.cascadeOrder arrangement root).getLast? = some root := by
  have entered : root ∈ store.index.members.insert root := Std.ExtTreeSet.mem_insert_self
  rw [cascadeOrder, walk, if_pos entered]
  simp only [walk_append_leave, List.getLast?_concat]

/-! ## The check of an order -/

/-- The check reads the cascading references of an entity off its record. -/
theorem mem_cascadeTargets_iff (store : Store) (owner target : EntityId) :
    target ∈ store.cascadeTargets owner ↔ store.Refers true owner target := by
  unfold cascadeTargets
  constructor
  · intro listed
    split at listed
    · cases listed
    · rename_i record live
      split at listed
      · cases listed
      · rename_i type found
        rcases List.mem_filterMap.mp listed with ⟨declared, filtered, led⟩
        rcases List.mem_filter.mp filtered with ⟨member, flagged⟩
        rcases Option.bind_eq_some_iff.mp led with ⟨value, held, leads⟩
        rw [Attribute.cascadeTarget?] at flagged
        split at flagged
        · rename_i cascades
          cases value with
          | ref id =>
              cases leads
              exact ⟨record, type, declared, live, found, member, flagged, cascades, held⟩
          | _ => cases leads
        · cases flagged
  · rintro ⟨record, type, declared, live, found, member, leads, cascades, held⟩
    simp only [live, found]
    refine List.mem_filterMap.mpr ⟨declared, List.mem_filter.mpr ⟨member, ?_⟩, by rw [held]; rfl⟩
    rwa [Attribute.cascadeTarget?, if_pos cascades]

/-- A list without repetitions passes the check if none of its members comes
after one that it refers to by a cascading reference. -/
theorem dependentsFirst_of_sublist (once : removed.Nodup)
    (before : ∀ owner ∈ removed, ∀ target ∈ removed, store.Refers true owner target →
      [owner, target].Sublist removed) : store.dependentsFirst removed = true := by
  induction removed with
  | nil => rfl
  | cons first rest ih =>
      rcases List.nodup_cons.mp once with ⟨firstOnce, restOnce⟩
      have restBefore : ∀ owner ∈ rest, ∀ target, [owner, target].Sublist (first :: rest) →
          [owner, target].Sublist rest := by
        intro owner later target pair
        rcases List.cons_sublist_cons'.mp pair with kept | ⟨same, -⟩
        · exact kept
        · exact absurd (same ▸ later) firstOnce
      rw [dependentsFirst, Bool.and_eq_true_iff]
      constructor
      · simp only [List.all_eq_true, decide_eq_true_eq, mem_cascadeTargets_iff]
        intro owner listed refers
        have pair := before owner listed first List.mem_cons_self refers
        rcases List.mem_cons.mp listed with rfl | later
        · exact firstOnce (List.singleton_sublist.mp (List.cons_sublist_cons.mp pair))
        · have kept := restBefore owner later first pair
          exact firstOnce (kept.subset (List.mem_cons_of_mem _ List.mem_cons_self))
      · refine ih restOnce fun owner ownerLater target targetLater refers => ?_
        exact restBefore owner ownerLater target (before owner (List.mem_cons_of_mem _ ownerLater)
          target (List.mem_cons_of_mem _ targetLater) refers)

/-! ## The worklist -/

/-- A walk in progress: the steps that wait, the entities that have been entered,
and those that have been left. -/
structure Worklist where
  stack : List CascadeStep
  entered : EntitySet := ∅
  left : List EntityId := []

/-- Take the step on top of the stack.  An entity that has been entered before
is passed over. -/
def Worklist.next? (store : Store) (arrangement : Arrangement) (work : Worklist) :
    Option Worklist :=
  match work.stack with
  | [] => none
  | .leave id :: rest => some { work with stack := rest, left := work.left ++ [id] }
  | .enter id :: rest =>
      if id ∈ work.entered then some { work with stack := rest }
      else
        let entered := work.entered.insert id
        let waiting := (store.dependents arrangement id).filter (· ∉ entered)
        some { work with stack := waiting.reverse.map CascadeStep.enter ++ .leave id :: rest, entered }

/-- One worklist runs to another in any number of steps. -/
def Runs (store : Store) (arrangement : Arrangement) : Worklist → Worklist → Prop :=
  Relation.ReflTransGen fun before after => before.next? store arrangement = some after

/-- A worklist that has entered what a walk has no longer to enter comes to an end,
and has then left what the walk lists. -/
theorem runs_walk {known : EntitySet}
    (closed : ∀ target, ∀ dependent ∈ store.dependents arrangement target, dependent ∈ known) :
    ∀ (entered : EntitySet) (left : List EntityId), (∀ id, .enter id ∈ stack → id ∈ known) →
      (∀ id ∈ known, id ∈ unvisited ↔ id ∉ entered) →
      ∃ all, store.Runs arrangement ⟨stack, entered, left⟩
        ⟨[], all, left ++ store.walk arrangement unvisited stack⟩ := by
  fun_induction walk store arrangement unvisited stack with
  | case1 unvisited =>
      intro entered left waits agrees
      exact ⟨entered, by rw [List.append_nil]; exact .refl⟩
  | case2 unvisited first rest ih =>
      intro entered left waits agrees
      have restWaits := fun id listed => waits id (List.mem_cons_of_mem _ listed)
      rcases ih entered (left ++ [first]) restWaits agrees with ⟨all, runs⟩
      rw [List.append_assoc] at runs
      exact ⟨all, .head rfl runs⟩
  | case3 unvisited first rest unseen remaining waiting ih =>
      intro entered left waits agrees
      have new : first ∉ entered := (agrees first (waits first List.mem_cons_self)).mp unseen
      have agreesAfter : ∀ id ∈ known, id ∈ remaining ↔ id ∉ entered.insert first := by
        intro id idKnown
        simp [remaining, Std.ExtTreeSet.mem_erase, Std.ExtTreeSet.mem_insert, agrees id idKnown]
      have waitsAfter : ∀ id, .enter id ∈ waiting.reverse.map CascadeStep.enter ++ .leave first :: rest →
          id ∈ known := by
        intro id listed
        rcases List.mem_append.mp listed with entering | later
        · rcases List.mem_map.mp entering with ⟨dependent, reversed, same⟩
          cases same
          exact closed first _ (List.mem_of_mem_filter (List.mem_reverse.mp reversed))
        · exact waits id (List.mem_cons_of_mem _ (by simpa using later))
      have same : waiting = (store.dependents arrangement first).filter (· ∉ entered.insert first) := by
        refine List.filter_congr fun dependent depends => ?_
        exact decide_eq_decide.mpr (agreesAfter dependent (closed first dependent depends))
      rcases ih (entered.insert first) left waitsAfter agreesAfter with ⟨all, runs⟩
      refine ⟨all, .head ?_ runs⟩
      simp only [Worklist.next?, if_neg new, same]
  | case4 unvisited first rest seen ih =>
      intro entered left waits agrees
      have old : first ∈ entered := by
        simpa using mt (agrees first (waits first List.mem_cons_self)).mpr seen
      have restWaits := fun id listed => waits id (List.mem_cons_of_mem _ listed)
      rcases ih entered left restWaits agrees with ⟨all, runs⟩
      exact ⟨all, .head (by simp only [Worklist.next?, if_pos old]) runs⟩

/-- The worklist of a delete comes to an end, and has then left the doomed
entities in their order. -/
theorem runs_cascadeOrder (store : Store) (arrangement : Arrangement) (root : EntityId) :
    ∃ all, store.Runs arrangement { stack := [.enter root] }
      ⟨[], all, store.cascadeOrder arrangement root⟩ := by
  have closed : ∀ target, ∀ dependent ∈ store.dependents arrangement target,
      dependent ∈ store.index.members.insert root := fun _ _ depends =>
    Std.ExtTreeSet.mem_insert.mpr (.inr (mem_members_of_mem_dependents depends))
  refine runs_walk closed ∅ [] ?_ ?_
  · intro id listed
    cases List.mem_singleton.mp listed
    exact Std.ExtTreeSet.mem_insert_self
  · intro id known
    simpa using known

end Store

/-! ## Deletes in lawful histories -/

namespace World

variable {world : World} {store next : Store} {id : EntityId} {removed : List EntityId}

/-- In every snapshot of a history cascading references go back in the order of
registration. -/
theorem Reached.layered {mayInsert : World → Store → EntityId → Prop}
    (reached : Reached mayInsert world) (member : store ∈ world.stores) : store.schema.Layered := by
  induction reached generalizing store with
  | start => cases member
  | new reached ih =>
      rcases List.mem_cons.mp member with rfl | old
      · exact Schema.layered_empty
      · exact ih old
  | @call world current reached current_mem call permitted ih =>
      unfold perform at member
      split at member
      · exact ih member
      · rename_i next allocators handed ran
        have before := ih current_mem
        rcases List.mem_cons.mp member with rfl | old
        · cases call.run_makes ran with
          | registered made =>
              rcases Store.register_eq_ok made with ⟨schema, registered, rfl⟩
              exact before.register registered
          | created made =>
              rcases Store.create_eq_ok made with ⟨draft, -, -, rfl, -⟩
              exact before
          | inserted made =>
              rcases Store.insert_eq_ok_iff.mp made with ⟨-, draft, -, rfl⟩
              exact before
          | deleted made => rwa [Store.schema_deleteArranged made]
        · exact ih old

/-- In what order a delete that succeeds removes entities, on any snapshot of a
lawful history, up to the wrap of the counter, and for any arrangement of the
index entries.  The worklist comes to an end with the list of the removed.  The
entity that was asked for is the last of them, none is listed twice, and an
entity that refers to another by a cascading reference comes before it.  The
check of an order, which looks at the records, agrees. -/
theorem removal_order_of_lawful (lawful : world.Lawful) (member : store ∈ world.stores)
    (few : (world.issued store.allocator).length < UInt64.size) {arrangement : Arrangement}
    (done : store.deleteArranged arrangement id = .ok (next, removed)) :
    (∃ all, store.Runs arrangement { stack := [.enter id] } ⟨[], all, removed⟩) ∧
    removed.getLast? = some id ∧ removed.Nodup ∧
    (∀ owner ∈ removed, ∀ target ∈ removed, store.Refers true owner target →
      [owner, target].Sublist removed) ∧
    store.dependentsFirst removed = true := by
  have coherent := (lawful.keeps member).coherent few
  have layered := Reached.layered lawful member
  have higher : ∀ target, ∀ dependent ∈ store.dependents arrangement target,
      store.rank target < store.rank dependent := fun _ _ depends =>
    coherent.rank_lt layered ((coherent.mem_dependents_iff arrangement).mp depends)
  rcases Store.deleteArranged_eq_ok done with ⟨-, rfl, -, -⟩
  have once := store.nodup_cascadeOrder arrangement id
  have before : ∀ owner ∈ store.cascadeOrder arrangement id,
      ∀ target ∈ store.cascadeOrder arrangement id, store.Refers true owner target →
        [owner, target].Sublist (store.cascadeOrder arrangement id) := by
    intro owner ownerRemoved target targetRemoved refers
    exact (Store.ordered_enter store arrangement _ id).sublist_walk higher
      ((coherent.mem_dependents_iff arrangement).mpr refers) ownerRemoved targetRemoved
  exact ⟨store.runs_cascadeOrder arrangement id, store.getLast?_cascadeOrder arrangement id, once,
    before, Store.dependentsFirst_of_sublist once before⟩

/-- The second project of the example goes last.  The note is found by way of its
team first, and is still removed before its task. -/
theorem removal_order_of_lawful_projects : ∃ store ∈ Sample.projects.stores,
    Sample.projects.Lawful ∧ (Sample.projects.issued store.allocator).length < UInt64.size ∧
    ∃ next removed, store.deleteArranged .ascending ⟨1⟩ = .ok (next, removed) ∧
      removed = [⟨5⟩, ⟨4⟩, ⟨3⟩, ⟨2⟩, ⟨1⟩] ∧
      (∃ all, store.Runs .ascending { stack := [.enter ⟨1⟩] } ⟨[], all, removed⟩) ∧
      removed.getLast? = some ⟨1⟩ ∧ removed.Nodup ∧
      (∀ owner ∈ removed, ∀ target ∈ removed, store.Refers true owner target →
        [owner, target].Sublist removed) ∧
      store.dependentsFirst removed = true := by
  rcases Option.map_eq_some_iff.mp Sample.newest_projects with ⟨store, newest, summary⟩
  simp only [Prod.mk.injEq, Option.map_eq_some_iff] at summary
  rcases summary with ⟨issued, -, -, ⟨next, removed⟩, succeeded, listed⟩
  have member := List.mem_of_mem_head? newest
  have few : (Sample.projects.issued store.allocator).length < UInt64.size := by rw [issued]; decide
  have done : store.deleteArranged .ascending ⟨1⟩ = .ok (next, removed) := by
    rw [Store.delete] at succeeded
    cases outcome : store.deleteArranged .ascending ⟨1⟩ with
    | error cause => simp [outcome, Except.toOption] at succeeded
    | ok result => simpa [outcome, Except.toOption] using succeeded
  exact ⟨store, member, Sample.lawful_projects, few, next, removed, done, listed,
    removal_order_of_lawful Sample.lawful_projects member few done⟩

end World

end EntityBase
