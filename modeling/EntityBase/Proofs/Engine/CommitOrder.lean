import EntityBase.Proofs.Engine.Conflict

namespace EntityBase

/-!
# The order of commits

Which entities are there after a log is a matter of what the log creates and
what it deletes, and not of the order.  An entity survives if it depends on no
target of a delete.  To say so, dependence is taken from the lineage, where the
records of all entities stand side by side whether or not they are live at the
same time.  An entity that is created after a delete cannot depend on what has
been deleted, since all that an entity depends on is live where the entity is.

A snapshot is determined by what is live in it, so two orders of the same writes
lead to the same snapshot if both go through.  In particular two transactions
may be committed in either order.
-/

namespace Store

variable {store next left right : Store} {lineage : Lineage} {log first second : List Write}
  {id root : EntityId}

/-! ## Dependence in the lineage -/

theorem depends_of_knows (knows : lineage.Knows store) (depends : store.Depends id root) :
    store.schema.Depends lineage id root := by
  refine Relation.ReflTransGen.mono ?_ id root depends
  rintro owner target ⟨record, type, declared, live, rest⟩
  exact ⟨record, type, declared, knows owner record live, rest⟩

/-- All that a live entity has ever depended on is live. -/
theorem Coherent.contains_of_depends (coherent : store.Coherent) (knows : lineage.Knows store)
    (live : store.contains id = true) (depends : store.schema.Depends lineage id root) :
    store.contains root = true := by
  induction depends using Relation.ReflTransGen.head_induction_on with
  | refl => exact live
  | @head owner target refers _ ih =>
      rcases refers with ⟨record, type, declared, born, rest⟩
      rcases (contains_eq_true_iff store owner).mp live with ⟨same, found⟩
      cases (knows owner same found).symm.trans born
      have kept : store.Refers true owner target := ⟨record, type, declared, found, rest⟩
      exact ih (coherent.contains_target kept)

/-- Nothing live after a log depends on an entity that has gone before it and
that it does not create. -/
theorem Coherent.not_depends_of_replay (coherent : store.Coherent) (knows : lineage.Knows store)
    (recorded : ∀ write ∈ log, write.Recorded lineage) (done : store.replay log = .ok next)
    (gone : store.contains root = false) (uncreated : root ∉ Write.creations log)
    (live : next.contains id = true) : ¬ store.schema.Depends lineage id root := by
  intro depends
  rw [← schema_replay done] at depends
  have rootLive := (coherent.replay done).contains_of_depends (knows.replay recorded done) live
    depends
  rcases contains_of_replay done rootLive with stays | again
  · exact Bool.false_ne_true (gone.symm.trans stays)
  · exact uncreated again

theorem contains_insert_iff {created : EntityId} {entityType : String}
    {supplied : List (String × Value)}
    (done : store.insert created entityType supplied = .ok next) :
    next.contains id = true ↔ store.contains id = true ∨ id = created := by
  rw [contains_eq_true_iff, contains_eq_true_iff, get?_of_insert done]
  by_cases same : created = id
  · simp [same]
  · simp [same, Ne.symm same]

/-- What is live after a log was live before or is created by it, and depends on
no target of a delete in it. -/
theorem Coherent.contains_replay_iff (coherent : store.Coherent) (knows : lineage.Knows store)
    (recorded : ∀ write ∈ log, write.Recorded lineage) (once : (Write.creations log).Nodup)
    (free : store.Free (Write.creations log)) (done : store.replay log = .ok next) :
    next.contains id = true ↔ (store.contains id = true ∨ id ∈ Write.creations log) ∧
      ∀ target, .delete target ∈ log → ¬ store.schema.Depends lineage id target := by
  induction log generalizing store with
  | nil =>
      cases done
      simp
  | cons write rest ih =>
      rcases (replay_cons store write rest).mp done with ⟨between, applied, later⟩
      have coherentBetween := coherent.apply applied
      have knowsBetween := knows.apply (recorded write List.mem_cons_self) applied
      have recordedRest := fun write member => recorded write (List.mem_cons_of_mem _ member)
      have onceRest := once.sublist ((List.sublist_cons_self write rest).filterMap Write.created?)
      have freeBetween := free.tail once applied
      have reached := ih coherentBetween knowsBetween recordedRest onceRest freeBetween later
      have types := schema_apply applied
      rw [types] at reached
      cases write with
      | create created entityType supplied =>
          rw [reached, contains_insert_iff applied, Write.creations_create, List.mem_cons, or_assoc]
          simp
      | delete deleted =>
          rcases apply_delete_eq_ok_iff.mp applied with ⟨removed, deletes⟩
          have kept : ∀ other, between.contains other = true ↔
              store.contains other = true ∧ ¬ store.Depends other deleted :=
            fun other => coherent.contains_deleteArranged_iff deletes
          have gone : between.contains deleted = false :=
            Bool.eq_false_iff.mpr fun stays => ((kept deleted).mp stays).2 .refl
          have uncreated : deleted ∉ Write.creations rest := by
            intro again
            have there := (deleteArranged_eq_ok deletes).1
            rw [contains_eq_true_iff, free deleted again] at there
            simp at there
          constructor
          · intro live
            rcases reached.mp live with ⟨origin, independent⟩
            refine ⟨origin.imp_left fun there => ((kept id).mp there).1, fun target member => ?_⟩
            rcases List.mem_cons.mp member with same | old
            · cases same
              exact types ▸ coherentBetween.not_depends_of_replay knowsBetween recordedRest later
                gone uncreated live
            · exact independent target old
          · rintro ⟨origin, independent⟩
            have stays : ¬ store.Depends id deleted := fun depends =>
              independent deleted List.mem_cons_self (depends_of_knows knows depends)
            exact reached.mpr ⟨origin.imp_left fun there => (kept id).mpr ⟨there, stays⟩,
              fun target member => independent target (List.mem_cons_of_mem _ member)⟩

/-! ## Any order -/

/-- A coherent snapshot is known by its schema, its allocator and its records. -/
theorem Coherent.eq_of_records (coherent : left.Coherent) (alsoCoherent : right.Coherent)
    (schema : left.schema = right.schema) (allocator : left.allocator = right.allocator)
    (records : ∀ id, left.get? id = right.get? id) : left = right := by
  refine ext_find schema allocator records fun key => ?_
  apply Std.ExtTreeSet.ext_mem
  intro id
  rw [coherent.indexed, alsoCoherent.indexed, Holds, Holds, schema, records]

/-- Two orders of the same writes lead to the same snapshot. -/
theorem Coherent.replay_eq_of_perm (coherent : store.Coherent) (knows : lineage.Knows store)
    (recorded : ∀ write ∈ first, write.Recorded lineage) (once : (Write.creations first).Nodup)
    (free : store.Free (Write.creations first)) (same : first.Perm second)
    (isLeft : store.replay first = .ok left) (isRight : store.replay second = .ok right) :
    left = right := by
  have creations : (Write.creations first).Perm (Write.creations second) :=
    same.filterMap Write.created?
  have alsoRecorded : ∀ write ∈ second, write.Recorded lineage :=
    fun write member => recorded write (same.mem_iff.mpr member)
  have alsoFree : store.Free (Write.creations second) :=
    fun id new => free id (creations.mem_iff.mpr new)
  have knowsLeft := knows.replay recorded isLeft
  have knowsRight := knows.replay alsoRecorded isRight
  have live : ∀ id, left.contains id = right.contains id := by
    intro id
    have alsoOnce := creations.nodup_iff.mp once
    rw [Bool.eq_iff_iff, coherent.contains_replay_iff knows recorded once free isLeft,
      coherent.contains_replay_iff knows alsoRecorded alsoOnce alsoFree isRight]
    simp only [creations.mem_iff, same.mem_iff]
  refine (coherent.replay isLeft).eq_of_records (coherent.replay isRight)
    ((schema_replay isLeft).trans (schema_replay isRight).symm)
    ((allocator_replay isLeft).trans (allocator_replay isRight).symm) fun id => ?_
  cases there : right.contains id with
  | false =>
      rw [(contains_eq_false_iff right id).mp there,
        (contains_eq_false_iff left id).mp ((live id).trans there)]
  | true =>
      rcases (contains_eq_true_iff right id).mp there with ⟨record, found⟩
      rcases (contains_eq_true_iff left id).mp ((live id).trans there) with ⟨other, alsoFound⟩
      rw [found, alsoFound, ← knowsRight id record found, knowsLeft id other alsoFound]

end Store

/-! ## Two commits -/

/-- A transaction that began from what is committed now. -/
structure Handle.BegunOn (handle : Handle) (engine : Engine) : Prop where
  origin : handle.origin = engine.store
  base : handle.transaction.baseVersion = engine.version

namespace Engine

variable {engine next last : Engine} {transaction ended other : Transaction} {version : UInt64}

/-- How far a commit moves the version. -/
def advance (transaction : Transaction) : UInt64 :=
  if transaction.log.isEmpty then 0 else 1

/-- A commit that succeeds repeats the log, if that is where it would lead. -/
theorem commit_eq_ok
    (outcome : transaction.isActive = true →
      engine.outcome transaction = engine.store.replay transaction.log)
    (done : engine.commit transaction = (.ok version, next, ended)) :
    transaction.isActive = true ∧ ∃ store, engine.store.replay transaction.log = .ok store ∧
      next = { engine with store, version := engine.version + advance transaction } := by
  have settles := engine.commit_settles transaction
  rw [done] at settles
  cases settles with
  | idle active empty =>
      refine ⟨active, engine.store, by rw [empty, Store.replay_nil], ?_⟩
      simp [advance, empty]
  | installed store active written installs =>
      refine ⟨active, store, outcome active ▸ installs, ?_⟩
      simp [advance, written]

/-- Two transactions are committed one after the other, which leads to an
engine. -/
def CommitsBoth (engine : Engine) (transaction other : Transaction) (last : Engine) : Prop :=
  ∃ version next ended alsoVersion alsoEnded,
    engine.commit transaction = (.ok version, next, ended) ∧
      next.commit other = (.ok alsoVersion, last, alsoEnded)

/-- Two transactions that began from the committed snapshot are committed as one
log would be. -/
theorem CommitsBoth.exists_replay (both : engine.CommitsBoth transaction other last)
    (base : transaction.baseVersion = engine.version)
    (led : transaction.isActive = true →
      engine.store.replay transaction.log = .ok transaction.store)
    (otherBase : other.baseVersion = engine.version)
    (otherLed : other.isActive = true → engine.store.replay other.log = .ok other.store) :
    transaction.isActive = true ∧ other.isActive = true ∧
      ∃ store, engine.store.replay (transaction.log ++ other.log) = .ok store ∧
        last = { engine with
          store, version := engine.version + (advance transaction + advance other) } := by
  rcases both with ⟨_, next, _, _, _, done, further⟩
  have fast : transaction.isActive = true →
      engine.outcome transaction = engine.store.replay transaction.log := by
    intro active
    rw [Engine.outcome, if_pos base.symm, led active]
  rcases commit_eq_ok fast done with ⟨active, between, replays, rfl⟩
  have outcome : other.isActive = true →
      { engine with store := between, version := engine.version + advance transaction }.outcome
        other = between.replay other.log := by
    intro otherActive
    unfold Engine.outcome
    split
    · rename_i same
      -- The version has not moved, so the first transaction has written nothing.
      have empty : transaction.log = [] := by
        by_contra written
        simp [advance, written, otherBase] at same
      rw [empty, Store.replay_nil] at replays
      cases replays
      exact (otherLed otherActive).symm
    · rfl
  rcases commit_eq_ok outcome further with ⟨otherActive, store, repeated, rfl⟩
  refine ⟨active, otherActive, store, ?_, by simp only [UInt64.add_assoc]⟩
  rw [Store.replay_append, replays]
  exact repeated

end Engine

namespace Session

/-- Take any run on an engine whose snapshot belongs to a lawful history, and two
transactions that have begun from what is committed at its end.  If both can be
committed, the one after the other and also the other way around, the engine is
the same afterwards, with the same records, index and version. -/
theorem commit_order {world : World} {engine oneTwo twoOne : Engine} {actions : List Action}
    {session : Session} {first second : Nat} {one two : Handle}
    (lawful : world.Lawful) (member : engine.store ∈ world.stores)
    (ran : (start world engine).run actions = session)
    (few : session.issued.length < UInt64.size)
    (different : first ≠ second) (isFirst : session.handles[first]? = some one)
    (isSecond : session.handles[second]? = some two)
    (oneBegun : one.BegunOn session.engine) (twoBegun : two.BegunOn session.engine)
    (oneFirst : session.engine.CommitsBoth one.transaction two.transaction oneTwo)
    (twoFirst : session.engine.CommitsBoth two.transaction one.transaction twoOne) :
    oneTwo = twoOne := by
  rcases exists_of_run lawful member ran few with ⟨regular, sound, -, lineage, recorded⟩
  have oneMember := List.mem_of_getElem? isFirst
  have twoMember := List.mem_of_getElem? isSecond
  have oneLed := oneBegun.origin ▸ regular.replays one oneMember
  have twoLed := twoBegun.origin ▸ regular.replays two twoMember
  rcases oneFirst.exists_replay oneBegun.base oneLed twoBegun.base twoLed with
    ⟨oneActive, twoActive, left, isLeft, rfl⟩
  rcases twoFirst.exists_replay twoBegun.base twoLed oneBegun.base oneLed with
    ⟨-, -, right, isRight, rfl⟩
  have logged : ∀ write ∈ one.transaction.log ++ two.transaction.log, write.Recorded lineage := by
    intro write member
    rcases List.mem_append.mp member with inOne | inTwo
    · exact (recorded.handles one oneMember).logged write inOne
    · exact (recorded.handles two twoMember).logged write inTwo
  have onePending := Transaction.pending_of_active oneActive
  have twoPending := Transaction.pending_of_active twoActive
  have once : (Write.creations (one.transaction.log ++ two.transaction.log)).Nodup := by
    rw [Write.creations_append, ← onePending, ← twoPending, List.nodup_append']
    exact ⟨regular.separate.once one oneMember, regular.separate.once two twoMember,
      regular.separate.apart first second one two isFirst isSecond different⟩
  have free : session.engine.store.Free
      (Write.creations (one.transaction.log ++ two.transaction.log)) := by
    rw [Write.creations_append, ← onePending, ← twoPending, Store.free_append_iff]
    exact ⟨(regular.separate.free oneMember).1, (regular.separate.free twoMember).1⟩
  have same : left = right := sound.committed.replay_eq_of_perm recorded.committed logged once free
    List.perm_append_comm isLeft isRight
  rw [same, UInt64.add_comm (Engine.advance two.transaction)]

namespace Sample

/-- Links go with either of two folders. -/
def link : EntityType :=
  { name := "Link"
    attributes := [
      { field := "from", kind := .reference "Folder", cascade := true },
      { field := "to", kind := .reference "Folder", cascade := true }] }

/-- Two folders and a link between them. -/
def linked : World :=
  ([.register folder,
    .register link,
    .create "Folder" [],
    .create "Folder" [],
    .create "Link" [("from", .ref ⟨0⟩), ("to", .ref ⟨1⟩)]] : List StoreCall).foldl
    World.advance ({} : World).withNew

def links : Store :=
  linked.stores.head?.getD (Store.new ∅).1

/-- Each transaction deletes one of the folders, and the first makes another. -/
def parted : Session :=
  (start linked { store := links }).run [
    .begin,
    .begin,
    .edit 0 (.delete ⟨0⟩),
    .edit 0 (.create "Folder" []),
    .edit 1 (.delete ⟨1⟩)]

/-- The engine after one commit and then another, if both succeed. -/
def commitBoth (engine : Engine) (transaction other : Transaction) : Option Engine :=
  match engine.commit transaction with
  | (.error _, _, _) => none
  | (.ok _, next, _) =>
      match next.commit other with
      | (.error _, _, _) => none
      | (.ok _, last, _) => some last

theorem commitsBoth_of_eq_some {engine last : Engine} {transaction other : Transaction}
    (done : commitBoth engine transaction other = some last) :
    engine.CommitsBoth transaction other last := by
  unfold commitBoth at done
  split at done
  · cases done
  · rename_i version next ended committed
    split at done
    · cases done
    · rename_i alsoVersion reached alsoEnded further
      cases done
      exact ⟨version, next, ended, alsoVersion, alsoEnded, committed, further⟩

theorem parted_open : (do
      let one ← parted.handles[0]?
      let two ← parted.handles[1]?
      let oneTwo ← commitBoth parted.engine one.transaction two.transaction
      let twoOne ← commitBoth parted.engine two.transaction one.transaction
      return (oneTwo.store.records.keys, twoOne.store.records.keys,
        decide (parted.engine.version = one.transaction.baseVersion),
        decide (parted.engine.version = two.transaction.baseVersion))) =
    some ([⟨3⟩], [⟨3⟩], true, true) := by
  cbv

theorem parted_counts : parted.issued.length = 4 ∧ parted.history.length = 0 := by
  constructor <;> cbv

theorem lawful_linked : linked.Lawful :=
  World.Lawful.advances (.new .start) (by simp [StoreCall.inserted?])

theorem links_mem : links ∈ linked.stores :=
  newest_mem (by cbv)

end Sample

/-- In the example the link goes with whichever folder is deleted first, and the
new folder is all that is left. -/
theorem commit_order_parted : ∃ one two oneTwo twoOne,
    Sample.parted.handles[0]? = some one ∧ Sample.parted.handles[1]? = some two ∧
      Sample.parted.engine.CommitsBoth one.transaction two.transaction oneTwo ∧
      Sample.parted.engine.CommitsBoth two.transaction one.transaction twoOne ∧
      oneTwo.store.records.keys = [⟨3⟩] ∧ oneTwo = twoOne := by
  have opened := Sample.parted_open
  simp only [Option.bind_eq_bind, Option.bind_eq_some_iff, Option.pure_def, Option.some.injEq,
    Prod.mk.injEq, decide_eq_true_eq] at opened
  rcases opened with ⟨one, isFirst, two, isSecond, oneTwo, oneFirst, twoOne, twoFirst, left, -,
    oneBase, twoBase⟩
  rcases Sample.parted_counts with ⟨issued, versions⟩
  have few : Sample.parted.issued.length < UInt64.size := by rw [issued]; decide
  have fewVersions : Sample.parted.history.length < UInt64.size := by rw [versions]; decide
  have ran : (start _ _).run _ = Sample.parted := rfl
  rcases exists_of_run Sample.lawful_linked Sample.links_mem ran few with ⟨-, -, faithful, -⟩
  have origin_eq : ∀ handle ∈ Sample.parted.handles,
      Sample.parted.engine.version = handle.transaction.baseVersion →
      handle.origin = Sample.parted.engine.store :=
    fun _ member => (faithful fewVersions).origin_eq fewVersions member
  have oneBegun : one.BegunOn Sample.parted.engine :=
    ⟨origin_eq one (List.mem_of_getElem? isFirst) oneBase, oneBase.symm⟩
  have twoBegun : two.BegunOn Sample.parted.engine :=
    ⟨origin_eq two (List.mem_of_getElem? isSecond) twoBase, twoBase.symm⟩
  have oneBoth := Sample.commitsBoth_of_eq_some oneFirst
  have twoBoth := Sample.commitsBoth_of_eq_some twoFirst
  exact ⟨one, two, oneTwo, twoOne, isFirst, isSecond, oneBoth, twoBoth, left,
    commit_order Sample.lawful_linked Sample.links_mem ran few (by decide) isFirst isSecond oneBegun
      twoBegun oneBoth twoBoth⟩

end Session

end EntityBase
