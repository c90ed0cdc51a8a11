import EntityBase.Proofs.Engine.Freshness
import EntityBase.Proofs.Engine.Replay

namespace EntityBase

/-!
# Where records come from

Below the wrap an identifier is handed out once in a session, so there is at
most one creation behind all the records that ever stand under it, in any
snapshot.  A lineage keeps for each identifier the record it was created with.
Records never change, and an insertion that repeats a creation makes the same
record again, so every snapshot agrees with the lineage as far as it goes.

A session has a lineage at every moment, and a later one knows of all that an
earlier one did.
-/

/-- The record that each identifier was created with. -/
abbrev Lineage := EntityId → Option Record

namespace Lineage

variable {lineage later : Lineage} {store : Store}

/-- A later lineage knows of all that an earlier one does. -/
def Extends (later lineage : Lineage) : Prop :=
  ∀ (id : EntityId) (record : Record), lineage id = some record → later id = some record

def add (lineage : Lineage) (record : Record) : Lineage :=
  fun id => if record.id = id then some record else lineage id

theorem add_extends {record : Record} (new : lineage record.id = none) :
    (lineage.add record).Extends lineage := by
  intro id other known
  unfold add
  rw [if_neg, known]
  rintro rfl
  rw [new] at known
  cases known

theorem add_self (record : Record) : lineage.add record record.id = some record :=
  if_pos rfl

theorem mem_of_add {issued : List EntityId} {record : Record}
    (known : ∀ (id : EntityId) (record : Record), lineage id = some record → id ∈ issued) :
    ∀ (id : EntityId) (other : Record), lineage.add record id = some other →
      id ∈ issued ++ [record.id] := by
  intro id other born
  unfold add at born
  split at born
  · rename_i same
    exact same ▸ List.mem_append_right _ List.mem_cons_self
  · exact List.mem_append_left _ (known id other born)

/-- The records of a snapshot are in the lineage. -/
def Knows (lineage : Lineage) (store : Store) : Prop :=
  ∀ (id : EntityId) (record : Record), store.get? id = some record → lineage id = some record

theorem Knows.mono (knows : lineage.Knows store) (grows : later.Extends lineage) :
    later.Knows store :=
  fun id record live => grows id record (knows id record live)

end Lineage

/-- A logged creation makes the record that the lineage has. -/
def Write.Recorded (lineage : Lineage) : Write → Prop
  | .create id entityType supplied => lineage id = some ⟨id, entityType, assemble supplied⟩
  | .delete _ => True

theorem Write.Recorded.mono {lineage later : Lineage} {write : Write}
    (recorded : write.Recorded lineage) (grows : later.Extends lineage) : write.Recorded later := by
  cases write with
  | create id entityType supplied => exact grows _ _ recorded
  | delete id => trivial

namespace Lineage

variable {lineage later : Lineage} {store next : Store} {allocators after : Allocators}

theorem Knows.register (knows : lineage.Knows store) {type : EntityType}
    (done : store.register type = .ok next) : lineage.Knows next := by
  rcases Store.register_eq_ok done with ⟨schema, -, rfl⟩
  exact knows

theorem Knows.apply (knows : lineage.Knows store) {write : Write}
    (recorded : write.Recorded lineage) (done : write.apply store = .ok next) :
    lineage.Knows next := by
  intro other record live
  cases write with
  | create id entityType supplied =>
      rw [Store.get?_of_insert done] at live
      split at live
      · rename_i same
        cases live
        exact same ▸ recorded
      · exact knows other record live
  | delete id =>
      rcases Store.apply_delete_eq_ok_iff.mp done with ⟨removed, deleted⟩
      exact knows other record ((Store.get?_deleteArranged_iff deleted other record).mp live).1

theorem Knows.replay (knows : lineage.Knows store) {log : List Write}
    (recorded : ∀ write ∈ log, write.Recorded lineage) (done : store.replay log = .ok next) :
    lineage.Knows next :=
  Store.replay_keeps lineage.Knows
    (fun write _ _ member knows applied => knows.apply (recorded write member) applied) knows done

/-- Under a new identifier the lineage grows with a creation. -/
theorem Knows.create (knows : lineage.Knows store) {id : EntityId} {entityType : String}
    {supplied : List (String × Value)}
    (done : store.create allocators entityType supplied = .ok (id, next, after))
    (new : lineage id = none) : (lineage.add ⟨id, entityType, assemble supplied⟩).Knows next := by
  intro other record live
  rw [Store.get?_of_create done] at live
  split at live
  · rename_i same
    cases live
    exact same ▸ Lineage.add_self _
  · exact Lineage.add_extends new other record (knows other record live)

end Lineage

/-! ## Sessions -/

/-- What a transaction began from, works on and has logged is in a lineage. -/
structure Handle.Recorded (lineage : Lineage) (handle : Handle) : Prop where
  origin : lineage.Knows handle.origin
  working : lineage.Knows handle.transaction.store
  logged : ∀ write ∈ handle.transaction.log, write.Recorded lineage

namespace Handle

variable {handle : Handle} {lineage later : Lineage} {allocators after : Allocators}
  {issued handed : List EntityId} {request : Edit} {transaction : Transaction}

theorem Recorded.mono (recorded : handle.Recorded lineage) (grows : later.Extends lineage) :
    handle.Recorded later :=
  ⟨recorded.origin.mono grows, recorded.working.mono grows,
    fun write member => (recorded.logged write member).mono grows⟩

/-- One more write keeps a transaction in its lineage, which may grow with what
is handed out. -/
theorem Recorded.edit (recorded : handle.Recorded lineage)
    (known : ∀ (id : EntityId) (record : Record), lineage id = some record → id ∈ issued)
    (new : (allocators.allocate handle.transaction.store.allocator).1 ∉ issued)
    (done : request.run handle.transaction allocators = .ok (transaction, after, handed)) :
    ∃ later : Lineage, later.Extends lineage ∧ Recorded later { handle with transaction } ∧
      ∀ (id : EntityId) (record : Record), later id = some record → id ∈ issued ++ handed := by
  cases Edit.run_makes done with
  | @created entityType supplied id store _ active placed =>
      rcases Store.create_eq_ok placed with ⟨-, -, named, -, -⟩
      have unborn : lineage id = none := by
        apply Option.eq_none_iff_forall_ne_some.mpr
        intro record born
        exact new (named ▸ known id record born)
      have grows : (lineage.add ⟨id, entityType, assemble supplied⟩).Extends lineage :=
        Lineage.add_extends unborn
      refine ⟨_, grows, ⟨recorded.origin.mono grows, recorded.working.create placed unborn, ?_⟩,
        Lineage.mem_of_add known⟩
      intro write member
      rcases List.mem_append.mp member with old | last
      · exact (recorded.logged write old).mono grows
      · exact List.mem_singleton.mp last ▸ Lineage.add_self _
  | @deleted id _ _ active removes =>
      have deletes : (Write.delete id).Recorded lineage := trivial
      refine ⟨lineage, fun _ _ same => same, ⟨recorded.origin, ?_, ?_⟩, by rwa [List.append_nil]⟩
      · exact recorded.working.apply deletes (Store.apply_delete_eq_ok_iff.mpr ⟨_, removes⟩)
      · intro write member
        rcases List.mem_append.mp member with old | last
        · exact recorded.logged write old
        · exact List.mem_singleton.mp last ▸ deletes

end Handle

namespace Session

variable {session later : Session} {lineage : Lineage} {allocator : Allocator} {handle : Handle}
  {permitted : Store → Edit → Prop}

/-- Everything in a session is in one lineage, which knows of identifiers handed
out only. -/
structure Recorded (lineage : Lineage) (session : Session) : Prop where
  known : ∀ (id : EntityId) (record : Record), lineage id = some record → id ∈ session.issued
  committed : lineage.Knows session.engine.store
  handles : ∀ handle ∈ session.handles, handle.Recorded lineage

theorem Recorded.start {world : World} {engine : Engine}
    (handedOut : ∀ (id : EntityId) (record : Record), engine.store.get? id = some record →
      world.HandedOut engine.store id) : Recorded engine.store.get? (start world engine) :=
  ⟨handedOut, fun _ _ live => live, fun _ member => (List.not_mem_nil member).elim⟩

theorem Recorded.put_ended (recorded : session.Recorded lineage) {place : Nat}
    (found : session.handles[place]? = some handle) (transaction : Transaction)
    (store : transaction.store = handle.transaction.store)
    (log : transaction.log ⊆ handle.transaction.log) :
    (session.put place { handle with transaction } session.allocators []).Recorded lineage := by
  have before := recorded.handles handle (List.mem_of_getElem? found)
  have ended : Handle.Recorded lineage { handle with transaction } :=
    ⟨before.origin, store ▸ before.working, fun write member => before.logged write (log member)⟩
  refine ⟨fun id record born => ?_, recorded.committed, forall_handles_put recorded.handles ended⟩
  exact List.mem_append_left _ (recorded.known id record born)

theorem Recorded.outcome (recorded : session.Recorded lineage) {store : Store}
    (member : handle ∈ session.handles)
    (done : session.engine.outcome handle.transaction = .ok store) : lineage.Knows store := by
  have before := recorded.handles handle member
  unfold Engine.outcome at done
  split at done
  · cases done
    exact before.working
  · exact recorded.committed.replay before.logged done

theorem Recorded.moves (recorded : session.Recorded lineage)
    (accounted : session.Accounted allocator) (few : session.issued.length < UInt64.size)
    (moves : session.Moves permitted later) :
    ∃ grown : Lineage, grown.Extends lineage ∧ later.Recorded grown := by
  cases moves with
  | stayed => exact ⟨lineage, fun _ _ same => same, recorded⟩
  | begun =>
      refine ⟨lineage, fun _ _ same => same, recorded.known, recorded.committed,
        forall_handles_begin recorded.handles ?_⟩
      exact ⟨recorded.committed, recorded.committed, fun _ member => (List.not_mem_nil member).elim⟩
  | @edited place handle request transaction allocators handed found allowed done =>
      have member := List.mem_of_getElem? found
      have new := accounted.allocate_notMem few member
      rcases (recorded.handles handle member).edit recorded.known new done with
        ⟨grown, grows, edited, known⟩
      refine ⟨grown, grows, known, recorded.committed.mono grows,
        forall_handles_put (fun other member => ?_) edited⟩
      exact (recorded.handles other member).mono grows
  | ended found inactive base store log =>
      exact ⟨lineage, fun _ _ same => same, recorded.put_ended found _ store log⟩
  | registered done =>
      exact ⟨lineage, fun _ _ same => same, recorded.known, recorded.committed.register done,
        recorded.handles⟩
  | @committed place handle store found active outcome =>
      have settled := recorded.put_ended found { handle.transaction with status := .committed } rfl
        (List.Subset.refl _)
      exact ⟨lineage, fun _ _ same => same, settled.known,
        recorded.outcome (List.mem_of_getElem? found) outcome, settled.handles⟩

theorem Recorded.reaches (recorded : session.Recorded lineage)
    (accounted : session.Accounted allocator) (reaches : session.Reaches permitted later)
    (few : later.issued.length < UInt64.size) :
    ∃ grown : Lineage, grown.Extends lineage ∧ later.Recorded grown :=
  reaches.keeps (fun later => ∃ grown : Lineage, grown.Extends lineage ∧ later.Recorded grown)
    ⟨lineage, fun _ _ same => same, recorded⟩
    (fun before few moves ⟨_, grows, reached⟩ =>
      have ⟨grown, further, moved⟩ := reached.moves (accounted.reaches before) few moves
      ⟨grown, fun id record born => further id record (grows id record born), moved⟩) few

end Session

end EntityBase
