import EntityBase.Proofs.Engine.Interleaving
import EntityBase.Proofs.Engine.Lineage
import EntityBase.Proofs.Engine.Separation
import EntityBase.Proofs.Store.History

namespace EntityBase

/-!
# Commits that meet no conflict

A commit that finds a newer version repeats its log there.  The snapshot that a
transaction began from and the committed one are then two snapshots of one
session.  Both are coherent, they agree on the entities and the types that they
share, and the identifiers that the log has been handed are new to both.  So the
work of an undisturbed transaction goes through.  It is not lost, and neither is
that of the others.
-/

namespace Store

variable {store next : Store}

theorem extends_of_evolve {history : List Change} (done : store.evolve history = .ok next) :
    next.schema.Extends store.schema := by
  induction history generalizing store with
  | nil =>
      cases done
      exact .refl _
  | cons change rest ih =>
      rw [evolve, List.foldlM_cons, Outcome.bind_eq_ok_iff] at done
      rcases done with ⟨between, changed, led⟩
      have grows : between.schema.Extends store.schema := by
        cases change with
        | registered type =>
            rcases register_eq_ok changed with ⟨schema, registers, rfl⟩
            exact (Schema.Extends.refl _).register registers
        | committed log => exact schema_replay changed ▸ .refl _
      exact fun name type found => ih led name type (grows name type found)

end Store

namespace Session

variable {session later : Session} {initial : Engine} {allocator : Allocator} {lineage : Lineage}
  {handle : Handle} {permitted : Store → Edit → Prop}

/-- The snapshots of a session that started on a coherent one. -/
structure Sound (session : Session) : Prop where
  committed : session.engine.store.Coherent
  origins : ∀ handle ∈ session.handles, handle.origin.Coherent

theorem Sound.start {world : World} {engine : Engine} (coherent : engine.store.Coherent) :
    (start world engine).Sound :=
  ⟨coherent, fun _ member => (List.not_mem_nil member).elim⟩

theorem Sound.put (sound : session.Sound) {place : Nat}
    (found : session.handles[place]? = some handle) {transaction : Transaction}
    {allocators : Allocators} {handed : List EntityId} :
    (session.put place { handle with transaction } allocators handed).Sound := by
  refine ⟨sound.committed, fun other member => ?_⟩
  rcases List.mem_or_eq_of_mem_set member with old | rfl
  · exact sound.origins other old
  · exact sound.origins handle (List.mem_of_getElem? found)

theorem Sound.outcome (sound : session.Sound) (replays : session.Replays)
    (member : handle ∈ session.handles) (active : handle.transaction.isActive = true)
    {store : Store} (outcome : session.engine.outcome handle.transaction = .ok store) :
    store.Coherent := by
  unfold Engine.outcome at outcome
  split at outcome
  · cases outcome
    exact (sound.origins handle member).replay (replays handle member active)
  · exact sound.committed.replay outcome

theorem Sound.moves (sound : session.Sound) (replays : session.Replays)
    (moves : session.Moves permitted later) : later.Sound := by
  cases moves with
  | stayed => exact sound
  | begun => exact ⟨sound.committed, forall_handles_begin sound.origins sound.committed⟩
  | edited found allowed done => exact sound.put found
  | ended found inactive base store log => exact sound.put found
  | registered done => exact ⟨sound.committed.register done, sound.origins⟩
  | @committed place handle store found active outcome =>
      have settled : (session.put place
          { handle with transaction := { handle.transaction with status := .committed } }
          session.allocators []).Sound := sound.put found
      exact ⟨sound.outcome replays (List.mem_of_getElem? found) active outcome, settled.origins⟩

theorem Sound.reaches (sound : session.Sound) (regular : session.Regular allocator)
    (reaches : session.Reaches permitted later) (few : later.issued.length < UInt64.size) :
    later.Sound :=
  reaches.keeps (·.Sound) sound
    (fun before few moves sound => sound.moves (regular.reaches before few).replays moves) few

/-- The committed schema has all that a transaction began with. -/
theorem Faithful.extends_origin (faithful : session.Faithful initial)
    (member : handle ∈ session.handles) :
    session.engine.store.schema.Extends handle.origin.schema := by
  rcases faithful.begun handle member with ⟨earlier, ⟨rest, history⟩, -, led⟩
  have committed := faithful.committed
  rw [← history, Store.evolve_append led] at committed
  exact Store.extends_of_evolve committed

/-- What is pending in a transaction is free in the committed snapshot and in
the one that it began from. -/
theorem Separate.free (separate : session.Separate) (member : handle ∈ session.handles) :
    session.engine.store.Free handle.transaction.pending ∧
      handle.origin.Free handle.transaction.pending := by
  constructor <;> intro id pending <;> apply Option.eq_none_iff_forall_ne_some.mpr <;>
    intro record live
  · exact (separate.committed id record live).unpending handle member pending
  · exact (separate.origins handle member id record live).unpending handle member pending

/-- The snapshot that an open transaction began from stands beside the committed
one, as its log asks for. -/
theorem Regular.alongside (regular : session.Regular allocator) (sound : session.Sound)
    (faithful : session.Faithful initial) (recorded : session.Recorded lineage)
    (member : handle ∈ session.handles) (active : handle.transaction.isActive = true) :
    handle.origin.Alongside session.engine.store handle.transaction.log where
  coherent := sound.origins handle member
  alsoCoherent := sound.committed
  agrees := by
    have origin := (recorded.handles handle member).origin
    refine ⟨fun id left right isLeft isRight => ?_, fun name left right isLeft isRight => ?_⟩
    · exact Option.some.inj
        ((origin id left isLeft).symm.trans (recorded.committed id right isRight))
    · exact Option.some.inj ((faithful.extends_origin member name left isLeft).symm.trans isRight)
  grows := faithful.extends_origin member
  once := Transaction.pending_of_active active ▸ regular.separate.once handle member
  free := Transaction.pending_of_active active ▸ (regular.separate.free member).2
  alsoFree := Transaction.pending_of_active active ▸ (regular.separate.free member).1

/-- A session on a snapshot of a lawful history. -/
theorem exists_of_reaches {world : World} {engine : Engine} (lawful : world.Lawful)
    (member : engine.store ∈ world.stores) (reaches : (start world engine).Reaches permitted session)
    (few : session.issued.length < UInt64.size) :
    session.Regular engine.store.allocator ∧ session.Sound ∧
      (session.history.length < UInt64.size → session.Faithful engine) ∧
      ∃ lineage, session.Recorded lineage := by
  have keeps := lawful.keeps member
  have regular := Regular.start lawful keeps.handedOut
  have coherent := keeps.coherent (Nat.lt_of_le_of_lt reaches.grows.1.length_le few)
  have faithful := (Faithful.start world engine).reaches regular.accounted reaches few
  rcases (Recorded.start keeps.handedOut).reaches regular.accounted reaches few with
    ⟨lineage, -, recorded⟩
  exact ⟨regular.reaches reaches few, (Sound.start coherent).reaches regular reaches few, faithful,
    lineage, recorded⟩

theorem exists_of_run {world : World} {engine : Engine} {actions : List Action}
    (lawful : world.Lawful) (member : engine.store ∈ world.stores)
    (ran : (start world engine).run actions = session)
    (few : session.issued.length < UInt64.size) :
    session.Regular engine.store.allocator ∧ session.Sound ∧
      (session.history.length < UInt64.size → session.Faithful engine) ∧
      ∃ lineage, session.Recorded lineage := by
  have reaches : (start world engine).Reaches (fun _ _ => True) session :=
    ran ▸ run_reaches actions fun _ _ _ _ => trivial
  exact exists_of_reaches lawful member reaches few

end Session

/-! ## Undisturbed transactions -/

/-- The working run of a transaction has removed an entity that it has found or
created. -/
def Handle.Removed (handle : Handle) (id : EntityId) : Prop :=
  (handle.origin.contains id = true ∨ id ∈ Write.creations handle.transaction.log) ∧
    handle.transaction.store.contains id = false

namespace Session

variable {session : Session} {initial : Engine} {lineage : Lineage} {handle : Handle}

namespace Sample

def folder : EntityType :=
  { name := "Folder" }

/-- Notes go with their folder. -/
def note : EntityType :=
  { name := "Note"
    attributes := [{ field := "folder", kind := .reference "Folder", cascade := true }] }

theorem newest_mem {world : World} {fallback : Store}
    (present : world.stores.head?.isSome = true) :
    world.stores.head?.getD fallback ∈ world.stores := by
  rcases Option.isSome_iff_exists.mp present with ⟨store, first⟩
  rw [first]
  exact List.mem_of_mem_head? first

theorem contains_iff_mem_keys {store : Store} {keys : List EntityId}
    (all : store.records.keys = keys) (id : EntityId) :
    store.contains id = true ↔ id ∈ keys := by
  rw [← all, Std.ExtTreeMap.mem_keys, Store.contains, Std.ExtTreeMap.contains_iff_mem]

end Sample

end Session

end EntityBase
