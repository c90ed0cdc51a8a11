import EntityBase.Proofs.Allocation
import EntityBase.Proofs.Store.Within

namespace EntityBase

/-!
# Histories of stores

A world holds every snapshot made so far.  A call is made on any of them, not
only on the newest, so a history branches, and the branches allocate from the
same counter.  Refused calls are part of a history and leave the world alone.

An insertion takes its identifier from the caller.  A lawful history inserts
only under identifiers that the allocator of the snapshot has handed out
before, which is what an insertion is for: repeating a creation elsewhere.
Beyond that it is free, so the identifier may be one whose entity has been
deleted, or one that went to another branch.

In a lawful history every snapshot is coherent, up to the wrap of the counter.
-/

/-- A call that makes another snapshot, or is refused.  A delete may walk the
entries of the index in any arrangement. -/
inductive StoreCall where
  | register (type : EntityType)
  | create (entityType : String) (supplied : List (String × Value))
  | insert (id : EntityId) (entityType : String) (supplied : List (String × Value))
  | delete (arrangement : Arrangement) (id : EntityId)

namespace StoreCall

/-- The identifier that a call brings along, if it is an insertion. -/
def inserted? : StoreCall → Option EntityId
  | .insert id _ _ => some id
  | _ => none

/-- Make a call on a snapshot.  Returns the next snapshot, the counters and
the identifiers handed out. -/
def run (store : Store) (allocators : Allocators) :
    (call : StoreCall) → Except Error (Store × Allocators × List EntityId)
  | .register type => do
      let next ← store.register type
      return (next, allocators, [])
  | .create entityType supplied => do
      let (id, next, allocators) ← store.create allocators entityType supplied
      return (next, allocators, [id])
  | .insert id entityType supplied => do
      let next ← store.insert id entityType supplied
      return (next, allocators, [])
  | .delete arrangement id => do
      let (next, _) ← store.deleteArranged arrangement id
      return (next, allocators, [])

/-- What a call that succeeds makes of a snapshot. -/
inductive Makes (store : Store) (allocators : Allocators) :
    StoreCall → Store → Allocators → List EntityId → Prop where
  | registered {type : EntityType} {next : Store} (made : store.register type = .ok next) :
      Makes store allocators (.register type) next allocators []
  | created {entityType : String} {supplied : List (String × Value)} {id : EntityId}
      {next : Store} {after : Allocators}
      (made : store.create allocators entityType supplied = .ok (id, next, after)) :
      Makes store allocators (.create entityType supplied) next after [id]
  | inserted {id : EntityId} {entityType : String} {supplied : List (String × Value)}
      {next : Store} (made : store.insert id entityType supplied = .ok next) :
      Makes store allocators (.insert id entityType supplied) next allocators []
  | deleted {arrangement : Arrangement} {id : EntityId} {next : Store} {removed : List EntityId}
      (made : store.deleteArranged arrangement id = .ok (next, removed)) :
      Makes store allocators (.delete arrangement id) next allocators []

theorem run_makes (call : StoreCall) {store next : Store} {allocators after : Allocators}
    {handed : List EntityId} (done : call.run store allocators = .ok (next, after, handed)) :
    call.Makes store allocators next after handed := by
  cases call with
  | register type =>
      rw [run, Outcome.bind_eq_ok_iff] at done
      rcases done with ⟨_, made, result⟩
      cases result
      exact .registered made
  | create entityType supplied =>
      rw [run, Outcome.bind_eq_ok_iff] at done
      rcases done with ⟨_, made, result⟩
      cases result
      exact .created made
  | insert id entityType supplied =>
      rw [run, Outcome.bind_eq_ok_iff] at done
      rcases done with ⟨_, made, result⟩
      cases result
      exact .inserted made
  | delete arrangement id =>
      rw [run, Outcome.bind_eq_ok_iff] at done
      rcases done with ⟨_, made, result⟩
      cases result
      exact .deleted made

end StoreCall

/-- The snapshots made so far, the newest first, with the counters. -/
structure World where
  stores : List Store := []
  allocators : Allocators := ∅
  /-- The identifiers that each allocator has handed out, the oldest first. -/
  issued : Allocator → List EntityId := fun _ => []

namespace World

variable {world : World} {store next : Store} {allocators : Allocators} {handed : List EntityId}

/-- Make a new store with an allocator of its own. -/
def withNew (world : World) : World :=
  let (store, allocators) := Store.new world.allocators
  { world with stores := store :: world.stores, allocators }

/-- Note identifiers as handed out by an allocator. -/
def note (world : World) (allocator : Allocator) (handed : List EntityId) :
    Allocator → List EntityId :=
  fun other => if other = allocator then world.issued other ++ handed else world.issued other

/-- The world after a call on a snapshot.  A refused call changes nothing. -/
def perform (world : World) (store : Store) (call : StoreCall) : World :=
  match call.run store world.allocators with
  | .error _ => world
  | .ok (next, allocators, handed) =>
      { stores := next :: world.stores
        allocators
        issued := world.note store.allocator handed }

/-- The worlds that calls lead to, with insertions as far as permitted. -/
inductive Reached (mayInsert : World → Store → EntityId → Prop) : World → Prop where
  | start : Reached mayInsert {}
  | new {world : World} (reached : Reached mayInsert world) : Reached mayInsert world.withNew
  | call {world : World} {store : Store} (reached : Reached mayInsert world)
      (member : store ∈ world.stores) (call : StoreCall)
      (permitted : ∀ id, call.inserted? = some id → mayInsert world store id) :
      Reached mayInsert (world.perform store call)

/-- Whether the allocator of a snapshot has handed out an identifier. -/
def HandedOut (world : World) (store : Store) (id : EntityId) : Prop :=
  id ∈ world.issued store.allocator

def Lawful (world : World) : Prop :=
  Reached HandedOut world

/-- The world after a call on its newest snapshot. -/
def advance (world : World) (call : StoreCall) : World :=
  match world.stores with
  | [] => world
  | store :: _ => world.perform store call

theorem Reached.advance {mayInsert : World → Store → EntityId → Prop}
    (reached : world.Reached mayInsert) (call : StoreCall)
    (permitted : ∀ store id, call.inserted? = some id → world.stores.head? = some store →
      mayInsert world store id) : (world.advance call).Reached mayInsert := by
  unfold World.advance
  split
  · exact reached
  · rename_i newest others listed
    exact Reached.call reached (listed ▸ List.mem_cons_self) call
      fun id brought => permitted newest id brought (by rw [listed]; rfl)

theorem Lawful.advance (lawful : world.Lawful) (call : StoreCall)
    (permitted : ∀ store id, call.inserted? = some id → world.stores.head? = some store →
      world.HandedOut store id) : (world.advance call).Lawful :=
  Reached.advance lawful call permitted

/-- Calls that insert nothing keep a history lawful. -/
theorem Lawful.advances (lawful : world.Lawful) {calls : List StoreCall}
    (inserts : ∀ call ∈ calls, call.inserted? = none) :
    (calls.foldl World.advance world).Lawful := by
  induction calls generalizing world with
  | nil => exact lawful
  | cons call rest ih =>
      refine ih (lawful.advance call fun store id brought => ?_)
        fun other member => inserts other (List.mem_cons_of_mem _ member)
      cases (inserts call List.mem_cons_self).symm.trans brought

/-! ## Counting -/

theorem issued_sublist_note (world : World) (allocator other : Allocator) (handed : List EntityId) :
    (world.issued other).Sublist (world.note allocator handed other) := by
  unfold note
  split
  · exact List.sublist_append_left _ _
  · exact List.Sublist.refl _

/-- A call leaves the counters alone or allocates once, and says so. -/
theorem accounts_run {call : StoreCall}
    (accounts : ∀ allocator, world.allocators.Accounts allocator (world.issued allocator))
    (done : call.run store world.allocators = .ok (next, allocators, handed))
    (allocator : Allocator) :
    allocators.Accounts allocator (world.note store.allocator handed allocator) := by
  cases call.run_makes done with
  | created made =>
      rcases Store.create_eq_ok made with ⟨draft, -, rfl, -, rfl⟩
      unfold note
      by_cases same : allocator = store.allocator
      · subst same
        rw [if_pos rfl]
        exact (accounts _).allocate
      · rw [if_neg same]
        exact (accounts allocator).allocate_of_ne (Ne.symm same)
  | registered made => simpa [note] using accounts allocator
  | inserted made => simpa [note] using accounts allocator
  | deleted made => simpa [note] using accounts allocator

/-- Every counter accounts for the identifiers handed out, whatever has been
inserted. -/
theorem Reached.accounts {mayInsert : World → Store → EntityId → Prop}
    (reached : Reached mayInsert world) (allocator : Allocator) :
    world.allocators.Accounts allocator (world.issued allocator) := by
  induction reached generalizing allocator with
  | start => exact ⟨rfl, by simp⟩
  | new reached ih => exact ⟨(ih allocator).counter, (ih allocator).below⟩
  | call reached member call permitted ih =>
      unfold perform
      split
      · exact ih allocator
      · exact accounts_run ih ‹_› allocator

/-! ## Lawful histories -/

/-- What a lawful history keeps of each of its snapshots. -/
structure Keeps (world : World) (store : Store) : Prop where
  within : store.Within store.allocator (world.issued store.allocator)
  coherent : (world.issued store.allocator).length < UInt64.size → store.Coherent

theorem Keeps.handedOut (keeps : world.Keeps store) (id : EntityId) (record : Record)
    (live : store.get? id = some record) : world.HandedOut store id :=
  keeps.within.live id record live

/-- A world in which more has been handed out keeps what was kept. -/
theorem Keeps.of_issued_sublist {later : World} (keeps : world.Keeps store)
    (grows : (world.issued store.allocator).Sublist (later.issued store.allocator)) :
    later.Keeps store where
  within := keeps.within.mono grows.subset
  coherent few := keeps.coherent (Nat.lt_of_le_of_lt grows.length_le few)

theorem keeps_new (world : World) : world.withNew.Keeps (Store.new world.allocators).1 where
  within := by
    refine ⟨rfl, fun id record live => ?_⟩
    rw [Store.get?_new] at live
    cases live
  coherent _ := Store.coherent_new world.allocators

section Calls

variable (keeps : world.Keeps store)
include keeps

/-- A snapshot on the same allocator is kept if it is within the same identifiers
and coherent where the snapshot before it is. -/
theorem Keeps.follow (within : next.Within store.allocator (world.issued store.allocator))
    (coherent : store.Coherent → next.Coherent) : world.Keeps next := by
  have same := within.allocator
  refine ⟨?_, fun few => coherent (keeps.coherent ?_)⟩
  · rw [same]
    exact within
  · rwa [same] at few

/-- A creation is kept once its identifier is noted.  Below the wrap the
identifier is new, so it replaces nothing. -/
theorem Keeps.create {entityType : String} {supplied : List (String × Value)} {id : EntityId}
    (accounts : world.allocators.Accounts store.allocator (world.issued store.allocator))
    (done : store.create world.allocators entityType supplied = .ok (id, next, allocators))
    {later : World}
    (noted : later.issued store.allocator = world.issued store.allocator ++ [id]) :
    later.Keeps next := by
  have within := keeps.within.create done
  have same := within.allocator
  rw [← noted] at within
  refine ⟨?_, fun few => ?_⟩
  · rw [same]
    exact within
  · rw [same, noted, List.length_append] at few
    have fewBefore := Nat.lt_of_le_of_lt (Nat.le_add_right _ _) few
    rcases Store.create_eq_ok done with ⟨draft, -, named, -, -⟩
    have new := accounts.allocate_notMem fewBefore
    exact (keeps.coherent fewBefore).create done (keeps.within.get?_eq_none (named ▸ new))

/-- What a call makes is kept once the call is noted. -/
theorem Keeps.run {call : StoreCall} {handed : List EntityId}
    (accounts : world.allocators.Accounts store.allocator (world.issued store.allocator))
    (handedOut : ∀ id, call.inserted? = some id → world.HandedOut store id)
    (done : call.run store world.allocators = .ok (next, allocators, handed)) {later : World}
    (noted : later.issued = world.note store.allocator handed) : later.Keeps next := by
  have grows : (world.issued store.allocator).Sublist (later.issued store.allocator) := by
    rw [noted]
    exact issued_sublist_note world store.allocator store.allocator handed
  have kept : later.Keeps store := keeps.of_issued_sublist grows
  cases call.run_makes done with
  | registered made =>
      exact kept.follow (kept.within.register made) fun coherent => coherent.register made
  | created made => exact keeps.create accounts made (by rw [noted, note, if_pos rfl])
  | inserted made =>
      have member := grows.subset (handedOut _ rfl)
      exact kept.follow (kept.within.insert member made) fun coherent => coherent.insert made
  | deleted made =>
      exact kept.follow (kept.within.deleteArranged made) fun coherent => coherent.deleteArranged made

end Calls

/-- A lawful history keeps every snapshot that it has made. -/
theorem Lawful.keeps (lawful : world.Lawful) (member : store ∈ world.stores) :
    world.Keeps store := by
  unfold Lawful at lawful
  induction lawful generalizing store with
  | start => cases member
  | @new world reached ih =>
      rcases List.mem_cons.mp member with same | old
      · rw [same]
        exact keeps_new world
      · exact (ih old).of_issued_sublist (List.Sublist.refl _)
  | @call world current reached current_mem call permitted ih =>
      unfold perform at member ⊢
      cases ran : call.run current world.allocators with
      | error cause => simpa only [ran] using ih (by simpa only [ran] using member)
      | ok result =>
          rcases result with ⟨next, allocators, handed⟩
          simp only [ran] at member ⊢
          rcases List.mem_cons.mp member with same | old
          · subst same
            exact (ih current_mem).run (reached.accounts _) permitted ran rfl
          · exact (ih old).of_issued_sublist (issued_sublist_note _ _ _ _)

end World

end EntityBase
