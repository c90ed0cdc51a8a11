import EntityBase.Proofs.Engine.Session

namespace EntityBase

/-!
# Identifiers in a session

Whatever is written, committed or given up in a session, the counter accounts
for the identifiers handed out, and all snapshots and logs lie within them.
This holds even past the wrap of the counter.  What needs the bound is its
consequence: below the wrap, the identifier of a creation is new to every
snapshot of the session, and not only to the one it is created in.
-/

/-- A transaction that lies within identifiers by its snapshot and its log. -/
structure Transaction.Within (transaction : Transaction) (allocator : Allocator)
    (issued : List EntityId) : Prop where
  store : transaction.store.Within allocator issued
  logged : ∀ write ∈ transaction.log, ∀ id, write.created? = some id → id ∈ issued

variable {transaction next : Transaction} {allocators after : Allocators} {allocator : Allocator}
  {issued more handed : List EntityId} {request : Edit}

theorem Transaction.Within.mono (within : transaction.Within allocator issued)
    (grows : issued ⊆ more) : transaction.Within allocator more :=
  ⟨within.store.mono grows, fun write member id created =>
    grows (within.logged write member id created)⟩

theorem Transaction.Within.edit (within : transaction.Within allocator issued)
    (done : request.run transaction allocators = .ok (next, after, handed)) :
    next.Within allocator (issued ++ handed) := by
  have kept := within.mono (List.subset_append_left issued handed)
  cases Edit.run_makes done with
  | created active placed =>
      refine ⟨within.store.create placed, fun write member other named => ?_⟩
      rcases List.mem_append.mp member with old | last
      · exact kept.logged write old other named
      · cases List.mem_singleton.mp last
        cases named
        simp
  | deleted active removes =>
      refine ⟨kept.store.delete removes, fun write member other named => ?_⟩
      rcases List.mem_append.mp member with old | last
      · exact kept.logged write old other named
      · cases List.mem_singleton.mp last
        cases named

theorem Edit.accounts_run (accounts : allocators.Accounts allocator issued)
    (same : transaction.store.allocator = allocator)
    (done : request.run transaction allocators = .ok (next, after, handed)) :
    after.Accounts allocator (issued ++ handed) := by
  cases run_makes done with
  | created active placed =>
      rcases Store.create_eq_ok placed with ⟨-, -, named, -, counted⟩
      rw [named, counted, same]
      exact accounts.allocate
  | deleted active removes => rwa [List.append_nil]

namespace Session

variable {session later : Session} {place : Nat} {handle : Handle}
  {permitted : Store → Edit → Prop}

/-- Everything in a session lies within the identifiers handed out, for which
the counter accounts. -/
structure Accounted (session : Session) (allocator : Allocator) : Prop where
  counter : session.allocators.Accounts allocator session.issued
  committed : session.engine.store.Within allocator session.issued
  working : ∀ handle ∈ session.handles, handle.transaction.Within allocator session.issued

/-- A session may start on a snapshot of any built world, if the allocator of
the snapshot has handed out the identifiers in it. -/
theorem Accounted.start {world : World} {engine : Engine}
    {mayInsert : World → Store → EntityId → Prop} (built : world.Reached mayInsert)
    (handedOut : ∀ (id : EntityId) (record : Record), engine.store.get? id = some record →
      world.HandedOut engine.store id) :
    (start world engine).Accounted engine.store.allocator :=
  ⟨built.accounts _, ⟨rfl, handedOut⟩, fun _ member => (List.not_mem_nil member).elim⟩

/-- A transaction may be put back with what it has been handed. -/
theorem Accounted.put (accounted : session.Accounted allocator)
    (counter : allocators.Accounts allocator (session.issued ++ handed))
    (within : handle.transaction.Within allocator (session.issued ++ handed)) :
    (session.put place handle allocators handed).Accounted allocator where
  counter := counter
  committed := accounted.committed.mono (List.subset_append_left _ _)
  working := by
    have others : ∀ other ∈ session.handles,
        other.transaction.Within allocator (session.issued ++ handed) := by
      intro other member
      exact (accounted.working other member).mono (List.subset_append_left _ _)
    exact forall_handles_put others within

theorem Accounted.put_ended (accounted : session.Accounted allocator)
    (found : session.handles[place]? = some handle) (transaction : Transaction)
    (store : transaction.store = handle.transaction.store)
    (log : transaction.log ⊆ handle.transaction.log) :
    (session.put place { handle with transaction } session.allocators []).Accounted allocator := by
  have within := accounted.working handle (List.mem_of_getElem? found)
  apply accounted.put <;> rw [List.append_nil]
  · exact accounted.counter
  · exact ⟨store ▸ within.store, fun write member => within.logged write (log member)⟩

theorem Accounted.outcome (accounted : session.Accounted allocator) {store : Store}
    (member : handle ∈ session.handles)
    (done : session.engine.outcome handle.transaction = .ok store) :
    store.Within allocator session.issued := by
  have within := accounted.working handle member
  unfold Engine.outcome at done
  split at done
  · cases done
    exact within.store
  · exact accounted.committed.replay within.logged done

theorem Accounted.moves (accounted : session.Accounted allocator)
    (moves : session.Moves permitted later) : later.Accounted allocator := by
  cases moves with
  | stayed => exact accounted
  | begun =>
      have first : session.engine.begin.1.Within allocator session.issued :=
        ⟨accounted.committed, fun _ member => (List.not_mem_nil member).elim⟩
      exact ⟨accounted.counter, accounted.committed, forall_handles_begin accounted.working first⟩
  | edited found allowed done =>
      have within := accounted.working _ (List.mem_of_getElem? found)
      exact accounted.put (Edit.accounts_run accounted.counter within.store.allocator done)
        (within.edit done)
  | ended found inactive base store log => exact accounted.put_ended found _ store log
  | registered done => exact ⟨accounted.counter, accounted.committed.register done, accounted.working⟩
  | @committed place handle store found active outcome =>
      have settled := accounted.put_ended found { handle.transaction with status := .committed } rfl
        (List.Subset.refl _)
      refine ⟨settled.counter, ?_, settled.working⟩
      exact (accounted.outcome (List.mem_of_getElem? found) outcome).mono
        (List.subset_append_left _ _)

theorem Accounted.reaches (accounted : session.Accounted allocator)
    (reaches : session.Reaches permitted later) : later.Accounted allocator := by
  induction reaches with
  | refl => exact accounted
  | tail _ moves ih => exact ih.moves moves

/-- Below the wrap, an allocation for a transaction yields an identifier that
nothing in the session has. -/
theorem Accounted.allocate_notMem (accounted : session.Accounted allocator)
    (few : session.issued.length < UInt64.size) (member : handle ∈ session.handles) :
    (session.allocators.allocate handle.transaction.store.allocator).1 ∉ session.issued := by
  rw [(accounted.working handle member).store.allocator]
  exact accounted.counter.allocate_notMem few

end Session

end EntityBase
