import EntityBase.Proofs.Engine.FastPath
import EntityBase.Proofs.Engine.Replay

namespace EntityBase

/-!
# Who may still create what

An identifier is handed out long before the entity under it is committed, if it
ever is.  Until then it is pending in the log of one open transaction, and in no
other.  An identifier that is pending nowhere is settled.  No log can bring it
into the committed snapshot any more, so from then on that snapshot can only
lose it.  What the committed snapshot has is settled, and what any transaction
began from is settled as well.

This is what rules out that an entity returns after its deletion, since an
insertion takes any identifier that is not live.
-/

/-- The identifiers that an open transaction is yet to create entities under in
the committed snapshot. -/
def Transaction.pending (transaction : Transaction) : List EntityId :=
  if transaction.isActive then Write.creations transaction.log else []

theorem Transaction.pending_of_active {transaction : Transaction}
    (active : transaction.isActive = true) :
    transaction.pending = Write.creations transaction.log :=
  if_pos active

theorem Transaction.pending_of_inactive {transaction : Transaction}
    (inactive : transaction.isActive = false) : transaction.pending = [] := by
  rw [pending, inactive]
  rfl

namespace Edit

variable {transaction next : Transaction} {allocators after : Allocators} {request : Edit}
  {handed : List EntityId}

/-- What is handed out is pending from then on. -/
theorem pending_run (done : request.run transaction allocators = .ok (next, after, handed)) :
    next.pending = transaction.pending ++ handed := by
  cases run_makes done with
  | created active placed =>
      rw [Transaction.pending_of_active active, Transaction.pending]
      exact (if_pos active).trans (Write.creations_append _ _)
  | deleted active removes =>
      rw [Transaction.pending_of_active active, Transaction.pending]
      exact (if_pos active).trans (Write.creations_append _ _)

theorem eq_of_handed (done : request.run transaction allocators = .ok (next, after, handed)) :
    handed = [] ∨ handed = [(allocators.allocate transaction.store.allocator).1] := by
  cases run_makes done with
  | created active placed =>
      rcases Store.create_eq_ok placed with ⟨-, -, rfl, -, -⟩
      exact Or.inr rfl
  | deleted active removes => exact Or.inl rfl

end Edit

namespace Session

variable {session later : Session} {initial : Engine} {allocator : Allocator} {handle : Handle}
  {permitted : Store → Edit → Prop} {place : Nat} {id : EntityId}

/-- An identifier that has been handed out and is pending nowhere. -/
structure Settled (session : Session) (id : EntityId) : Prop where
  issued : id ∈ session.issued
  unpending : ∀ handle ∈ session.handles, id ∉ handle.transaction.pending

/-- No two transactions have an identifier pending, and what has been committed
is pending nowhere. -/
structure Separate (session : Session) : Prop where
  issued : ∀ handle ∈ session.handles, handle.transaction.pending ⊆ session.issued
  once : ∀ handle ∈ session.handles, handle.transaction.pending.Nodup
  apart : ∀ (place other : Nat) (handle another : Handle), session.handles[place]? = some handle →
    session.handles[other]? = some another → place ≠ other →
    handle.transaction.pending.Disjoint another.transaction.pending
  committed : ∀ (id : EntityId) (record : Record), session.engine.store.get? id = some record →
    session.Settled id
  origins : ∀ handle ∈ session.handles, ∀ (id : EntityId) (record : Record),
    handle.origin.get? id = some record → session.Settled id

theorem Separate.start {world : World} {engine : Engine}
    (handedOut : ∀ (id : EntityId) (record : Record), engine.store.get? id = some record →
      world.HandedOut engine.store id) : (start world engine).Separate where
  issued _ member := (List.not_mem_nil member).elim
  once _ member := (List.not_mem_nil member).elim
  apart _ _ _ _ found := by cases found
  committed id record live :=
    ⟨handedOut id record live, fun _ member => (List.not_mem_nil member).elim⟩
  origins _ member := (List.not_mem_nil member).elim

/-! ## Steps -/

/-- The identifiers of an edit are new to the session. -/
theorem Accounted.handed_notMem (accounted : session.Accounted allocator)
    (few : session.issued.length < UInt64.size) (member : handle ∈ session.handles) {request : Edit}
    {transaction : Transaction} {allocators : Allocators} {handed : List EntityId}
    (done : request.run handle.transaction session.allocators =
      .ok (transaction, allocators, handed)) : session.issued.Disjoint handed := by
  rcases Edit.eq_of_handed done with rfl | rfl
  · exact List.disjoint_nil_right _
  · exact List.disjoint_singleton.mpr (accounted.allocate_notMem few member)

section Put

variable {transaction : Transaction} {allocators : Allocators} {handed : List EntityId}
  (found : session.handles[place]? = some handle)
  (pending : transaction.pending ⊆ handle.transaction.pending ++ handed)
  (new : session.issued.Disjoint handed)
include found pending new

/-- What is settled stays so whatever is handed out. -/
theorem Settled.put (settled : session.Settled id) :
    (session.put place { handle with transaction } allocators handed).Settled id := by
  refine ⟨List.mem_append_left _ settled.issued,
    forall_handles_put settled.unpending fun waits => ?_⟩
  rcases List.mem_append.mp (pending waits) with old | fresh
  · exact settled.unpending handle (List.mem_of_getElem? found) old
  · exact new settled.issued fresh

omit pending new in
theorem Settled.put_ended (settled : session.Settled id) (inactive : transaction.isActive = false) :
    (session.put place { handle with transaction } session.allocators []).Settled id := by
  refine settled.put found ?_ (List.disjoint_nil_right _)
  rw [Transaction.pending_of_inactive inactive]
  exact List.nil_subset _

/-- A transaction may be put back with what it has been handed, or with less. -/
theorem Separate.put (separate : session.Separate) (once : transaction.pending.Nodup) :
    (session.put place { handle with transaction } allocators handed).Separate where
  issued := by
    refine forall_handles_put (fun other member => ?_) fun id waits => ?_
    · exact List.Subset.trans (separate.issued other member) (List.subset_append_left _ _)
    · exact (List.mem_append.mp (pending waits)).elim
        (fun old => List.mem_append_left _
          (separate.issued handle (List.mem_of_getElem? found) old))
        (List.mem_append_right _)
  once := forall_handles_put separate.once once
  apart := by
    have others : ∀ (other : Nat) (another : Handle), session.handles[other]? = some another →
        place ≠ other → transaction.pending.Disjoint another.transaction.pending := by
      intro other another there different id waits alsoWaits
      rcases List.mem_append.mp (pending waits) with old | fresh
      · exact separate.apart place other handle another found there different old alsoWaits
      · exact new (separate.issued another (List.mem_of_getElem? there) alsoWaits) fresh
    intro first second left right isLeft isRight different
    rw [Session.put, List.getElem?_set] at isLeft isRight
    split at isLeft
    · rename_i same
      subst same
      rw [if_neg different] at isRight
      split at isLeft
      · cases isLeft
        exact others second right isRight different
      · cases isLeft
    · split at isRight
      · rename_i same
        subst same
        split at isRight
        · cases isRight
          exact List.disjoint_symm (others first left isLeft (Ne.symm different))
        · cases isRight
      · exact separate.apart first second left right isLeft isRight different
  committed id record live := (separate.committed id record live).put found pending new
  origins := by
    have kept : ∀ other ∈ session.handles, ∀ (id : EntityId) (record : Record),
        other.origin.get? id = some record →
        (session.put place { handle with transaction } allocators handed).Settled id :=
      fun other member id record live =>
        (separate.origins other member id record live).put found pending new
    intro other member
    rcases List.mem_or_eq_of_mem_set member with old | rfl
    · exact kept other old
    · exact kept handle (List.mem_of_getElem? found)

omit pending new in
theorem Separate.put_ended (separate : session.Separate) (inactive : transaction.isActive = false) :
    (session.put place { handle with transaction } session.allocators []).Separate := by
  have none := Transaction.pending_of_inactive inactive
  refine separate.put found ?_ (List.disjoint_nil_right _) ?_
  · rw [none]
    exact List.nil_subset _
  · rw [none]
    exact List.nodup_nil

end Put

/-- What an ended transaction had pending is settled. -/
theorem Separate.settled_of_ended (separate : session.Separate)
    (found : session.handles[place]? = some handle) {transaction : Transaction}
    (inactive : transaction.isActive = false) (waited : id ∈ handle.transaction.pending) :
    (session.put place { handle with transaction } session.allocators []).Settled id := by
  refine ⟨List.mem_append_left _ (separate.issued handle (List.mem_of_getElem? found) waited), ?_⟩
  intro another member waits
  rcases List.getElem?_of_mem member with ⟨other, there⟩
  rw [Session.put, List.getElem?_set] at there
  split at there
  · split at there
    · cases there
      rw [Transaction.pending_of_inactive inactive] at waits
      cases waits
    · cases there
  · rename_i different
    exact separate.apart place other handle another found there different waited waits

/-- Another snapshot may be committed if all it has is settled. -/
theorem Separate.change (separate : session.Separate) {engine : Engine} {history : List Change}
    (settled : ∀ (id : EntityId) (record : Record), engine.store.get? id = some record →
      session.Settled id) : Separate { session with engine, history } where
  issued := separate.issued
  once := separate.once
  apart := separate.apart
  committed id record live := ⟨(settled id record live).issued, (settled id record live).unpending⟩
  origins handle member id record live :=
    have settled := separate.origins handle member id record live
    ⟨settled.issued, settled.unpending⟩

theorem Separate.begin (separate : session.Separate) : session.begin.Separate := by
  have none : session.engine.begin.1.pending = [] := rfl
  have settles : ∀ id, session.Settled id → session.begin.Settled id := fun id settled =>
    ⟨settled.issued, forall_handles_begin settled.unpending (none ▸ List.not_mem_nil)⟩
  refine ⟨forall_handles_begin separate.issued (none ▸ List.nil_subset _),
    forall_handles_begin separate.once (none ▸ List.nodup_nil), ?_,
    fun id record live => settles id (separate.committed id record live),
    forall_handles_begin (fun handle member id record live =>
      settles id (separate.origins handle member id record live))
      fun id record live => settles id (separate.committed id record live)⟩
  have old : ∀ (place : Nat) (handle : Handle), session.begin.handles[place]? = some handle →
      handle.transaction.pending ≠ [] → session.handles[place]? = some handle := by
    intro place handle found waits
    rw [Session.begin, List.getElem?_append] at found
    split at found
    · exact found
    · rw [List.getElem?_singleton] at found
      split at found
      · cases found
        exact absurd none waits
      · cases found
  intro place other handle another found there different id waits alsoWaits
  have was := old place handle found (List.ne_nil_of_mem waits)
  have alsoWas := old other another there (List.ne_nil_of_mem alsoWaits)
  exact separate.apart place other handle another was alsoWas different waits alsoWaits

theorem Settled.moves (settled : session.Settled id) (accounted : session.Accounted allocator)
    (few : session.issued.length < UInt64.size) (moves : session.Moves permitted later) :
    later.Settled id := by
  cases moves with
  | stayed => exact settled
  | begun => exact ⟨settled.issued, forall_handles_begin settled.unpending List.not_mem_nil⟩
  | edited found allowed done =>
      have new := accounted.handed_notMem few (List.mem_of_getElem? found) done
      exact settled.put found (Edit.pending_run done ▸ List.Subset.refl _) new
  | ended found inactive base store log => exact settled.put_ended found inactive
  | registered done => exact ⟨settled.issued, settled.unpending⟩
  | @committed place handle store found active outcome =>
      have inactive : { handle.transaction with status := .committed }.isActive = false := rfl
      have ended := settled.put_ended found inactive
      exact ⟨ended.issued, ended.unpending⟩

/-- Whichever way a commit takes, it installs what was settled or is pending in
its own transaction. -/
theorem Separate.outcome (separate : session.Separate) (replays : session.Replays)
    (member : handle ∈ session.handles) (active : handle.transaction.isActive = true)
    {store : Store} (outcome : session.engine.outcome handle.transaction = .ok store)
    {record : Record} (live : store.get? id = some record) :
    session.Settled id ∨ id ∈ handle.transaction.pending := by
  rw [Transaction.pending_of_active active]
  unfold Engine.outcome at outcome
  split at outcome
  · cases outcome
    exact (Store.get?_of_replay (replays handle member active) live).imp_left
      (separate.origins handle member id record)
  · exact (Store.get?_of_replay outcome live).imp_left (separate.committed id record)

theorem Separate.moves (separate : session.Separate) (accounted : session.Accounted allocator)
    (replays : session.Replays) (few : session.issued.length < UInt64.size)
    (moves : session.Moves permitted later) : later.Separate := by
  cases moves with
  | stayed => exact separate
  | begun => exact separate.begin
  | @edited place handle request transaction allocators handed found allowed done =>
      have member := List.mem_of_getElem? found
      have new := accounted.handed_notMem few member done
      have waits := Edit.pending_run done
      refine separate.put found (waits ▸ List.Subset.refl _) new ?_
      rw [waits, List.nodup_append']
      refine ⟨separate.once handle member, ?_,
        fun id old => new (separate.issued handle member old)⟩
      rcases Edit.eq_of_handed done with rfl | rfl
      · exact List.nodup_nil
      · exact List.nodup_singleton _
  | ended found inactive base store log => exact separate.put_ended found inactive
  | registered done =>
      rcases Store.register_eq_ok done with ⟨schema, -, rfl⟩
      exact separate.change separate.committed
  | @committed place handle store found active outcome =>
      have inactive : { handle.transaction with status := .committed }.isActive = false := rfl
      refine (separate.put_ended found inactive).change fun id record live => ?_
      rcases separate.outcome replays (List.mem_of_getElem? found) active outcome live with
        settled | pending
      · exact settled.put_ended found inactive
      · exact separate.settled_of_ended found inactive pending

/-! ## Regular sessions -/

/-- What a session promises as long as identifiers do not wrap, whatever snapshot
it started on. -/
structure Regular (session : Session) (allocator : Allocator) : Prop where
  accounted : session.Accounted allocator
  replays : session.Replays
  separate : session.Separate

/-- A session may start on any snapshot whose identifiers have been handed out. -/
theorem Regular.start {world : World} {engine : Engine}
    {mayInsert : World → Store → EntityId → Prop} (built : world.Reached mayInsert)
    (handedOut : ∀ (id : EntityId) (record : Record), engine.store.get? id = some record →
      world.HandedOut engine.store id) : (start world engine).Regular engine.store.allocator :=
  ⟨Accounted.start built handedOut, fun _ member => (List.not_mem_nil member).elim,
    Separate.start handedOut⟩

theorem Regular.moves (regular : session.Regular allocator)
    (few : session.issued.length < UInt64.size) (moves : session.Moves permitted later) :
    later.Regular allocator :=
  ⟨regular.accounted.moves moves, regular.replays.moves regular.accounted few moves,
    regular.separate.moves regular.accounted regular.replays few moves⟩

theorem Regular.reaches (regular : session.Regular allocator)
    (reaches : session.Reaches permitted later) (few : later.issued.length < UInt64.size) :
    later.Regular allocator :=
  reaches.keeps (·.Regular allocator) regular
    (fun _ few moves regular => regular.moves few moves) few

/-- What is settled and not in the committed snapshot does not come into it, as
long as a version number belongs to one snapshot. -/
theorem Settled.absent_moves (settled : session.Settled id) (faithful : session.Faithful initial)
    (fewVersions : session.history.length < UInt64.size)
    (absent : session.engine.store.get? id = none) (moves : session.Moves permitted later) :
    later.engine.store.get? id = none := by
  cases moves with
  | stayed => exact absent
  | begun => exact absent
  | edited found allowed done => exact absent
  | ended found inactive base store log => exact absent
  | registered done =>
      rcases Store.register_eq_ok done with ⟨schema, -, rfl⟩
      exact absent
  | @committed place handle store found active outcome =>
      have member := List.mem_of_getElem? found
      rw [faithful.outcome_eq fewVersions member active] at outcome
      apply Option.eq_none_iff_forall_ne_some.mpr
      intro record live
      rcases Store.get?_of_replay outcome live with old | created
      · rw [absent] at old
        cases old
      · rw [← Transaction.pending_of_active active] at created
        exact settled.unpending handle member created

theorem Settled.absent_reaches (settled : session.Settled id)
    (accounted : session.Accounted allocator) (faithful : session.Faithful initial)
    (absent : session.engine.store.get? id = none) (reaches : session.Reaches permitted later)
    (few : later.issued.length < UInt64.size) (fewVersions : later.history.length < UInt64.size) :
    later.engine.store.get? id = none := by
  have kept := reaches.keeps_versioned
    (fun later => later.Settled id ∧ later.engine.store.get? id = none) ⟨settled, absent⟩
    (fun before few fewVersions moves ⟨settled, absent⟩ =>
      ⟨settled.moves (accounted.reaches before) few moves,
        settled.absent_moves (faithful.reaches accounted before few fewVersions) fewVersions absent
          moves⟩) few fewVersions
  exact kept.2

end Session

end EntityBase
