import EntityBase.Proofs.Identity.Lineage

namespace EntityBase

/-!
# Sessions in a lineage

Everything in a session descends from one lineage: the committed snapshot, the
working snapshots and the logs.  A licensed edit makes the lineage grow by the
record it creates, under an identifier that nothing in the session has.  A
commit that repeats its log only makes records that are in the lineage already.

For a run of a process this needs as many identifiers as are handed out, which
is no more than two for each event.
-/

namespace Identity

variable {lineage later : Lineage} {identityOf : LiveRef → ProjectId} {transaction next : Transaction}
  {allocators after : Allocators} {allocator : Allocator} {issued handed : List EntityId}
  {request : Edit} {session moved : Session}

/-! ## Transactions and sessions in a lineage -/

/-- A transaction whose snapshot and log descend from a lineage. -/
structure Inherits (lineage : Lineage) (transaction : Transaction) : Prop where
  store : Descends lineage transaction.store
  logged : ∀ write ∈ transaction.log, write.Recorded lineage

theorem Inherits.mono (inherits : Inherits lineage transaction) (grows : later.Extends lineage) :
    Inherits later transaction :=
  ⟨inherits.store.mono grows, fun write member => (inherits.logged write member).mono grows⟩

/-- A transaction with another write at the end of its log. -/
theorem Inherits.concat (inherits : Inherits lineage transaction) {store : Store} {write : Write}
    (descends : Descends lineage store) (recorded : write.Recorded lineage) :
    Inherits lineage { transaction with store, log := transaction.log ++ [write] } := by
  refine ⟨descends, fun other member => ?_⟩
  rcases List.mem_append.mp member with old | last
  · exact inherits.logged other old
  · exact List.mem_singleton.mp last ▸ recorded

/-- A licensed edit may make the lineage grow, by what it hands out. -/
theorem Inherits.edit (inherits : Inherits lineage transaction)
    (attested : Attested identityOf lineage)
    (known : ∀ (id : EntityId) (record : Record), lineage id = some record → id ∈ issued)
    (new : (allocators.allocate transaction.store.allocator).1 ∉ issued)
    (licensed : Licensed identityOf transaction.store request)
    (done : request.run transaction allocators = .ok (next, after, handed)) :
    ∃ later : Lineage, later.Extends lineage ∧ Attested identityOf later ∧ Inherits later next ∧
      ∀ (id : EntityId) (record : Record), later id = some record → id ∈ issued ++ handed := by
  cases Edit.run_makes done with
  | @created entityType supplied id store _ active placed =>
      rcases Store.create_eq_ok placed with ⟨-, -, named, -, -⟩
      have unborn : lineage id = none := by
        apply Option.eq_none_iff_forall_ne_some.mpr
        intro record born
        exact new (named ▸ known id record born)
      have grows : (lineage.add ⟨id, entityType, assemble supplied⟩).Extends lineage :=
        Lineage.add_extends unborn
      refine ⟨_, grows, attested.create inherits.store licensed placed unborn,
        (inherits.mono grows).concat (inherits.store.create placed unborn) (Lineage.add_self _), ?_⟩
      intro other record born
      unfold Lineage.add at born
      split at born
      · rename_i same
        exact same ▸ List.mem_append_right _ List.mem_cons_self
      · exact List.mem_append_left _ (known other record born)
  | deleted active removes =>
      have descends := inherits.store.delete removes
      refine ⟨lineage, fun _ _ same => same, attested, inherits.concat descends trivial, ?_⟩
      rwa [List.append_nil]

/-- Everything in a session descends from one attested lineage, which knows of
identifiers handed out only. -/
structure Traced (identityOf : LiveRef → ProjectId) (lineage : Lineage) (session : Session) :
    Prop where
  attested : Attested identityOf lineage
  known : ∀ (id : EntityId) (record : Record), lineage id = some record → id ∈ session.issued
  committed : Descends lineage session.engine.store
  working : ∀ handle ∈ session.handles, Inherits lineage handle.transaction

theorem Traced.put_ended (traced : Traced identityOf lineage session) {place : Nat} {handle : Handle}
    (found : session.handles[place]? = some handle) (transaction : Transaction)
    (store : transaction.store = handle.transaction.store)
    (log : transaction.log ⊆ handle.transaction.log) :
    Traced identityOf lineage
      (session.put place { handle with transaction } session.allocators []) := by
  have before := traced.working handle (List.mem_of_getElem? found)
  have inherits : Inherits lineage transaction :=
    ⟨store ▸ before.store, fun write member => before.logged write (log member)⟩
  refine ⟨traced.attested, ?_, traced.committed,
    Session.forall_handles_put traced.working inherits⟩
  intro id record born
  exact List.mem_append_left _ (traced.known id record born)

theorem Traced.outcome (traced : Traced identityOf lineage session) {handle : Handle} {store : Store}
    (member : handle ∈ session.handles)
    (done : session.engine.outcome handle.transaction = .ok store) : Descends lineage store := by
  have inherits := traced.working handle member
  unfold Engine.outcome at done
  split at done
  · cases done
    exact inherits.store
  · exact Store.replay_keeps (Descends lineage)
      (fun write _ _ member descends => descends.apply (inherits.logged write member))
      traced.committed done

theorem Traced.moves (traced : Traced identityOf lineage session)
    (accounted : session.Accounted allocator) (few : session.issued.length < UInt64.size)
    (moves : session.Moves (Licensed identityOf) moved) :
    ∃ lineage, Traced identityOf lineage moved := by
  cases moves with
  | stayed => exact ⟨lineage, traced⟩
  | begun =>
      have first : Inherits lineage session.engine.begin.1 :=
        ⟨traced.committed, fun _ member => (List.not_mem_nil member).elim⟩
      exact ⟨lineage, traced.attested, traced.known, traced.committed,
        Session.forall_handles_begin traced.working first⟩
  | @edited place handle request transaction allocators handed found allowed done =>
      have member := List.mem_of_getElem? found
      have new := accounted.allocate_notMem few member
      have before := traced.working handle member
      rcases before.edit traced.attested traced.known new allowed done with
        ⟨later, grows, attested, inherits, known⟩
      refine ⟨later, attested, known, traced.committed.mono grows,
        Session.forall_handles_put (fun other member => ?_) inherits⟩
      exact (traced.working other member).mono grows
  | ended found inactive base store log => exact ⟨lineage, traced.put_ended found _ store log⟩
  | registered done =>
      exact ⟨lineage, traced.attested, traced.known, traced.committed.register done, traced.working⟩
  | @committed place handle store found active outcome =>
      have settled := traced.put_ended found { handle.transaction with status := .committed } rfl
        (List.Subset.refl _)
      exact ⟨lineage, settled.attested, settled.known,
        traced.outcome (List.mem_of_getElem? found) outcome, settled.working⟩

theorem Traced.reaches (traced : Traced identityOf lineage session)
    (accounted : session.Accounted allocator)
    (reaches : session.Reaches (Licensed identityOf) moved) (few : moved.issued.length < UInt64.size) :
    ∃ lineage, Traced identityOf lineage moved := by
  induction reaches with
  | refl => exact ⟨lineage, traced⟩
  | tail before moves ih =>
      have fewBefore := Nat.lt_of_le_of_lt moves.grows.1.length_le few
      rcases ih fewBefore with ⟨lineage, traced⟩
      exact traced.moves (accounted.reaches before) fewBefore moves

theorem Traced.ready (traced : Traced identityOf lineage session) {handle : Handle}
    (member : handle ∈ session.handles) :
    handle.transaction.store.Coherent ∧ Installed handle.transaction.store :=
  ⟨(traced.working handle member).store.coherent, (traced.working handle member).store.installed⟩

/-! ## Whole runs -/

variable {process : Process} {events : List Event}

/-- A session may start on a coherent snapshot that has the identity types and
no local entities. -/
theorem traced_start {world : World} {engine : Engine} (coherent : engine.store.Coherent)
    (installed : Installed engine.store)
    (handedOut : ∀ (id : EntityId) (record : Record), engine.store.get? id = some record →
      world.HandedOut engine.store id)
    (unbound : ∀ (id : EntityId) (record : Record), engine.store.get? id = some record →
      record.entityType ≠ localType) :
    Traced identityOf engine.store.get? (Session.start world engine) where
  attested id record live typed := absurd typed (unbound id record live)
  known := handedOut
  committed := ⟨coherent, installed, fun _ _ live => live⟩
  working _ member := (List.not_mem_nil member).elim

/-- A run of a process keeps everything in one lineage. -/
theorem Process.run_traced (permitted : ∀ event ∈ events, event.Permitted identityOf)
    (traced : Traced identityOf lineage process.session)
    (accounted : process.session.Accounted allocator)
    (few : (process.run events).session.issued.length < UInt64.size) :
    ∃ lineage, Traced identityOf lineage (process.run events).session := by
  induction events generalizing process lineage with
  | nil => exact ⟨lineage, traced⟩
  | cons event rest ih =>
      have reaches := (step_reaches (permitted event List.mem_cons_self) fun _ => traced.ready).1
      have fewAfter := Nat.lt_of_le_of_lt ((process.step event).issued_run rest).length_le few
      rcases traced.reaches accounted reaches fewAfter with ⟨later, tracedAfter⟩
      exact ih (fun other member => permitted other (List.mem_cons_of_mem _ member)) tracedAfter
        (accounted.reaches reaches) few

/-- A run hands out two identifiers at most for each event, as long as there are
that many. -/
theorem Process.issued_run_le (permitted : ∀ event ∈ events, event.Permitted identityOf)
    (traced : Traced identityOf lineage process.session)
    (accounted : process.session.Accounted allocator)
    (few : process.session.issued.length + 2 * events.length < UInt64.size) :
    (process.run events).session.issued.length ≤
      process.session.issued.length + 2 * events.length := by
  induction events generalizing process lineage with
  | nil => exact Nat.le_refl _
  | cons event rest ih =>
      rcases step_reaches (permitted event List.mem_cons_self) fun _ => traced.ready with
        ⟨reaches, handed⟩
      rw [List.length_cons] at few ⊢
      have fewAfter : (process.step event).session.issued.length + 2 * rest.length < UInt64.size := by
        omega
      rcases traced.reaches accounted reaches (by omega) with ⟨later, tracedAfter⟩
      have further := ih (fun other member => permitted other (List.mem_cons_of_mem _ member))
        tracedAfter (accounted.reaches reaches) fewAfter
      rw [run, List.foldl_cons]
      exact further.trans (by omega)

end Identity

end EntityBase
