import EntityBase.Proofs.Engine.Changes
import EntityBase.Proofs.Engine.Lineage
import EntityBase.Proofs.Engine.Separation
import EntityBase.Proofs.Schema.Acceptance

namespace EntityBase

/-!
# The life of an identifier

Identifiers are handed out in increasing order, to whichever transaction asks
next, and only to creations that succeed.  A transaction may keep one for as
long as it likes before it commits, and another with a later identifier may
commit first.  Even so the committed snapshots see each identifier live for one
stretch of time at most, and always with the same record.

An entity that has gone could only come back with a transaction that creates it,
and that transaction has ended by the time the entity is first seen.  This needs
a version number to belong to one snapshot.  Registrations and deletes make
versions without handing out identifiers, so the version may wrap long before the
counter does.  A transaction that has stayed open until the version is back where
it began takes the fast path by mistake.  Its commit installs an old snapshot
whole, with whatever has been deleted since.
-/

namespace Session

variable {session : Session} {allocator : Allocator}

/-- A creation that succeeds hands out an identifier greater than all before it,
which is not the null identifier.  One that fails leaves the session alone. -/
def HandsOutInOrder (session : Session) : Prop :=
  ∀ (place : Nat) (handle : Handle) (entityType : String) (supplied : List (String × Value)),
    session.handles[place]? = some handle →
    let later := session.step (.edit place (.create entityType supplied))
    match handle.transaction.create session.allocators entityType supplied with
    | .ok (id, _, _) =>
        (∀ earlier ∈ session.issued, earlier.raw < id.raw) ∧ id ≠ EntityId.null ∧
          later.issued = session.issued ++ [id]
    | .error _ => later = session

theorem Accounted.handsOutInOrder (accounted : session.Accounted allocator)
    (few : session.issued.length < UInt64.size - 1) : session.HandsOutInOrder := by
  intro place handle entityType supplied found
  simp only [step, withHandle, found, Session.edit, Edit.run]
  cases created : handle.transaction.create session.allocators entityType supplied with
  | error cause => rfl
  | ok result =>
      rcases result with ⟨id, transaction, allocators⟩
      rcases Transaction.create_eq_ok created with ⟨-, store, placed, -⟩
      rcases Store.create_eq_ok placed with ⟨-, -, rfl, -, -⟩
      have belongs := (accounted.working handle (List.mem_of_getElem? found)).store.allocator
      rw [belongs]
      have below : session.issued.length < UInt64.size := by omega
      exact ⟨fun earlier member => accounted.counter.lt_allocate below member,
        accounted.counter.allocate_ne_null few, rfl⟩

/-- Take three moments of any run on an engine whose snapshot, built by store
calls or otherwise, holds only identifiers that its allocator has handed out.  At
the last, creations hand out identifiers in order.  An entity that is committed
at two of them has the same record.  And one that has gone in between is gone
for good, as long as the version has not wrapped. -/
theorem identifiers_of_run {world : World} {engine : Engine} {first second third : Session}
    {actions more rest : List Action} (built : world.Reached fun _ _ _ => True)
    (handedOut : ∀ (id : EntityId) (record : Record), engine.store.get? id = some record →
      world.HandedOut engine.store id)
    (ranFirst : (start world engine).run actions = first) (ranSecond : first.run more = second)
    (ranThird : second.run rest = third) (few : third.issued.length < UInt64.size - 1) :
    third.HandsOutInOrder ∧
      (∀ (id : EntityId) (earlier later : Record), first.engine.store.get? id = some earlier →
        third.engine.store.get? id = some later → later = earlier) ∧
      (third.history.length < UInt64.size → ∀ id : EntityId,
        first.engine.store.contains id = true → second.engine.store.contains id = false →
        third.engine.store.contains id = false) := by
  have toFirst : (start world engine).Reaches (fun _ _ => True) first :=
    ranFirst ▸ run_reaches actions fun _ _ _ _ => trivial
  have toSecond : first.Reaches (fun _ _ => True) second :=
    ranSecond ▸ run_reaches more fun _ _ _ _ => trivial
  have toThird : second.Reaches (fun _ _ => True) third :=
    ranThird ▸ run_reaches rest fun _ _ _ _ => trivial
  have fewThird : third.issued.length < UInt64.size := by omega
  have fewSecond := Nat.lt_of_le_of_lt toThird.grows.1.length_le fewThird
  have fewFirst := Nat.lt_of_le_of_lt toSecond.grows.1.length_le fewSecond
  have start := Regular.start built handedOut
  have regularFirst := start.reaches toFirst fewFirst
  have regularSecond := regularFirst.reaches toSecond fewSecond
  refine ⟨(regularSecond.accounted.reaches toThird).handsOutInOrder few, ?_, ?_⟩
  · intro id earlier later before after
    rcases (Recorded.start handedOut).reaches start.accounted toFirst fewFirst with
      ⟨lineage, -, recorded⟩
    rcases recorded.reaches regularFirst.accounted (toSecond.trans toThird) fewThird with
      ⟨grown, grows, reached⟩
    have born := grows id earlier (recorded.committed id earlier before)
    exact Option.some.inj ((reached.committed id later after).symm.trans born)
  · intro fewVersions id live gone
    rcases (Store.contains_eq_true_iff _ id).mp live with ⟨record, found⟩
    have fewVersionsSecond := Nat.lt_of_le_of_lt toThird.grows.2.length_le fewVersions
    have faithful := (Faithful.start world engine).reaches start.accounted (toFirst.trans toSecond)
      fewSecond fewVersionsSecond
    have settled : second.Settled id := toSecond.keeps (·.Settled id)
      (regularFirst.separate.committed id record found)
      (fun before few moves settled =>
        settled.moves (regularFirst.accounted.reaches before) few moves) fewSecond
    rw [Store.contains_eq_false_iff] at gone ⊢
    exact settled.absent_reaches regularSecond.accounted faithful gone toThird fewThird fewVersions

/-! ### Two tasks for example -/

namespace Sample

/-- One task is committed, another is created but not yet. -/
def committed : Session :=
  (start ({} : World).withNew { store := (Store.new ∅).1 }).run [
    .register task,
    .begin,
    .begin,
    .edit 0 (.create "Task" [("rank", .int 1)]),
    .edit 1 (.create "Task" [("rank", .int 2)]),
    .commit 0]

/-- The first task is deleted. -/
def deleted : Session :=
  committed.run [.begin, .edit 2 (.delete ⟨0⟩), .commit 2]

/-- The second task is committed after all. -/
def overtaken : Session :=
  deleted.run [.commit 1, .begin]

theorem overtaken_lives : (committed.engine.store.contains ⟨0⟩, deleted.engine.store.contains ⟨0⟩,
    overtaken.engine.store.contains ⟨1⟩) = (true, false, true) := by
  cbv

theorem overtaken_counts : overtaken.issued = [⟨0⟩, ⟨1⟩] ∧ overtaken.history.length = 4 := by
  constructor <;> cbv

end Sample

/-- In the example the first task does not come back with the second, and the
next identifier is greater than both. -/
theorem identifiers_of_run_overtaken :
    Sample.overtaken.issued = [⟨0⟩, ⟨1⟩] ∧ Sample.overtaken.HandsOutInOrder ∧
      Sample.committed.engine.store.contains ⟨0⟩ = true ∧
      Sample.overtaken.engine.store.contains ⟨1⟩ = true ∧
      Sample.overtaken.engine.store.contains ⟨0⟩ = false := by
  have handedOut : ∀ (id : EntityId) (record : Record), (Store.new ∅).1.get? id = some record →
      ({} : World).withNew.HandedOut (Store.new ∅).1 id := by
    intro id record live
    rw [Store.get?_new] at live
    cases live
  have lives := Sample.overtaken_lives
  simp only [Prod.mk.injEq] at lives
  rcases lives with ⟨live, gone, other⟩
  rcases Sample.overtaken_counts with ⟨issued, versions⟩
  have few : Sample.overtaken.issued.length < UInt64.size - 1 := by rw [issued]; decide
  have fewVersions : Sample.overtaken.history.length < UInt64.size := by rw [versions]; decide
  have ran : (start _ _).run _ = Sample.committed := rfl
  have ranMore : Sample.committed.run _ = Sample.deleted := rfl
  have ranRest : Sample.deleted.run _ = Sample.overtaken := rfl
  have built : ({} : World).withNew.Reached fun _ _ _ => True := .new .start
  rcases identifiers_of_run built handedOut ran ranMore ranRest few with ⟨inOrder, -, stays⟩
  exact ⟨issued, inOrder, live, other, stays fewVersions ⟨0⟩ live gone⟩

/-! ### The version comes round -/

/-- Registrations of types without attributes. -/
def registrations (names : List String) : List Action :=
  names.map fun name => .register { name }

theorem step_register {type : EntityType} {store : Store}
    (done : session.engine.store.register type = .ok store) :
    session.step (.register type) =
      { session with
        engine := { session.engine with store, version := session.engine.version + 1 }
        history := session.history ++ [.registered type] } := by
  rw [step, Session.register, Engine.register_of_accepted done]

/-- Under new names, types are accepted one after another.  Each makes a version,
and the transactions and the identifiers stay as they are. -/
theorem run_registrations {names : List String} (distinct : names.Nodup)
    (free : ∀ name ∈ names, session.engine.store.schema.contains name = false) :
    (session.run (registrations names)).engine.version =
        session.engine.version + UInt64.ofNat names.length ∧
      (session.run (registrations names)).handles = session.handles ∧
      (session.run (registrations names)).issued = session.issued := by
  induction names generalizing session with
  | nil => exact ⟨(UInt64.add_zero _).symm, rfl, rfl⟩
  | cons name rest ih =>
      rcases List.nodup_cons.mp distinct with ⟨new, others⟩
      rcases List.forall_mem_cons.mp free with ⟨fresh, stillFree⟩
      rcases Store.exists_register (Schema.fault?_bare fresh) with ⟨store, done, registers⟩
      have leaves : ∀ other ∈ rest, store.schema.contains other = false := by
        intro other member
        rw [Bool.eq_false_iff, Ne, Schema.contains_register registers]
        rintro (known | rfl)
        · cases (stillFree other member).symm.trans known
        · exact new member
      have first : session.run (registrations (name :: rest)) =
          (session.step (.register { name })).run (registrations rest) := rfl
      rw [first, step_register done, List.length_cons, Nat.add_comm, UInt64.ofNat_add,
        ← UInt64.add_assoc]
      exact ih others leaves

/-- A transaction that has written may stay open while types are registered, until
the version is the one that it began from.  Its commit then installs the snapshot
that it works on, whatever that has missed. -/
theorem commit_of_round {place : Nat} {handle : Handle} {names : List String}
    (found : session.handles[place]? = some handle) (active : handle.transaction.isActive = true)
    (written : handle.transaction.log ≠ []) (distinct : names.Nodup)
    (free : ∀ name ∈ names, session.engine.store.schema.contains name = false)
    (round : session.engine.version + UInt64.ofNat names.length = handle.transaction.baseVersion) :
    (session.run (registrations names ++ [.commit place])).engine.store = handle.transaction.store ∧
      (session.run (registrations names ++ [.commit place])).issued = session.issued := by
  rcases run_registrations distinct free with ⟨version, handles, issued⟩
  rw [run_append]
  generalize session.run (registrations names) = later at version handles issued
  have commits : later.run [.commit place] = later.commit place handle :=
    withHandle_of_found (handles ▸ found) _
  have installs := Engine.commit_of_version active written (version.trans round)
  rw [commits, ← issued, Session.commit, installs]
  exact ⟨rfl, List.append_nil _⟩

namespace Sample

/-- A third transaction begins with the first task in its snapshot and creates
another.  While it is open, the first task is deleted. -/
def outlived : Session :=
  committed.run [
    .begin,
    .edit 2 (.create "Task" [("rank", .int 3)]),
    .begin,
    .edit 3 (.delete ⟨0⟩),
    .commit 3]

theorem outlived_state : outlived.engine.version = 3 ∧ outlived.issued = [⟨0⟩, ⟨1⟩, ⟨2⟩] ∧
    outlived.engine.store.contains ⟨0⟩ = false ∧
    outlived.engine.store.schema.types.map (·.name) = ["Task"] := by
  refine ⟨?_, ?_, ?_, ?_⟩ <;> cbv

theorem outlived_open : (outlived.handles[2]?).map (fun handle =>
    (handle.transaction.isActive, handle.transaction.log.isEmpty, handle.transaction.baseVersion,
      handle.transaction.store.contains ⟨0⟩)) = some (true, false, 2, true) := by
  cbv

/-- Names that differ in their lengths. -/
def stamps (count : Nat) : List String :=
  (List.range count).map fun stars => "Stamp" ++ String.ofList (List.replicate stars '*')

theorem nodup_stamps (count : Nat) : (stamps count).Nodup := by
  refine List.nodup_range.map fun stars others same => ?_
  simpa using congrArg String.length same

/-- They are all longer than the one name that is taken. -/
theorem free_stamps (count : Nat) : ∀ name ∈ stamps count,
    outlived.engine.store.schema.contains name = false := by
  intro name member
  rw [Bool.eq_false_iff, Ne, Schema.contains_eq_true_iff]
  rintro ⟨type, listed, named⟩
  have taken : type.name ∈ ["Task"] := outlived_state.2.2.2 ▸ List.mem_map_of_mem listed
  rcases List.mem_map.mp member with ⟨stars, -, rfl⟩
  have lengths := congrArg String.length (List.mem_singleton.mp taken ▸ named)
  rw [String.length_append] at lengths
  have long : "Stamp".length ≤ "Task".length := lengths ▸ Nat.le_add_right _ _
  exact absurd long (by decide)

/-- The third transaction is committed after so many registrations. -/
def recalled (count : Nat) : Session :=
  outlived.run (registrations (stamps count) ++ [.commit 2])

end Sample

/-- Without the bound on the versions the first task comes back.  Three
identifiers have been handed out when the version wraps.  The task is committed,
then deleted, and live again after the last commit. -/
theorem identifier_returns :
    Sample.committed.engine.store.contains ⟨0⟩ = true ∧
      Sample.outlived.engine.store.contains ⟨0⟩ = false ∧
      (Sample.recalled (UInt64.size - 1)).engine.store.contains ⟨0⟩ = true ∧
      (Sample.recalled (UInt64.size - 1)).issued = [⟨0⟩, ⟨1⟩, ⟨2⟩] := by
  have lives := Sample.overtaken_lives
  simp only [Prod.mk.injEq] at lives
  rcases Sample.outlived_state with ⟨version, issued, gone, -⟩
  rcases Option.map_eq_some_iff.mp Sample.outlived_open with ⟨handle, found, opened⟩
  simp only [Prod.mk.injEq] at opened
  rcases opened with ⟨active, written, base, seen⟩
  have round : Sample.outlived.engine.version +
      UInt64.ofNat (Sample.stamps (UInt64.size - 1)).length = handle.transaction.baseVersion := by
    rw [version, base, Sample.stamps, List.length_map, List.length_range]
    decide
  rcases commit_of_round found active (by simpa using written) (Sample.nodup_stamps _)
    (Sample.free_stamps _) round with ⟨installed, handedOut⟩
  rw [Sample.recalled, installed, handedOut]
  exact ⟨lives.1, gone, seen, issued⟩

end Session

end EntityBase
