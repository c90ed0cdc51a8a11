import EntityBase.Proofs.Engine.Changes
import EntityBase.Proofs.Engine.CommitOrder
import EntityBase.Proofs.Identity.OneBinding

namespace EntityBase

/-!
# Teardowns that commit late

A teardown lists what it removes from the snapshot it works on.  Its log only
has the shared entity, so the commit cascades again, over what is there by then.
The two snapshots agree on the entities that they share, and on how these depend
on one another.  So a late commit removes what was listed and is still live, and
with it those dependents that have been made since the transaction began.

Nothing is asked of the other transactions here.  They may bind objects under
any project identifier and write records of any type.
-/

/-! ## Deletes on snapshots that agree -/

namespace Store

variable {first second next later : Store} {id root : EntityId} {removed taken : List EntityId}

/-- All that a live entity depends on is live. -/
theorem Coherent.contains_root (coherent : first.Coherent) (live : first.contains id = true)
    (depends : first.Depends id root) : first.contains root = true := by
  cases depends with
  | refl => exact live
  | tail _ refers => exact coherent.contains_target refers

/-- What a delete takes from a later snapshot has been taken from the earlier one
as well, or is a newcomer and depends on something that has. -/
theorem Coherent.contains_delete_of_agrees (coherent : first.Coherent)
    (alsoCoherent : second.Coherent) (agrees : first.Agrees second)
    (done : first.delete root = .ok (next, removed))
    (again : second.delete root = .ok (later, taken)) (live : second.contains id = true) :
    later.contains id = false ↔ id ∈ removed ∨ first.contains id = false ∧
      ∃ target ∈ removed, second.Depends id target := by
  have gone : later.contains id = false ↔ second.Depends id root := by
    rw [Bool.eq_false_iff, Ne, alsoCoherent.contains_deleteArranged_iff again]
    simp [live]
  rcases deleteArranged_eq_ok done with ⟨rootLive, rfl, -, -⟩
  simp only [gone, coherent.mem_cascadeOrder_iff]
  constructor
  · intro depends
    cases old : first.contains id with
    | true => exact .inl (agrees.symm.depends coherent old depends).1
    | false => exact .inr ⟨rfl, root, .refl, depends⟩
  · rintro (depended | ⟨-, target, depended, depends⟩)
    · exact (agrees.depends alsoCoherent live depended).1
    · have targetLive := alsoCoherent.contains_root live depends
      exact depends.trans (agrees.depends alsoCoherent targetLive depended).1

end Store

namespace Identity

variable {host : Host} {projectId : ProjectId} {removed : List EntityId}

/-! ## Teardowns -/

/-- What a teardown that succeeds has found, and what it has logged. -/
inductive TearsDown (start : Workspace) : List EntityId → Workspace → Prop where
  | unknown : TearsDown start [] start
  | removed {shared : EntityId} {store : Store} {removed : List EntityId}
      (done : start.transaction.store.delete shared = .ok (store, removed)) :
      TearsDown start removed { start with transaction := { start.transaction with
        store, log := start.transaction.log ++ [.delete shared] } }

theorem teardown_of_found {start : Workspace} {shared : SharedEntity}
    (found : sharedFor? start.transaction projectId = .ok (some shared)) :
    Work.after (teardown projectId) start = Work.after (Work.delete shared.id) start := by
  rw [teardown, Work.after_bind, Work.after_look, found]

/-- A teardown that finds its shared entity is an edit that deletes it. -/
theorem Process.step_teardown_of_found {process : Process} {place : Nat} {handle : Handle}
    {shared : SharedEntity} {transaction : Transaction}
    (found : process.session.handles[place]? = some handle)
    (known : sharedFor? handle.transaction projectId = .ok (some shared))
    (deleted : handle.transaction.delete shared.id = .ok (removed, transaction)) :
    process.step (.teardown place projectId) =
      process.step (.plain (.edit place (.delete shared.id))) := by
  have torn : Work.after (teardown projectId) ⟨handle.transaction, process.session.allocators⟩ =
      (.ok removed, ⟨transaction, process.session.allocators⟩) := by
    rw [teardown_of_found known, Work.after_delete, deleted]
  have edited : (Edit.delete shared.id).run handle.transaction process.session.allocators =
      .ok (transaction, process.session.allocators, []) := by
    rw [Edit.run, deleted]
    rfl
  rcases Transaction.delete_eq_ok deleted with ⟨-, store, -, rfl⟩
  simp only [Process.step, Process.work, Session.step, Session.withHandle, Session.edit, found, torn,
    edited, List.drop_left]
  rfl

theorem teardown_eq_ok {start now : Workspace}
    (done : Work.after (teardown projectId) start = (.ok removed, now)) :
    start.transaction.isActive = true ∧ TearsDown start removed now := by
  cases looked : sharedFor? start.transaction projectId with
  | error error =>
      rw [teardown, Work.after_bind, Work.after_look, looked] at done
      cases done
  | ok answer =>
      refine ⟨active_of_sharedFor? looked, ?_⟩
      cases answer with
      | none =>
          rw [teardown, Work.after_bind, Work.after_look, looked] at done
          cases done
          exact .unknown
      | some shared =>
          rw [teardown_of_found looked, Work.after_delete] at done
          cases deleted : start.transaction.delete shared.id with
          | error error =>
              rw [deleted] at done
              cases done
          | ok result =>
              rcases result with ⟨victims, transaction⟩
              rw [deleted] at done
              cases done
              rcases Transaction.delete_eq_ok deleted with ⟨-, store, removes, rfl⟩
              exact .removed removes

/-- Let a transaction that has written nothing tear a project down, and let
anything happen before and after, except that the transaction writes nothing
else.  What its commit then takes from the committed snapshot is what the
teardown has returned and is still live, and what depends on that and was not in
the snapshot that the transaction began from. -/
theorem commit_of_teardown {world : World} {engine : Engine} {events rest : List Event}
    {process later : Process} {place : Nat} {handle tearing : Handle} {now : Workspace}
    {version : UInt64} {next : Engine} {ended : Transaction}
    (lawful : world.Lawful) (member : engine.store ∈ world.stores)
    (ran : (⟨Session.start world engine, host⟩ : Process).run events = process)
    (found : process.session.handles[place]? = some handle) (unwritten : handle.transaction.log = [])
    (torn : Work.after (teardown projectId) ⟨handle.transaction, process.session.allocators⟩ =
      (.ok removed, now))
    (went : (process.step (.teardown place projectId)).run rest = later)
    (waits : later.session.handles[place]? = some tearing)
    (only : tearing.transaction.log = now.transaction.log)
    (committed : later.session.engine.commit tearing.transaction = (.ok version, next, ended))
    (few : later.session.issued.length < UInt64.size)
    (fewVersions : later.session.history.length < UInt64.size) (id : EntityId) :
    later.session.engine.store.contains id = true ∧ next.store.contains id = false ↔
      later.session.engine.store.contains id = true ∧
        (id ∈ removed ∨ handle.origin.contains id = false ∧
          ∃ target ∈ removed, later.session.engine.store.Depends id target) := by
  have before : (Session.start world engine).Reaches Unrestricted process.session :=
    ran ▸ Process.run_moves ⟨Session.start world engine, host⟩ events
  have after : process.session.Reaches Unrestricted later.session :=
    went ▸ (process.step_moves _).trans (Process.run_moves _ rest)
  rcases Session.exists_of_reaches lawful member before
    (Nat.lt_of_le_of_lt after.grows.1.length_le few) with ⟨regular, sound, -⟩
  rcases Session.exists_of_reaches lawful member (before.trans after) few with
    ⟨laterRegular, laterSound, faithful, lineage, recorded⟩
  rcases after.origin found with ⟨same, there, origin⟩
  cases waits.symm.trans there
  have laterMember := List.mem_of_getElem? waits
  rcases teardown_eq_ok torn with ⟨active, tears⟩
  -- Nothing is written yet, so the teardown works on what the transaction began from.
  have started := regular.replays handle (List.mem_of_getElem? found) active
  rw [unwritten, Store.replay_nil, Except.ok.injEq] at started
  have coherent := sound.origins handle (List.mem_of_getElem? found)
  rcases Engine.commit_eq_ok ((faithful fewVersions).outcome_eq fewVersions laterMember) committed
    with ⟨laterActive, result, replayed, rfl⟩
  have alongside := laterRegular.alongside laterSound (faithful fewVersions) recorded laterMember
    laterActive
  have agrees := origin ▸ alongside.agrees
  rw [only] at replayed
  cases tears with
  | unknown =>
      rw [unwritten, Store.replay_nil] at replayed
      cases replayed
      simp
  | @removed shared store removed done =>
      simp only [unwritten, List.nil_append] at replayed
      rcases (Store.replay_cons _ _ _).mp replayed with ⟨between, applied, same⟩
      cases same
      rcases Store.apply_delete_eq_ok_iff.mp applied with ⟨taken, again⟩
      refine and_congr_right fun live => ?_
      exact coherent.contains_delete_of_agrees laterSound.committed agrees (started ▸ done) again live

namespace Sample

/-- Memos belong to a project and go with it. -/
def memo : EntityType :=
  { name := "Memo"
    attributes := [{ field := "project", kind := .reference sharedType, cascade := true }] }

/-- A world of one store, with a project in it. -/
def claimed : World :=
  ([.register sharedDeclaration,
    .register localDeclaration,
    .register memo,
    .create sharedType [(projectIdField, projectKey ⟨"A"⟩)]] : List StoreCall).foldl World.advance
    ({} : World).withNew

def claim : Store :=
  claimed.stores.head?.getD (Store.new ∅).1

def begun : Process :=
  (⟨Session.start claimed { store := claim }, {}⟩ : Process).run [.plain .begin]

/-- The transaction tears the project down.  Before it commits, another writes a
memo for the project. -/
def noted : Process :=
  (begun.step (.teardown 0 ⟨"A"⟩)).run
    [.plain .begin,
      .plain (.edit 1 (.create "Memo" [("project", .ref ⟨0⟩)])),
      .plain (.commit 1)]

theorem begun_open : (begun.session.handles[0]?).map (fun handle =>
    (handle.transaction.log, sharedFor? handle.transaction ⟨"A"⟩,
      (handle.transaction.delete ⟨0⟩).map fun deleted => (deleted.1, deleted.2.log))) =
    some ([], .ok (some ⟨⟨0⟩, ⟨"A"⟩⟩), .ok ([⟨0⟩], [.delete ⟨0⟩])) := by
  cbv

theorem step_begun : begun.step (.teardown 0 ⟨"A"⟩) = begun.step (.plain (.edit 0 (.delete ⟨0⟩))) := by
  rcases Option.map_eq_some_iff.mp begun_open with ⟨handle, found, answers⟩
  simp only [Prod.mk.injEq, Outcome.map_eq_ok_iff, Prod.exists] at answers
  rcases answers with ⟨-, known, removed, transaction, deleted, -⟩
  exact Process.step_teardown_of_found found known deleted

theorem noted_open : (noted.session.handles[0]?).map (fun handle =>
    (handle.transaction.log, noted.session.engine.store.records.keys,
      (noted.session.engine.commit handle.transaction).1,
      (noted.session.engine.commit handle.transaction).2.1.store.records.keys)) =
    some ([.delete ⟨0⟩], [⟨0⟩, ⟨1⟩], .ok 2, []) := by
  rw [noted, step_begun]
  cbv

theorem noted_counts : noted.session.issued.length = 2 ∧ noted.session.history.length = 1 := by
  rw [noted, step_begun]
  constructor <;> cbv

theorem lawful_claimed : claimed.Lawful :=
  World.Lawful.advances (.new .start) (by simp [StoreCall.inserted?])

theorem claim_mem : claim ∈ claimed.stores :=
  Session.Sample.newest_mem (by cbv)

theorem installed_claim : Installed claim :=
  ⟨by cbv, by cbv⟩

/-- The teardown has returned the shared entity alone.  Its commit takes the memo
as well. -/
theorem exists_late : ∃ handle tearing now version next ended,
    begun.session.handles[0]? = some handle ∧ handle.transaction.log = [] ∧
      Work.after (teardown ⟨"A"⟩) ⟨handle.transaction, begun.session.allocators⟩ =
        (.ok [⟨0⟩], now) ∧
      noted.session.handles[0]? = some tearing ∧ tearing.transaction.log = now.transaction.log ∧
      noted.session.engine.commit tearing.transaction = (.ok version, next, ended) ∧
      noted.session.engine.store.contains ⟨1⟩ = true ∧ next.store.contains ⟨1⟩ = false := by
  rcases Option.map_eq_some_iff.mp begun_open with ⟨handle, first, before⟩
  rcases Option.map_eq_some_iff.mp noted_open with ⟨tearing, last, after⟩
  simp only [Prod.mk.injEq, Outcome.map_eq_ok_iff, Prod.exists] at before after
  rcases before with ⟨unwritten, known, _, torn, deleted, rfl, written⟩
  rcases after with ⟨log, stands, committed, left⟩
  have answer : Work.after (teardown ⟨"A"⟩) ⟨handle.transaction, begun.session.allocators⟩ =
      (.ok [⟨0⟩], ⟨torn, begun.session.allocators⟩) := by
    rw [teardown_of_found known, Work.after_delete, deleted]
  refine ⟨handle, tearing, _, _, _, _, first, unwritten, answer, last, log.trans written.symm,
    Prod.ext committed rfl, ?_, Bool.eq_false_iff.mpr fun live => ?_⟩
  · exact (Session.Sample.contains_iff_mem_keys stands ⟨1⟩).mpr (by decide)
  · exact List.not_mem_nil ((Session.Sample.contains_iff_mem_keys left ⟨1⟩).mp live)

end Sample

/-- What a teardown returns is not always what its commit takes.  Here the
teardown is the only write of its transaction and has returned the shared entity,
and with it the commit takes a memo that another transaction has written
meanwhile. -/
theorem teardown_omits_newcomer : ∃ handle tearing now version next ended,
    Installed Sample.claim ∧ Sample.begun.session.handles[0]? = some handle ∧
      handle.transaction.log = [] ∧
      Work.after (teardown ⟨"A"⟩) ⟨handle.transaction, Sample.begun.session.allocators⟩ =
        (.ok [⟨0⟩], now) ∧
      Sample.noted.session.handles[0]? = some tearing ∧
      tearing.transaction.log = now.transaction.log ∧
      Sample.noted.session.engine.commit tearing.transaction = (.ok version, next, ended) ∧
      ¬ ∀ id, Sample.noted.session.engine.store.contains id = true ∧
        next.store.contains id = false ↔ id ∈ [(⟨0⟩ : EntityId)] := by
  rcases Sample.exists_late with
    ⟨handle, tearing, now, version, next, ended, found, unwritten, torn, waits, only, committed, live,
      gone⟩
  refine ⟨handle, tearing, now, version, next, ended, Sample.installed_claim, found, unwritten, torn,
    waits, only, committed, fun exactly => ?_⟩
  exact absurd ((exactly ⟨1⟩).mp ⟨live, gone⟩) (by decide)

/-- In the example the memo depends on the shared entity, and was not there when
the transaction began. -/
theorem commit_of_teardown_noted : ∃ handle tearing now version next ended,
    Sample.begun.session.handles[0]? = some handle ∧
      Work.after (teardown ⟨"A"⟩) ⟨handle.transaction, Sample.begun.session.allocators⟩ =
        (.ok [⟨0⟩], now) ∧
      Sample.noted.session.handles[0]? = some tearing ∧
      Sample.noted.session.engine.commit tearing.transaction = (.ok version, next, ended) ∧
      Sample.noted.session.engine.store.contains ⟨1⟩ = true ∧
      next.store.contains ⟨1⟩ = false ∧ handle.origin.contains ⟨1⟩ = false ∧
      Sample.noted.session.engine.store.Depends ⟨1⟩ ⟨0⟩ := by
  rcases Sample.exists_late with
    ⟨handle, tearing, now, version, next, ended, found, unwritten, torn, waits, only, committed, live,
      gone⟩
  have few : Sample.noted.session.issued.length < UInt64.size := by
    rw [Sample.noted_counts.1]
    decide
  have fewVersions : Sample.noted.session.history.length < UInt64.size := by
    rw [Sample.noted_counts.2]
    decide
  have taken := (commit_of_teardown Sample.lawful_claimed Sample.claim_mem rfl found unwritten torn
    rfl waits only committed few fewVersions ⟨1⟩).mp ⟨live, gone⟩
  rcases taken.2.resolve_left (by decide) with ⟨new, target, returned, depends⟩
  rw [List.mem_singleton.mp returned] at depends
  exact ⟨handle, tearing, now, version, next, ended, found, torn, waits, committed, live, gone, new,
    depends⟩

end Identity

end EntityBase
