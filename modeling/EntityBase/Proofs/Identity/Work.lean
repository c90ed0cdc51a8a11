import EntityBase.Proofs.Engine.Freshness
import EntityBase.Proofs.Identity.Records

namespace EntityBase

/-!
# What a piece of work writes

An operation on identities reads a transaction, decides and writes.  Whether
it succeeds or fails on the way, what remains of it is a sequence of edits of
the transaction, each made on the snapshot that the earlier ones left.  So it
is enough to know which edits an operation asks for on which snapshots.  The
rest follows from what holds of edits in general.

For the edits that are asked for, a piece of work is read as leading from one
condition on snapshots to another.  On the way it hands out no more identifiers
than a limit, which the work has by its form.
-/

namespace Identity

/-- Permitted edits lead from one workspace to another and hand out
identifiers. -/
inductive Writes (permitted : Store → Edit → Prop) (start : Workspace) :
    List EntityId → Workspace → Prop where
  | nothing : Writes permitted start [] start
  | edit {handed more : List EntityId} {now : Workspace} {request : Edit}
      {transaction : Transaction} {allocators : Allocators}
      (before : Writes permitted start handed now)
      (allowed : permitted now.transaction.store request)
      (done : request.run now.transaction now.allocators = .ok (transaction, allocators, more)) :
      Writes permitted start (handed ++ more) ⟨transaction, allocators⟩

/-- The identifiers of the creations that are logged between one workspace and
another. -/
def Workspace.handed (start now : Workspace) : List EntityId :=
  (now.transaction.log.drop start.transaction.log.length).filterMap Write.created?

variable {permitted : Store → Edit → Prop} {α β : Type} {start middle now : Workspace}
  {handed more : List EntityId}

theorem Writes.trans (first : Writes permitted start handed middle)
    (second : Writes permitted middle more now) : Writes permitted start (handed ++ more) now := by
  induction second with
  | nothing => exact (List.append_nil handed).symm ▸ first
  | edit before allowed done ih =>
      rw [← List.append_assoc]
      exact .edit ih allowed done

/-- A creation that the snapshot takes is a write. -/
theorem Writes.of_placed (active : start.transaction.isActive = true) {entityType : String}
    {supplied : List (String × Value)} {id : EntityId} {store : Store} {allocators : Allocators}
    (allowed : permitted start.transaction.store (.create entityType supplied))
    (placed : start.transaction.store.create start.allocators entityType supplied =
      .ok (id, store, allocators)) :
    Writes permitted start [id] ⟨{ start.transaction with
      store
      log := start.transaction.log ++ [.create id entityType supplied] }, allocators⟩ := by
  refine .edit .nothing allowed ?_
  rw [Edit.run, Transaction.create_of_placed active placed]
  rfl

/-- The identifiers handed out are those of the creations logged meanwhile. -/
theorem Writes.handed_eq (writes : Writes permitted start handed now) :
    ∃ logged, now.transaction.log = start.transaction.log ++ logged ∧
      handed = logged.filterMap Write.created? := by
  induction writes with
  | nothing => exact ⟨[], by simp⟩
  | @edit handed more now request transaction allocators before allowed done ih =>
      rcases ih with ⟨logged, log, rfl⟩
      cases Edit.run_makes done with
      | @created entityType supplied id store _ active placed =>
          exact ⟨logged ++ [.create id entityType supplied], by simp [log], by simp [Write.created?]⟩
      | @deleted id store removed active removes =>
          exact ⟨logged ++ [.delete id], by simp [log], by simp [Write.created?]⟩

theorem Writes.handed_of (writes : Writes permitted start handed now) : start.handed now = handed := by
  rcases writes.handed_eq with ⟨logged, log, rfl⟩
  rw [Workspace.handed, log, List.drop_left]

/-! ## Work and its conditions -/

def Work.after (work : Work α) (start : Workspace) : Except Error α × Workspace :=
  work.run.run start

theorem Work.after_bind (first : Work α) (rest : α → Work β) (start : Workspace) :
    Work.after (first >>= rest) start =
      match Work.after first start with
      | (.ok result, now) => Work.after (rest result) now
      | (.error error, now) => (.error error, now) := by
  change ExceptT.bindCont rest _ _ = _
  unfold Work.after ExceptT.run StateT.run
  rcases first start with ⟨outcome, now⟩
  cases outcome <;> rfl

theorem Work.after_mapM_cons {act : β → Work α} {first : β} {start middle : Workspace} {result : α}
    (done : Work.after (act first) start = (.ok result, middle)) (rest : List β) :
    Work.after ((first :: rest).mapM act) start =
      ((Work.after (rest.mapM act) middle).1.map (result :: ·),
        (Work.after (rest.mapM act) middle).2) := by
  rw [List.mapM_cons, Work.after_bind, done]
  change Work.after (rest.mapM act >>= fun results => Pure.pure (result :: results)) middle = _
  rw [Work.after_bind]
  rcases Work.after (rest.mapM act) middle with ⟨outcome, now⟩
  cases outcome <;> rfl

theorem Work.after_look (reading : Transaction → Except Error α) (start : Workspace) :
    Work.after (Work.look reading) start = (reading start.transaction, start) :=
  rfl

theorem Work.after_create (entityType : String) (supplied : List (String × Value))
    (start : Workspace) :
    Work.after (Work.create entityType supplied) start =
      match start.transaction.create start.allocators entityType supplied with
      | .ok (id, transaction, allocators) => (.ok id, ⟨transaction, allocators⟩)
      | .error error => (.error error, start) :=
  rfl

theorem Work.after_delete (id : EntityId) (start : Workspace) :
    Work.after (Work.delete id) start =
      match start.transaction.delete id with
      | .ok (removed, transaction) => (.ok removed, { start with transaction })
      | .error error => (.error error, start) :=
  rfl

/-- From snapshots that meet a condition, a piece of work only makes permitted
edits and hands out a limited number of identifiers, and its result and the
last snapshot meet another condition. -/
def Leads (permitted : Store → Edit → Prop) (limit : Nat) (before : Store → Prop) (work : Work α)
    (after : α → Store → Prop) : Prop :=
  ∀ start : Workspace, before start.transaction.store →
    (∃ handed, handed.length ≤ limit ∧ Writes permitted start handed (Work.after work start).2) ∧
      ∀ result, (Work.after work start).1 = .ok result →
        after result (Work.after work start).2.transaction.store

/-- Anything may be written, anywhere. -/
def Unrestricted : Store → Edit → Prop :=
  fun _ _ => True

/-- A piece of work makes edits, and hands out no more than a limit. -/
abbrev Edits {α : Type} (limit : Nat) (work : Work α) : Prop :=
  Leads Unrestricted limit (fun _ => True) work fun _ _ => True

namespace Leads

variable {limit : Nat} {before : Store → Prop} {work : Work α} {after : α → Store → Prop}

theorem nothing_written : ∃ handed : List EntityId, handed.length ≤ limit ∧
    Writes permitted start handed start :=
  ⟨[], Nat.zero_le _, .nothing⟩

theorem pure {result : α} (kept : ∀ store, before store → after result store) :
    Leads permitted limit before (Pure.pure result) after := by
  intro start met
  refine ⟨nothing_written, fun same done => ?_⟩
  cases done
  exact kept _ met

theorem throw (error : Error) : Leads permitted limit before (throw error : Work α) after :=
  fun _ _ => ⟨nothing_written, fun _ impossible => by cases impossible⟩

theorem look {reading : Transaction → Except Error α} :
    Leads permitted limit before (Work.look reading) fun result store =>
      before store ∧ ∃ transaction, transaction.store = store ∧ reading transaction = .ok result :=
  fun start met => ⟨nothing_written, fun _ done => ⟨met, start.transaction, rfl, done⟩⟩

theorem create {entityType : String} {supplied : List (String × Value)}
    (allowed : ∀ store, before store → permitted store (.create entityType supplied)) :
    Leads permitted 1 before (Work.create entityType supplied) fun id next =>
      ∃ store allocators others, before store ∧
        store.create allocators entityType supplied = .ok (id, next, others) := by
  intro start met
  rw [Work.after_create]
  cases created : start.transaction.create start.allocators entityType supplied with
  | error error => exact ⟨nothing_written, fun _ impossible => by cases impossible⟩
  | ok result =>
      rcases result with ⟨id, transaction, allocators⟩
      have done : (Edit.create entityType supplied).run start.transaction start.allocators =
          .ok (transaction, allocators, [id]) := by
        rw [Edit.run, created]
        rfl
      refine ⟨⟨[] ++ [id], by simp, .edit .nothing (allowed _ met) done⟩, fun same ended => ?_⟩
      cases ended
      rcases Transaction.create_eq_ok created with ⟨-, store, placed, rfl⟩
      exact ⟨start.transaction.store, start.allocators, allocators, met, placed⟩

theorem delete {id : EntityId} (allowed : ∀ store, before store → permitted store (.delete id)) :
    Leads permitted limit before (Work.delete id) fun removed next =>
      ∃ store, before store ∧ store.delete id = .ok (next, removed) := by
  intro start met
  rw [Work.after_delete]
  cases deleted : start.transaction.delete id with
  | error error => exact ⟨nothing_written, fun _ impossible => by cases impossible⟩
  | ok result =>
      rcases result with ⟨removed, transaction⟩
      have done : (Edit.delete id).run start.transaction start.allocators =
          .ok (transaction, start.allocators, []) := by
        rw [Edit.run, deleted]
        rfl
      refine ⟨⟨[] ++ [], by simp, .edit .nothing (allowed _ met) done⟩, fun same ended => ?_⟩
      cases ended
      rcases Transaction.delete_eq_ok deleted with ⟨-, store, removes, rfl⟩
      exact ⟨start.transaction.store, met, removes⟩

theorem mono {sooner : Store → Prop} {later : α → Store → Prop}
    (leads : Leads permitted limit before work after)
    (weaker : ∀ store, sooner store → before store)
    (stronger : ∀ result store, after result store → later result store) :
    Leads permitted limit sooner work later := by
  intro start met
  rcases leads start (weaker _ met) with ⟨writes, results⟩
  exact ⟨writes, fun result done => stronger _ _ (results result done)⟩

theorem bind {first second : Nat} (enough : first + second ≤ limit) {middle : α → Store → Prop}
    {rest : α → Work β} {after : β → Store → Prop}
    (leads : Leads permitted first before work middle)
    (further : ∀ result, Leads permitted second (middle result) (rest result) after) :
    Leads permitted limit before (work >>= rest) after := by
  intro start met
  rcases leads start met with ⟨⟨handed, few, writes⟩, results⟩
  rw [Work.after_bind]
  rcases ended : Work.after work start with ⟨outcome, now⟩
  rw [ended] at writes results
  cases outcome with
  | error error =>
      have fewAll := Nat.le_trans few (Nat.le_trans (Nat.le_add_right first second) enough)
      exact ⟨⟨handed, fewAll, writes⟩, fun _ impossible => by cases impossible⟩
  | ok result =>
      rcases further result now (results result rfl) with ⟨⟨more, fewMore, written⟩, outcomes⟩
      have fewAll : (handed ++ more).length ≤ limit := by
        rw [List.length_append]
        exact Nat.le_trans (Nat.add_le_add few fewMore) enough
      exact ⟨⟨handed ++ more, fewAll, writes.trans written⟩, outcomes⟩

/-- Work on each of a list keeps what it keeps on one. -/
theorem mapM {limit : Nat} {keeps : Store → Prop} {act : β → Work α}
    (each : ∀ request, Leads permitted limit keeps (act request) fun _ => keeps)
    (requests : List β) :
    Leads permitted (limit * requests.length) keeps (requests.mapM act) fun _ => keeps := by
  induction requests with
  | nil => exact pure fun _ met => met
  | cons first rest ih =>
      have enough : limit + limit * rest.length ≤ limit * (first :: rest).length := by
        rw [List.length_cons, Nat.mul_succ, Nat.add_comm]
      rw [List.mapM_cons]
      refine bind enough (each first) fun result => ?_
      exact bind (Nat.le_refl (limit * rest.length + 0)) ih fun results =>
        pure fun _ met => met

end Leads

end Identity

end EntityBase
