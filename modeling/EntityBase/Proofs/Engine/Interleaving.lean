import EntityBase.Proofs.Engine.Replay
import EntityBase.Proofs.Store.Repetition

namespace EntityBase

/-!
# Work repeated beside other work

A log was written on one snapshot and is repeated on another, which has lost
some entities since and gained others.  If nothing that the log needs has been
lost, and nothing that was gained stands in its way, every write of it goes
through, and it does to the second snapshot what it did to the first.

The two runs are followed write by write.  A cascade may take less on the
second snapshot, since part of it may have been lost before.  It never takes
more, because a newcomer that depended on a victim would refer to something
that the work has removed.
-/

namespace Store

variable {base working now next after result : Store} {log rest : List Write} {write : Write}
  {id : EntityId} {record : Record} {created more : List EntityId}

/-- An entity that one snapshot has and another has not. -/
def HasWithout (store other : Store) (id : EntityId) : Prop :=
  store.contains id = true ∧ other.contains id = false

theorem contains_of_get? (live : base.get? id = some record) : base.contains id = true :=
  (contains_eq_true_iff base id).mpr ⟨record, live⟩

/-! ## The same work on two snapshots -/

/-- None of some identifiers is in use. -/
def Free (store : Store) (created : List EntityId) : Prop :=
  ∀ id ∈ created, store.get? id = none

/-- Work changes no record, and what it adds it creates. -/
def Leads (base working : Store) (created : List EntityId) : Prop :=
  ∀ (id : EntityId) (record : Record), working.get? id = some record →
    base.get? id = some record ∨ id ∈ created

theorem Leads.contains (leads : base.Leads working created) (live : working.contains id = true) :
    base.contains id = true ∨ id ∈ created := by
  rcases (contains_eq_true_iff working id).mp live with ⟨record, found⟩
  exact (leads id record found).imp_left contains_of_get?

/-- The second snapshot loses what the first loses, as far as it has it, and
gains what the first gains. -/
def Parallel (base working now result : Store) (created : List EntityId) : Prop :=
  ∀ (id : EntityId) (record : Record), result.get? id = some record ↔
    now.get? id = some record ∧ ¬ base.HasWithout working id ∨
      id ∈ created ∧ working.get? id = some record

section Parallel

variable (parallel : base.Parallel next now after created) (leads : base.Leads next created)
  (free : now.Free created)
include parallel leads free

theorem Parallel.agrees (agrees : base.Agrees now) (types : next.schema = base.schema)
    (alsoTypes : after.schema = now.schema) : next.Agrees after where
  records := by
    intro id left right isLeft isRight
    rcases (parallel id right).mp isRight with ⟨old, -⟩ | ⟨-, same⟩
    · rcases leads id left isLeft with kept | new
      · exact agrees.records id left right kept old
      · rw [free id new] at old
        cases old
    · exact Option.some.inj (isLeft.symm.trans same)
  types := by
    rw [types, alsoTypes]
    exact agrees.types

omit free in
/-- What has gone from the second snapshot by the end of the work had gone
before. -/
theorem Parallel.gone (gone : next.HasWithout after id) : base.HasWithout now id := by
  rcases (contains_eq_true_iff next id).mp gone.1 with ⟨record, live⟩
  have absent := (contains_eq_false_iff after id).mp gone.2
  rcases leads id record live with old | new
  · refine ⟨contains_of_get? old, Bool.eq_false_iff.mpr fun there => ?_⟩
    rcases (contains_eq_true_iff now id).mp there with ⟨same, found⟩
    have kept := (parallel id same).mpr
      (Or.inl ⟨found, fun lost => Bool.false_ne_true (lost.2.symm.trans gone.1)⟩)
    rw [absent] at kept
    cases kept
  · have made := (parallel id record).mpr (Or.inr ⟨new, live⟩)
    rw [absent] at made
    cases made

end Parallel

/-- Who is new on the second snapshot at the end of the work was new before,
with the same record. -/
theorem Parallel.came (parallel : base.Parallel next now after created)
    (live : after.get? id = some record) (absent : next.contains id = false) :
    now.get? id = some record ∧ base.contains id = false := by
  rcases (parallel id record).mp live with ⟨old, kept⟩ | ⟨-, made⟩
  · exact ⟨old, Bool.eq_false_iff.mpr fun was => kept ⟨was, absent⟩⟩
  · rw [contains_of_get? made] at absent
    cases absent

/-- Work is parallel if it is in two parts. -/
theorem Parallel.trans (first : base.Parallel next now after created)
    (second : next.Parallel working after result more)
    (leads : base.Leads next created) (further : next.Leads working more)
    (free : now.Free (created ++ more)) (once : ∀ id ∈ created, id ∉ more) :
    base.Parallel working now result (created ++ more) := by
  intro id record
  rw [second id record, first id record]
  constructor
  · rintro (⟨⟨old, kept⟩ | ⟨new, made⟩, stays⟩ | ⟨new, stays⟩)
    · refine Or.inl ⟨old, fun ⟨was, gone⟩ => ?_⟩
      cases between : next.contains id with
      | false => exact kept ⟨was, between⟩
      | true => exact stays ⟨between, gone⟩
    · have there : working.contains id = true :=
        Bool.of_not_eq_false fun gone => stays ⟨contains_of_get? made, gone⟩
      rcases (contains_eq_true_iff working id).mp there with ⟨same, found⟩
      rcases further id same found with before | again
      · cases made.symm.trans before
        exact Or.inr ⟨List.mem_append_left _ new, found⟩
      · exact (once id new again).elim
    · exact Or.inr ⟨List.mem_append_right _ new, stays⟩
  · rintro (⟨old, stays⟩ | ⟨member, made⟩)
    · have neither : id ∉ created ++ more := by
        intro new
        rw [free id new] at old
        cases old
      refine Or.inl ⟨Or.inl ⟨old, fun ⟨was, lost⟩ => ?_⟩, fun ⟨between, gone⟩ => ?_⟩
      · have there : working.contains id = true :=
          Bool.of_not_eq_false fun gone => stays ⟨was, gone⟩
        rcases further.contains there with before | new
        · rw [lost] at before
          cases before
        · exact neither (List.mem_append_right _ new)
      · rcases leads.contains between with was | new
        · exact stays ⟨was, gone⟩
        · exact neither (List.mem_append_left _ new)
    · rcases List.mem_append.mp member with new | new
      · rcases further id record made with before | again
        · refine Or.inl ⟨Or.inr ⟨new, before⟩, fun ⟨_, gone⟩ => ?_⟩
          rw [contains_of_get? made] at gone
          cases gone
        · exact (once id new again).elim
      · exact Or.inr ⟨new, made⟩

/-- A creation adds the same record to both snapshots. -/
theorem parallel_insert {entityType : String} {supplied : List (String × Value)}
    (done : base.insert id entityType supplied = .ok next)
    (repeated : now.insert id entityType supplied = .ok after) :
    base.Parallel next now after [id] := by
  have keeps : ∀ other, ¬ base.HasWithout next other := by
    rintro other ⟨was, gone⟩
    rcases (contains_eq_true_iff base other).mp was with ⟨record, live⟩
    rw [contains_eq_false_iff, get?_of_insert done] at gone
    split at gone
    · cases gone
    · rw [live] at gone
      cases gone
  intro other record
  have free := (insert_eq_ok_iff.mp repeated).1
  rw [get?_of_insert repeated, get?_of_insert done, List.mem_singleton]
  by_cases same : id = other
  · subst same
    simp [free]
  · simp [same, Ne.symm same, keeps]

/-- A deletion takes from the second snapshot what it takes from the first. -/
theorem parallel_delete (coherent : base.Coherent) (alsoCoherent : now.Coherent)
    {removed others : List EntityId}
    (same : ∀ other, now.contains other = true →
      (now.Depends other id ↔ base.contains other = true ∧ base.Depends other id))
    (done : base.delete id = .ok (next, removed))
    (repeated : now.delete id = .ok (after, others)) : base.Parallel next now after [] := by
  intro other record
  have lost : base.HasWithout next other ↔ base.contains other = true ∧ base.Depends other id := by
    rw [HasWithout, Bool.eq_false_iff, Ne, coherent.contains_deleteArranged_iff done]
    constructor
    · exact fun ⟨was, gone⟩ => ⟨was, not_not.mp fun stays => gone ⟨was, stays⟩⟩
    · exact fun ⟨was, depends⟩ => ⟨was, fun stays => stays.2 depends⟩
  rw [alsoCoherent.get?_deleteArranged_iff repeated, lost]
  constructor
  · exact fun ⟨live, stays⟩ =>
      Or.inl ⟨live, fun depends => stays ((same other (contains_of_get? live)).mpr depends)⟩
  · rintro (⟨live, stays⟩ | ⟨none, -⟩)
    · exact ⟨live, fun depends => stays ((same other (contains_of_get? live)).mp depends)⟩
    · cases none

/-! ## When the work goes through -/

/-- Other work has not disturbed a log.  What the log deletes or refers to has
not gone.  No newcomer refers to something that the log has removed, and none
holds a value that the log creates where it has to be unique. -/
structure Undisturbed (base working now : Store) (log : List Write) : Prop where
  targets : ∀ id, .delete id ∈ log → ¬ base.HasWithout now id
  references : ∀ (id : EntityId) (entityType : String) (supplied : List (String × Value))
    (type : EntityType) (declared : Attribute) (target : EntityId),
    .create id entityType supplied ∈ log → base.schema.find? entityType = some type →
    declared ∈ type.attributes → declared.target?.isSome = true →
    (declared.field, Value.ref target) ∈ supplied → ¬ base.HasWithout now target
  newcomers : ∀ (newcomer target : EntityId) (cascade : Bool), now.HasWithout base newcomer →
    now.Refers cascade newcomer target → ¬ base.HasWithout working target
  values : ∀ (id : EntityId) (entityType : String) (supplied : List (String × Value)),
    .create id entityType supplied ∈ log → base.NoRival now entityType supplied

/-- Two snapshots of one store, and a log whose identifiers are new to both. -/
structure Alongside (base now : Store) (log : List Write) : Prop where
  coherent : base.Coherent
  alsoCoherent : now.Coherent
  agrees : base.Agrees now
  grows : now.schema.Extends base.schema
  once : (Write.creations log).Nodup
  free : base.Free (Write.creations log)
  alsoFree : now.Free (Write.creations log)

theorem leads_apply (done : write.apply base = .ok next) :
    base.Leads next (Write.creations [write]) := by
  intro id record live
  rcases get?_of_apply done live with old | created
  · exact Or.inl old
  · exact Or.inr (List.mem_filterMap.mpr ⟨write, List.mem_singleton_self write, created⟩)

theorem free_append_iff : base.Free (created ++ more) ↔ base.Free created ∧ base.Free more := by
  constructor
  · exact fun free => ⟨fun id new => free id (List.mem_append_left _ new),
      fun id new => free id (List.mem_append_right _ new)⟩
  · exact fun ⟨free, alsoFree⟩ id new => (List.mem_append.mp new).elim (free id) (alsoFree id)

theorem Free.tail (once : (Write.creations (write :: rest)).Nodup)
    (free : base.Free (Write.creations (write :: rest))) (done : write.apply base = .ok next) :
    next.Free (Write.creations rest) := by
  intro id new
  rw [Option.eq_none_iff_forall_not_mem]
  intro record live
  rw [Write.creations_cons] at once free
  rcases leads_apply done id record live with old | created
  · rw [free id (List.mem_append_right _ new)] at old
    cases old
  · exact (List.nodup_append.mp once).2.2 id created id new rfl

section Undisturbed

variable (undisturbed : base.Undisturbed working now (write :: rest))
  (alongside : base.Alongside now (write :: rest)) (done : write.apply base = .ok next)
include undisturbed alongside done

/-- The next write goes through, and does the same. -/
theorem Undisturbed.apply (replays : next.replay rest = .ok working) :
    ∃ after, write.apply now = .ok after ∧
      base.Parallel next now after (Write.creations [write]) := by
  rcases alongside with ⟨coherent, alsoCoherent, agrees, grows, once, free, alsoFree⟩
  cases write with
  | create id entityType supplied =>
      have present : base.KeepsReferences now entityType supplied := by
        intro type declared target found member leads held live
        have stays := undisturbed.references id entityType supplied type declared target
          List.mem_cons_self found member leads held
        exact Bool.of_not_eq_false fun gone => stays ⟨live, gone⟩
      have noRival := undisturbed.values id entityType supplied List.mem_cons_self
      have unused := alsoFree id List.mem_cons_self
      rcases coherent.insert_of_agrees alsoCoherent agrees grows unused present noRival done with
        ⟨after, repeated⟩
      exact ⟨after, repeated, parallel_insert done repeated⟩
  | delete id =>
      rcases apply_delete_eq_ok_iff.mp done with ⟨removed, deleted⟩
      have live := ((coherent.exists_deleteArranged_iff .ascending).mp ⟨next, removed, deleted⟩).1
      have alsoLive : now.contains id = true :=
        Bool.of_not_eq_false fun gone => undisturbed.targets id List.mem_cons_self ⟨live, gone⟩
      have outOfReach : base.OutOfReach now id := by
        intro newcomer target cascade new refers was depends
        refine undisturbed.newcomers newcomer target cascade ⟨contains_owner refers, new⟩ refers
          ⟨was, Bool.eq_false_iff.mpr fun there => ?_⟩
        -- What the log has removed does not come back later in it.
        rcases contains_of_replay replays there with stays | again
        · exact ((coherent.contains_deleteArranged_iff deleted).mp stays).2 depends
        · rw [contains_eq_true_iff, free target again] at was
          simp at was
      rcases coherent.delete_of_agrees alsoCoherent agrees live outOfReach alsoLive deleted with
        ⟨after, others, repeated⟩
      refine ⟨after, apply_delete_eq_ok_iff.mpr ⟨others, repeated⟩,
        parallel_delete coherent alsoCoherent ?_ deleted repeated⟩
      exact fun other there =>
        coherent.depends_iff_of_agrees alsoCoherent agrees live outOfReach there

variable (repeated : write.apply now = .ok after)
  (parallel : base.Parallel next now after (Write.creations [write]))
include repeated parallel

omit undisturbed in
theorem Alongside.tail : next.Alongside after rest where
  coherent := alongside.coherent.apply done
  alsoCoherent := alongside.alsoCoherent.apply repeated
  agrees := by
    have free := (free_append_iff.mp (Write.creations_cons write rest ▸ alongside.alsoFree)).1
    exact parallel.agrees (leads_apply done) free alongside.agrees (schema_apply done)
      (schema_apply repeated)
  grows := by
    rw [schema_apply done, schema_apply repeated]
    exact alongside.grows
  once := alongside.once.sublist ((List.sublist_cons_self write rest).filterMap _)
  free := alongside.free.tail alongside.once done
  alsoFree := alongside.alsoFree.tail alongside.once repeated

theorem Undisturbed.tail : next.Undisturbed working after rest := by
  have leads := leads_apply done
  have free := (free_append_iff.mp (Write.creations_cons write rest ▸ alongside.alsoFree)).1
  have types := schema_apply done
  have alsoTypes := schema_apply repeated
  constructor
  · exact fun id member gone =>
      undisturbed.targets id (List.mem_cons_of_mem _ member) (parallel.gone leads gone)
  · intro id entityType supplied type declared target member found declares refers held gone
    exact undisturbed.references id entityType supplied type declared target
      (List.mem_cons_of_mem _ member) (types ▸ found) declares refers held
      (parallel.gone leads gone)
  · rintro newcomer target cascade ⟨-, absent⟩ refers ⟨live, gone⟩
    rcases refers with ⟨record, type, declared, there, found, rest⟩
    rcases parallel.came there absent with ⟨came, new⟩
    have before : now.Refers cascade newcomer target :=
      ⟨record, type, declared, came, alsoTypes ▸ found, rest⟩
    rcases leads.contains live with old | created
    · exact undisturbed.newcomers newcomer target cascade ⟨contains_of_get? came, new⟩ before
        ⟨old, gone⟩
    · -- A newcomer cannot know what the log is yet to create.
      have targetLive := alongside.alsoCoherent.contains_target before
      rw [contains_eq_true_iff, free target created] at targetLive
      simp at targetLive
  · intro id entityType supplied member newcomer record type declared value live absent
    rcases parallel.came live absent with ⟨came, new⟩
    rw [alsoTypes]
    exact undisturbed.values id entityType supplied (List.mem_cons_of_mem _ member) newcomer record
      type declared value came new

end Undisturbed

/-- An undisturbed log goes through, and does to the one snapshot what it has
done to the other. -/
theorem Undisturbed.replay (undisturbed : base.Undisturbed working now log)
    (alongside : base.Alongside now log) (replays : base.replay log = .ok working) :
    ∃ result, now.replay log = .ok result ∧
      base.Parallel working now result (Write.creations log) := by
  induction log generalizing base now with
  | nil =>
      cases replays
      refine ⟨now, rfl, fun id record => ?_⟩
      simp [HasWithout]
  | cons write rest ih =>
      rcases (replay_cons base write rest).mp replays with ⟨next, done, later⟩
      rcases undisturbed.apply alongside done later with ⟨after, repeated, parallel⟩
      rcases ih (undisturbed.tail alongside done repeated parallel)
        (alongside.tail done repeated parallel) later with ⟨result, continued, further⟩
      refine ⟨result, (replay_cons now write rest).mpr ⟨after, repeated, continued⟩, ?_⟩
      have once := alongside.once
      have free := alongside.alsoFree
      rw [Write.creations_cons] at once free ⊢
      refine parallel.trans further (leads_apply done) ?_ free ?_
      · exact fun id record live => get?_of_replay later live
      · exact fun id created again => (List.nodup_append.mp once).2.2 id created id again rfl

end Store

end EntityBase
