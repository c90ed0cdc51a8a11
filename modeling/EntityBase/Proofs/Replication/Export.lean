import Mathlib.Data.List.Sort
import EntityBase.Proofs.Identity.Adoption
import EntityBase.Proofs.Replication.Envelopes

namespace EntityBase

/-!
# From one store to another

An export has an envelope for each shared entity of a snapshot and for nothing
else.  It is in the order of the identifiers, so it depends on the shared
entities alone, whatever else the snapshot holds and however it came to hold it.

The receiver reads back what was sent, and adopts it.  What it keeps of a
received entity is the project identifier.  The identifiers are its own, and so
an export from a store that uses the same words for other entities does no harm.
-/

namespace Store

variable {store : Store}

/-- The records of a type are in the order of their identifiers. -/
theorem Integrity.recordsOf_ascending (integrity : store.Integrity) (entityType : String) :
    (store.recordsOf entityType).Pairwise fun first second => first.id.raw < second.id.raw := by
  refine List.Pairwise.filter _ ?_
  rw [values_eq_map_toList, List.pairwise_map]
  refine Std.ExtTreeMap.ordered_keys_toList.imp_of_mem fun {first second} firstMem secondMem below => ?_
  rw [Std.ExtTreeMap.mem_toList_iff_getElem?_eq_some] at firstMem secondMem
  rw [integrity.ownId _ _ firstMem, integrity.ownId _ _ secondMem]
  exact Std.compare_eq_lt.mp below

end Store

namespace Replication

open Identity
open MessagePack

variable {store : Store} {entities others : List SharedEntity}

/-! ## Listing shared entities -/

/-- A list has the shared entities of a snapshot, each once and in the order of
their identifiers. -/
structure Lists (store : Store) (entities : List SharedEntity) : Prop where
  exactly : ∀ entity, entity ∈ entities ↔ IsShared store entity.id entity.projectId
  ascending : entities.Pairwise fun first second => first.id.raw < second.id.raw

theorem Lists.nodup (lists : Lists store entities) : entities.Nodup :=
  lists.ascending.imp fun {first second} below same => by
    rw [same] at below
    exact UInt64.lt_irrefl _ below

/-- Snapshots with the same shared entities are listed alike. -/
theorem Lists.eq {twin : Store} (lists : Lists store entities) (listsTwin : Lists twin others)
    (same : ∀ id projectId, IsShared store id projectId ↔ IsShared twin id projectId) :
    entities = others := by
  refine List.Perm.eq_of_pairwise ?_ lists.ascending listsTwin.ascending
    ((List.perm_ext_iff_of_nodup lists.nodup listsTwin.nodup).mpr ?_)
  · exact fun _ _ _ _ below above => absurd above (UInt64.lt_asymm below)
  · exact fun entity => (lists.exactly entity).trans ((same _ _).trans (listsTwin.exactly entity).symm)

/-- A coherent snapshot with the identity types is exported whole. -/
theorem exportShared_eq_ok (coherent : store.Coherent) (installed : Installed store) :
    ∃ entities, exportShared store = .ok (entities.map encodeShared) ∧ Lists store entities := by
  have integrity := coherent.integrity
  have readable : ∀ record ∈ store.recordsOf sharedType, ∃ projectId,
      SharedEntity.ofRecord record = .ok ⟨record.id, projectId⟩ ∧
        IsShared store record.id projectId := by
    intro record listed
    rcases (store.mem_recordsOf_iff sharedType record).mp listed with ⟨typed, id, live⟩
    rcases exists_isShared coherent installed live typed with ⟨projectId, isShared⟩
    have ⟨same, sameLive, _, held⟩ := isShared
    cases live.symm.trans sameLive
    exact ⟨projectId, SharedEntity.ofRecord_eq_ok typed held,
      (integrity.ownId id record live).symm ▸ isShared⟩
  rcases Outcome.exists_mapM_eq_ok fun record listed =>
    (readable record listed).elim fun _ read => ⟨_, read.1⟩ with ⟨entities, read⟩
  have words : entities.map (·.id.raw) = (store.recordsOf sharedType).map (·.id.raw) := by
    refine Outcome.map_results read fun record listed entity here => ?_
    rcases readable record listed with ⟨projectId, known, -⟩
    cases here.symm.trans known
    rfl
  refine ⟨entities, ?_, fun entity => ?_, ?_⟩
  · rw [exportShared, installed.shared]
    change (do
      let entities ← (store.recordsOf sharedType).mapM SharedEntity.ofRecord
      return entities.map encodeShared) = _
    rw [read]
    rfl
  · rw [Outcome.mem_results_iff read]
    constructor
    · rintro ⟨record, listed, here⟩
      rcases readable record listed with ⟨projectId, known, isShared⟩
      cases here.symm.trans known
      exact isShared
    · rintro ⟨record, live, typed, held⟩
      have here := SharedEntity.ofRecord_eq_ok typed held
      rw [integrity.ownId entity.id record live] at here
      exact ⟨record, (store.mem_recordsOf_iff sharedType record).mpr ⟨typed, entity.id, live⟩, here⟩
  · have ordered := List.pairwise_map.mpr (integrity.recordsOf_ascending sharedType)
    rw [← words] at ordered
    exact List.pairwise_map.mp ordered

/-! ## End to end -/

/-- A transaction on a lawful snapshot is ready. -/
theorem ready_of_lawful {world : World} {transaction : Transaction} (lawful : world.Lawful)
    (member : transaction.store ∈ world.stores) (installed : Installed transaction.store)
    (active : transaction.isActive = true)
    (few : (world.issued transaction.store.allocator).length < UInt64.size) :
    Ready (world.issued transaction.store.allocator) ⟨transaction, world.allocators⟩ where
  active := active
  coherent := (lawful.keeps member).coherent few
  installed := installed
  accounts := World.Reached.accounts lawful _
  within := (lawful.keeps member).within

/-- What leaves a lawful snapshot is its shared entities, each once and in the
order of their identifiers, and so they arrive.  Snapshots with the same shared
entities send the same.  In an active transaction on any lawful snapshot, all
that has arrived can be taken in, and what was there before stays as it was. -/
theorem replication_of_lawful {world : World} (lawful : world.Lawful) (member : store ∈ world.stores)
    (few : (world.issued store.allocator).length < UInt64.size) (installed : Installed store)
    (fits : ∀ id projectId, IsShared store id projectId →
      (sharedPayload ⟨id, projectId⟩).length < UInt32.size) :
    ∃ entities, Lists store entities ∧ exportShared store = .ok (entities.map encodeShared) ∧
      (entities.map encodeShared).mapM (fun record => Decoders.default.receive record.encode) =
        .ok (entities.map .shared) ∧
      (∀ (elsewhere : World) (twin : Store), elsewhere.Lawful → twin ∈ elsewhere.stores →
        (elsewhere.issued twin.allocator).length < UInt64.size → Installed twin →
        (∀ id projectId, IsShared store id projectId ↔ IsShared twin id projectId) →
          exportShared twin = exportShared store) ∧
      ∀ (other : World) (transaction : Transaction) (outcome : Except Error (List SharedEntity))
        (now : Workspace), other.Lawful → transaction.store ∈ other.stores →
        Installed transaction.store → transaction.isActive = true →
        Work.after (entities.mapM adopt) ⟨transaction, other.allocators⟩ = (outcome, now) →
        (other.issued transaction.store.allocator).length +
          (Workspace.handed ⟨transaction, other.allocators⟩ now).length < UInt64.size →
          ∃ adopted, outcome = .ok adopted ∧ TakesIn entities transaction.store adopted now := by
  have coherent := (lawful.keeps member).coherent few
  rcases exportShared_eq_ok coherent installed with ⟨entities, exported, lists⟩
  refine ⟨entities, lists, exported, ?_, ?_, ?_⟩
  · have arrives : ∀ entity ∈ entities,
        Decoders.default.receive (encodeShared entity).encode = .ok (.shared entity) := by
      intro entity listed
      have small := fits entity.id entity.projectId ((lists.exactly entity).mp listed)
      have received := receive_encodeShared small []
      rwa [List.append_nil] at received
    rw [List.mapM_map]
    exact Outcome.mapM_eq_ok_map arrives
  · intro elsewhere twin lawfulTwin memberTwin fewTwin installedTwin same
    have coherentTwin := (lawfulTwin.keeps memberTwin).coherent fewTwin
    rcases exportShared_eq_ok coherentTwin installedTwin with ⟨others, exportedTwin, listsTwin⟩
    rw [exported, exportedTwin, lists.eq listsTwin same]
  · intro other transaction outcome now lawfulOther memberOther installedOther active done fewer
    have fewOther := Nat.lt_of_le_of_lt (Nat.le_add_right _ _) fewer
    exact takesIn_of_ready (ready_of_lawful lawfulOther memberOther installedOther active fewOther)
      done fewer

namespace Sample

def note : EntityType :=
  { name := "Note"
    attributes := [] }

/-- A store with a project and a note. -/
def sending : World :=
  ([.register sharedDeclaration,
    .register localDeclaration,
    .create sharedType [(projectIdField, projectKey ⟨"A"⟩)],
    .register note,
    .create "Note" []] : List StoreCall).foldl World.advance ({} : World).withNew

/-- A store in which the identifier of that project is another's. -/
def receiving : World :=
  ([.register sharedDeclaration,
    .register localDeclaration,
    .create sharedType [(projectIdField, projectKey ⟨"B"⟩)]] : List StoreCall).foldl World.advance
    ({} : World).withNew

def sender : Store :=
  sending.stores[0]?.getD (Store.new ∅).1

/-- The sender before it had the note. -/
def earlier : Store :=
  sending.stores[2]?.getD (Store.new ∅).1

def receiver : Store :=
  receiving.stores[0]?.getD (Store.new ∅).1

def transaction : Transaction :=
  ({ store := receiver } : Engine).begin.1

theorem lawful_sending : sending.Lawful :=
  World.Lawful.advances (.new .start) (by simp [StoreCall.inserted?])

theorem lawful_receiving : receiving.Lawful :=
  World.Lawful.advances (.new .start) (by simp [StoreCall.inserted?])

/-- The identifier, the type and the project identifier of each record. -/
def outline (store : Store) : List (EntityId × String × Option Value) :=
  store.records.values.map fun record =>
    (record.id, record.entityType, record.attributes[projectIdField]?)

theorem outline_sender : outline sender =
    [(⟨0⟩, sharedType, some (projectKey ⟨"A"⟩)), (⟨1⟩, "Note", none)] := by
  cbv

theorem outline_earlier : outline earlier = [(⟨0⟩, sharedType, some (projectKey ⟨"A"⟩))] := by
  cbv

theorem outline_receiver : outline receiver = [(⟨0⟩, sharedType, some (projectKey ⟨"B"⟩))] := by
  cbv

theorem few_sender : (sending.issued sender.allocator).length < UInt64.size :=
  lt_of_eq_of_lt (by cbv : _ = 2) (by decide)

theorem few_earlier : (sending.issued earlier.allocator).length < UInt64.size :=
  lt_of_eq_of_lt (by cbv : _ = 2) (by decide)

theorem issued_receiver : (receiving.issued receiver.allocator).length = 1 := by
  cbv

theorem mem_of_isSome {stores : List Store} {place : Nat} {fallback : Store}
    (present : stores[place]?.isSome = true) : stores[place]?.getD fallback ∈ stores := by
  rcases Option.isSome_iff_exists.mp present with ⟨store, found⟩
  rw [found]
  exact List.mem_of_getElem? found

theorem sender_mem : sender ∈ sending.stores :=
  mem_of_isSome (by cbv)

theorem earlier_mem : earlier ∈ sending.stores :=
  mem_of_isSome (by cbv)

theorem receiver_mem : receiver ∈ receiving.stores :=
  mem_of_isSome (by cbv)

theorem installed : Installed sender ∧ Installed earlier ∧ Installed receiver :=
  ⟨⟨by cbv, by cbv⟩, ⟨by cbv, by cbv⟩, ⟨by cbv, by cbv⟩⟩

theorem isShared_iff {world : World} {store : Store} (lawful : world.Lawful)
    (member : store ∈ world.stores) (few : (world.issued store.allocator).length < UInt64.size)
    {entries : List (EntityId × String × Option Value)} (all : outline store = entries)
    (id : EntityId) (projectId : ProjectId) :
    IsShared store id projectId ↔ (id, sharedType, some (projectKey projectId)) ∈ entries := by
  have integrity := ((lawful.keeps member).coherent few).integrity
  rw [← all]
  simp only [outline, Store.values_eq_map_toList, List.mem_map, Prod.exists, exists_eq_right,
    Std.ExtTreeMap.mem_toList_iff_getElem?_eq_some, Prod.mk.injEq]
  constructor
  · rintro ⟨record, live, typed, held⟩
    exact ⟨record, ⟨id, live⟩, integrity.ownId id record live, typed, held⟩
  · rintro ⟨record, ⟨other, live⟩, named, typed, held⟩
    rw [← named, integrity.ownId other record live]
    exact ⟨record, live, typed, held⟩

theorem isShared_sender_iff (id : EntityId) (projectId : ProjectId) :
    IsShared sender id projectId ↔ id = ⟨0⟩ ∧ projectId = ⟨"A"⟩ := by
  rw [isShared_iff lawful_sending sender_mem few_sender outline_sender]
  cases projectId
  simp [projectKey]

theorem isShared_earlier_iff (id : EntityId) (projectId : ProjectId) :
    IsShared earlier id projectId ↔ id = ⟨0⟩ ∧ projectId = ⟨"A"⟩ := by
  rw [isShared_iff lawful_sending earlier_mem few_earlier outline_earlier]
  cases projectId
  simp [projectKey]

theorem lists_sender : Lists sender [⟨⟨0⟩, ⟨"A"⟩⟩] := by
  refine ⟨fun entity => ?_, List.pairwise_singleton _ _⟩
  rw [isShared_sender_iff]
  cases entity
  simp

end Sample

/-- The receiver has the identifier of the project already, for another.  It takes
the project in all the same. -/
theorem replication_of_lawful_collision : ∃ adopted now,
    exportShared Sample.sender = .ok [encodeShared ⟨⟨0⟩, ⟨"A"⟩⟩] ∧
      exportShared Sample.earlier = exportShared Sample.sender ∧
      IsShared Sample.receiver ⟨0⟩ ⟨"B"⟩ ∧
      Work.after ([⟨⟨0⟩, ⟨"A"⟩⟩].mapM adopt) ⟨Sample.transaction, Sample.receiving.allocators⟩ =
        (.ok adopted, now) ∧
      TakesIn [⟨⟨0⟩, ⟨"A"⟩⟩] Sample.receiver adopted now := by
  rcases Sample.installed with ⟨installed, installedEarlier, installedReceiver⟩
  have few : (Sample.receiving.issued Sample.receiver.allocator).length < UInt64.size := by
    rw [Sample.issued_receiver]
    decide
  have fits : ∀ id projectId, IsShared Sample.sender id projectId →
      (sharedPayload ⟨id, projectId⟩).length < UInt32.size := by
    intro id projectId isShared
    rcases (Sample.isShared_sender_iff id projectId).mp isShared with ⟨rfl, rfl⟩
    decide
  rcases replication_of_lawful Sample.lawful_sending Sample.sender_mem Sample.few_sender installed
    fits with ⟨entities, lists, exported, -, alike, takes⟩
  cases lists.eq Sample.lists_sender fun _ _ => Iff.rfl
  rcases ended : Work.after ([⟨⟨0⟩, ⟨"A"⟩⟩].mapM adopt)
    ⟨Sample.transaction, Sample.receiving.allocators⟩ with ⟨outcome, now⟩
  have fewer : (Sample.receiving.issued Sample.transaction.store.allocator).length +
      (Workspace.handed ⟨Sample.transaction, Sample.receiving.allocators⟩ now).length <
      UInt64.size := by
    rcases (Leads.mapM adopt_edits [⟨⟨0⟩, ⟨"A"⟩⟩]
      ⟨Sample.transaction, Sample.receiving.allocators⟩ trivial).1 with ⟨handed, below, writes⟩
    rw [ended] at writes
    rw [writes.handed_of]
    change (Sample.receiving.issued Sample.receiver.allocator).length + handed.length < _
    rw [Sample.issued_receiver]
    exact Nat.lt_of_le_of_lt (Nat.add_le_add_left below 1) (by decide)
  rcases takes Sample.receiving Sample.transaction outcome now Sample.lawful_receiving
    Sample.receiver_mem installedReceiver rfl ended fewer with ⟨adopted, rfl, takesIn⟩
  refine ⟨adopted, now, exported, ?_, ?_, ended, takesIn⟩
  · refine alike Sample.sending Sample.earlier Sample.lawful_sending Sample.earlier_mem
      Sample.few_earlier installedEarlier fun id projectId => ?_
    rw [Sample.isShared_sender_iff, Sample.isShared_earlier_iff]
  · exact (Sample.isShared_iff Sample.lawful_receiving Sample.receiver_mem few
      Sample.outline_receiver _ _).mpr List.mem_cons_self

end Replication

end EntityBase
