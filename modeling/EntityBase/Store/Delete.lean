import EntityBase.Store

namespace EntityBase

/-!
# Deleting entities

Deleting an entity deletes, in turn, every entity that refers to a deleted
one by a cascading reference.  A plain reference protects its target instead:
if an entity outside the cascade holds one to an entity inside, nothing is
deleted.

Entities are removed after everything that depends on them.  The order comes
from a walk with an explicit stack: an entity is entered, the entities that
depend on it are put on top of it, and it is left once they are done with.
An entity may wait on the stack several times, and only the first entry
counts.  The entities that have not been entered are held in `unvisited`,
which is what bounds the walk; everything the index mentions is among them.

The members of one index entry may be walked in any order.  An arrangement
fixes one, and the store's own is by identifier.
-/

/-- A choice of order for the members of each index entry. -/
structure Arrangement where
  order : IndexKey → EntitySet → List EntityId
  perm : ∀ (key : IndexKey) (members : EntitySet), (order key members).Perm members.toList

def Arrangement.ascending : Arrangement where
  order _ members := members.toList
  perm _ _ := .rfl

/-- A step waiting on the stack of a cascade. -/
inductive CascadeStep where
  | enter (id : EntityId)
  | leave (id : EntityId)
deriving DecidableEq

/-- An entity that refers to another, and the field by which it does. -/
structure Referrer where
  owner : EntityId
  field : String
deriving DecidableEq

namespace Store

/-- The entities that refer to a live one, by cascading references only or by
plain ones only. -/
def referrers (store : Store) (arrangement : Arrangement) (cascade : Bool) (target : EntityId) :
    List Referrer :=
  match store.get? target with
  | none => []
  | some record =>
      let edges := (store.schema.incomingReferences record.entityType).filter (·.cascade = cascade)
      edges.flatMap fun edge =>
        let key : IndexKey := ⟨edge.owner, edge.field, .ref target⟩
        (arrangement.order key (store.index.find key)).map (⟨·, edge.field⟩)

def dependents (store : Store) (arrangement : Arrangement) (id : EntityId) : List EntityId :=
  (store.referrers arrangement true id).map (·.owner)

/-- Work through the steps on the stack and list the entities in the order in
which they are left. -/
def walk (store : Store) (arrangement : Arrangement) (unvisited : EntitySet) :
    (stack : List CascadeStep) → List EntityId
  | [] => []
  | .leave id :: rest => id :: store.walk arrangement unvisited rest
  | .enter id :: rest =>
      if id ∈ unvisited then
        let remaining := unvisited.erase id
        let waiting := (store.dependents arrangement id).filter (· ∈ remaining)
        store.walk arrangement remaining
          (waiting.reverse.map CascadeStep.enter ++ .leave id :: rest)
      else
        store.walk arrangement unvisited rest
termination_by stack => (unvisited.size, stack.length)
decreasing_by
  · exact Prod.Lex.right _ (by simp)
  · exact Prod.Lex.left _ _ (EntitySet.size_erase_lt ‹_›)
  · exact Prod.Lex.right _ (by simp)

/-- The entities that deleting one removes, dependents first. -/
def cascadeOrder (store : Store) (arrangement : Arrangement) (root : EntityId) : List EntityId :=
  store.walk arrangement (store.index.members.insert root) [.enter root]

/-- A plain reference to one of the doomed entities from outside them. -/
def protection? (store : Store) (arrangement : Arrangement) (doomed : List EntityId) :
    Option (EntityId × Referrer) :=
  doomed.findSome? fun victim =>
    ((store.referrers arrangement false victim).find? (·.owner ∉ doomed)).map (victim, ·)

/-- Take a record out of a store, with its index entries as `snapshot` has
them. -/
def remove (snapshot : Store) (store : Store) (victim : EntityId) : Store :=
  match snapshot.get? victim with
  | none => store
  | some record =>
      { store with
        records := store.records.erase victim
        index := (snapshot.indexKeys record).foldl (·.erase · victim) store.index }

theorem get?_remove (snapshot store : Store) (victim other : EntityId)
    (live : snapshot.contains victim = true) :
    (snapshot.remove store victim).get? other =
      if victim = other then none else store.get? other := by
  rw [contains, Std.ExtTreeMap.contains_eq_isSome_getElem?] at live
  rcases Option.isSome_iff_exists.1 live with ⟨record, found⟩
  simp [remove, get?, found, Std.ExtTreeMap.getElem?_erase]

private theorem find_eraseKeys (keys : List IndexKey) (index : Index) (id : EntityId)
    (key : IndexKey) :
    (keys.foldl (·.erase · id) index).find key =
      if key ∈ keys then (index.find key).erase id else index.find key := by
  induction keys generalizing index with
  | nil => simp
  | cons first rest ih =>
      rw [List.foldl_cons, ih, Index.find_erase]
      by_cases here : first = key
      · subst here
        simp
      · simp [here, Ne.symm here]

/-- A removed record leaves each of its keys, and nothing else in the index
moves. -/
theorem find_remove {snapshot store : Store} {victim : EntityId} {record : Record}
    (live : snapshot.get? victim = some record) (key : IndexKey) :
    (snapshot.remove store victim).index.find key =
      if key ∈ snapshot.indexKeys record then (store.index.find key).erase victim
      else store.index.find key := by
  simp only [remove, live]
  exact find_eraseKeys _ _ _ _

/-- Delete an entity and its dependents, walking index entries as arranged. -/
def deleteArranged (store : Store) (arrangement : Arrangement) (id : EntityId) :
    Except Error (Store × List EntityId) :=
  if store.contains id then
    let doomed := store.cascadeOrder arrangement id
    match store.protection? arrangement doomed with
    | some (victim, referrer) =>
        .error (ErrorKind.constraintViolation
          (.stillReferenced victim referrer.owner referrer.field))
    | none => .ok (doomed.foldl store.remove store, doomed)
  else .error (ErrorKind.entityNotFound id)

/-- Delete an entity and its dependents.  Returns the next snapshot and the
removed entities in the order of their removal. -/
def delete (store : Store) (id : EntityId) : Except Error (Store × List EntityId) :=
  store.deleteArranged .ascending id

/-! ## The order of removal -/

/-- The entities that a record refers to by cascading references. -/
def cascadeTargets (store : Store) (id : EntityId) : List EntityId :=
  match store.get? id with
  | none => []
  | some record =>
      match store.schema.find? record.entityType with
      | none => []
      | some type =>
          (type.attributes.filter (·.cascadeTarget?.isSome)).filterMap fun declared =>
            (record.attributes[declared.field]?).bind Value.entity?

/-- Whether a list names every entity before those that it refers to by a
cascading reference in the given snapshot.  No place is right for an entity
that refers to itself. -/
def dependentsFirst (store : Store) : (removed : List EntityId) → Bool
  | [] => true
  | id :: rest =>
      (id :: rest).all (fun later => id ∉ store.cascadeTargets later) &&
        store.dependentsFirst rest

end Store

end EntityBase
