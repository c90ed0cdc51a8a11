import EntityBase.Store

namespace EntityBase

/-!
# Creating entities

A creation supplies fields and values.  It is checked in two passes.  The
supplied pairs come first, from left to right: each must name a declared
attribute, not repeat a field, and hold a value that fits.  Then come the
declared attributes in their order: each must have been supplied, and a
unique one must not hold a value that is taken.

What passes is a draft, and a draft becomes a record under some identifier.
An ordinary creation allocates one, and only after the checks, so a refused
creation uses up no identifier.  A write made elsewhere is repeated under the
identifier it already has.
-/

/-- A creation that has passed its checks. -/
structure Draft where
  entityType : String
  attributes : Std.ExtTreeMap String Value

namespace Store

/-- Whether a value fits an attribute.  A reference must lead to a live
entity of the declared type. -/
def checkValue (store : Store) (entityType : String) (declared : Attribute) (value : Value) :
    Except Error Unit :=
  let failure (kind : ErrorKind) : Except Error Unit :=
    .error (Error.atAttribute kind entityType declared.field)
  match declared.kind with
  | .value type =>
      if type.accepts value.type then .ok () else failure (.typeMismatch type value.type)
  | .transient =>
      if value.type = .live then .ok () else failure (.typeMismatch .live value.type)
  | .reference target =>
      match value.entity? with
      | none => failure (.typeMismatch .entityRef value.type)
      | some id =>
          match store.get? id with
          | none => failure (.entityNotFound id)
          | some referenced =>
              if referenced.entityType = target then .ok ()
              else failure (.constraintViolation
                (.wrongTarget entityType declared.field target id referenced.entityType))

/-- Check the supplied pairs from left to right and collect them. -/
def collect (store : Store) (type : EntityType) (collected : Std.ExtTreeMap String Value) :
    (supplied : List (String × Value)) → Except Error (Std.ExtTreeMap String Value)
  | [] => .ok collected
  | (field, value) :: rest => do
      let declared ← attributeOf type field
      if collected.contains field then
        .error (Error.atAttribute (.constraintViolation (.repeatedAttribute field)) type.name field)
      else
        store.checkValue type.name declared value
        store.collect type (collected.insert field value) rest

/-- Check one declared attribute against the collected values. -/
def checkDeclared (store : Store) (entityType : String)
    (collected : Std.ExtTreeMap String Value) (declared : Attribute) : Except Error Unit :=
  match collected[declared.field]? with
  | none => .error (ErrorKind.missingAttribute entityType declared.field)
  | some value =>
      if declared.unique ∧ store.index.contains ⟨entityType, declared.field, value⟩ then
        .error (Error.atAttribute
          (.constraintViolation (.taken entityType declared.field value)) entityType declared.field)
      else .ok ()

/-- Check a creation against the schema and the snapshot. -/
def draft (store : Store) (entityType : String) (supplied : List (String × Value)) :
    Except Error Draft := do
  let type ← store.declaration entityType
  let collected ← store.collect type ∅ supplied
  type.attributes.forM (store.checkDeclared type.name collected)
  return ⟨type.name, collected⟩

/-- Make a draft the record of an identifier.  A record already there is
replaced, and what the index holds for it stays. -/
def place (store : Store) (id : EntityId) (draft : Draft) : Store :=
  let record : Record := ⟨id, draft.entityType, draft.attributes⟩
  { store with
    records := store.records.insert id record
    index := (store.indexKeys record).foldl (·.insert · id) store.index }

theorem get?_place (store : Store) (id other : EntityId) (draft : Draft) :
    (store.place id draft).get? other =
      if id = other then some ⟨id, draft.entityType, draft.attributes⟩ else store.get? other := by
  simp [place, get?, Std.ExtTreeMap.getElem?_insert]

private theorem find_insertKeys (keys : List IndexKey) (index : Index) (id : EntityId)
    (key : IndexKey) :
    (keys.foldl (·.insert · id) index).find key =
      if key ∈ keys then (index.find key).insert id else index.find key := by
  induction keys generalizing index with
  | nil => simp
  | cons first rest ih =>
      rw [List.foldl_cons, ih, Index.find_insert]
      by_cases here : first = key
      · subst here
        simp
      · simp [here, Ne.symm here]

/-- A placed record stands under each of its keys, and nothing else in the
index moves. -/
theorem find_place (store : Store) (id : EntityId) (draft : Draft) (key : IndexKey) :
    (store.place id draft).index.find key =
      if key ∈ store.indexKeys ⟨id, draft.entityType, draft.attributes⟩ then
        (store.index.find key).insert id
      else store.index.find key :=
  find_insertKeys _ _ _ _

/-- Create an entity under a fresh identifier. -/
def create (store : Store) (allocators : Allocators) (entityType : String)
    (supplied : List (String × Value)) : Except Error (EntityId × Store × Allocators) := do
  let draft ← store.draft entityType supplied
  let (id, allocators) := allocators.allocate store.allocator
  return (id, store.place id draft, allocators)

/-- Create an entity under a given identifier, which must not be live.  The
allocator takes no notice of it. -/
def insert (store : Store) (id : EntityId) (entityType : String)
    (supplied : List (String × Value)) : Except Error Store :=
  if store.contains id then
    .error (ErrorKind.constraintViolation (.alreadyPresent id))
  else
    (store.draft entityType supplied).map (store.place id)

end Store

end EntityBase
