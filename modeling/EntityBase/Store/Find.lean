import EntityBase.Store

namespace EntityBase

/-!
# Finding entities

A lookup names an indexed attribute and a value, and answers with the
entities that hold it.  The answer belongs to the snapshot it came from and
remembers the question, so that a reader who expects one entity at most can
be told what was ambiguous.
-/

/-- The entities that hold a value, with the question they answer. -/
structure Matches where
  entityType : String
  field : String
  value : Value
  ids : EntitySet

namespace Matches

/-- The only match, or none.  More than one contradicts the reader. -/
def single (found : Matches) : Except Error (Option EntityId) :=
  match found.ids.toList with
  | [] => .ok none
  | [id] => .ok (some id)
  | ids => .error (Error.atAttribute
      (.invariantViolation (.manyMatches found.entityType found.field found.value ids.length))
      found.entityType found.field)

def inspect (found : Matches) : String :=
  "Matches \x7b entity_type: " ++ Text.quoted found.entityType ++ ", attribute: " ++
    Text.quoted found.field ++ ", value: " ++ found.value.inspect ++ ", ids: " ++
    Text.listed "\x7b" (found.ids.toList.map EntityId.inspect) "\x7d" ++ " \x7d"

end Matches

namespace Store

/-- The entities of a type that hold a value in an indexed attribute. -/
def find (store : Store) (entityType field : String) (value : Value) : Except Error Matches := do
  let type ← store.declaration entityType
  let declared ← attributeOf type field
  if declared.isIndexed then
    .ok ⟨entityType, field, value, store.index.find ⟨entityType, field, value⟩⟩
  else
    .error (ErrorKind.notIndexed entityType field)

def single (store : Store) (entityType field : String) (value : Value) :
    Except Error (Option EntityId) := do
  let found ← store.find entityType field value
  found.single

end Store

end EntityBase
