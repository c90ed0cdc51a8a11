import EntityBase.Value
import Std.Data.ExtTreeMap
import Std.Data.ExtTreeSet

namespace EntityBase

/-!
# The value index

One table serves every indexed attribute.  A key names a type, a field and a
value; under it stand the entities that hold the value there.  References
need no table of their own: the key for "who refers to this entity" has the
reference itself as its value.

A key is present exactly when some entity stands under it.  That is a field
of the structure, so a lookup for presence and a lookup for members cannot
disagree, and two indexes with the same members everywhere are equal.
-/

structure IndexKey where
  entityType : String
  field : String
  value : Value
deriving DecidableEq

namespace IndexKey

instance : Ord IndexKey :=
  ⟨compareLex (compareOn entityType) (compareLex (compareOn field) (compareOn value))⟩

instance : Std.TransOrd IndexKey :=
  inferInstanceAs (Std.TransCmp
    (compareLex (compareOn entityType) (compareLex (compareOn field) (compareOn value))))

instance : Std.LawfulEqOrd IndexKey where
  eq_of_compare {first second} same := by
    rcases compareLex_eq_eq.1 same with ⟨types, rest⟩
    rcases compareLex_eq_eq.1 rest with ⟨fields, values⟩
    cases first
    cases second
    congr 1
    · exact Std.LawfulEqOrd.eq_of_compare types
    · exact Std.LawfulEqOrd.eq_of_compare fields
    · exact Std.LawfulEqOrd.eq_of_compare values

end IndexKey

/-- A finite set of entities, listed in the order of their identifiers. -/
abbrev EntitySet := Std.ExtTreeSet EntityId

theorem EntitySet.size_erase_lt {members : EntitySet} {id : EntityId} (member : id ∈ members) :
    (members.erase id).size < members.size := by
  have occupied : members.size ≠ 0 := by
    intro vacant
    rw [Std.ExtTreeSet.eq_empty_iff_size_eq_zero.2 vacant] at member
    exact Std.ExtTreeSet.not_mem_empty member
  rw [Std.ExtTreeSet.size_erase, if_pos (Std.ExtTreeSet.mem_iff_contains.1 member)]
  omega

@[simp]
theorem EntitySet.insert_insert (members : EntitySet) (id : EntityId) :
    (members.insert id).insert id = members.insert id := by
  apply Std.ExtTreeSet.ext_mem
  simp [Std.ExtTreeSet.mem_insert]

@[simp]
theorem EntitySet.erase_erase (members : EntitySet) (id : EntityId) :
    (members.erase id).erase id = members.erase id := by
  apply Std.ExtTreeSet.ext_mem
  simp [Std.ExtTreeSet.mem_erase]

/-- For each key, the entities that hold its value. -/
structure Index where
  entries : Std.ExtTreeMap IndexKey EntitySet
  /-- No key is kept for an empty set. -/
  inhabited : ∀ (key : IndexKey) (members : EntitySet),
    entries[key]? = some members → members ≠ ∅

namespace Index

theorem ext {first second : Index} (same : first.entries = second.entries) : first = second := by
  cases first
  cases second
  congr

instance : DecidableEq Index := fun first second =>
  decidable_of_iff (first.entries = second.entries) ⟨ext, congrArg entries⟩

def empty : Index :=
  ⟨∅, by simp⟩

instance : EmptyCollection Index :=
  ⟨empty⟩

/-- The set without its empty form: what an entry may hold. -/
private def kept (members : EntitySet) : Option EntitySet :=
  if members = ∅ then none else some members

def insert (index : Index) (key : IndexKey) (id : EntityId) : Index where
  entries := index.entries.alter key fun present => some ((present.getD ∅).insert id)
  inhabited := by
    intro other members found
    rw [Std.ExtTreeMap.getElem?_alter] at found
    split at found
    · cases found
      exact Std.ExtTreeSet.insert_ne_empty
    · exact index.inhabited other members found

/-- Take an entity away from a key, and the key with it when no entity is
left. -/
def erase (index : Index) (key : IndexKey) (id : EntityId) : Index where
  entries := index.entries.alter key fun present =>
    present.bind fun members => kept (members.erase id)
  inhabited := by
    intro other members found
    rw [Std.ExtTreeMap.getElem?_alter] at found
    split at found
    · rcases Option.bind_eq_some_iff.1 found with ⟨before, _, remaining⟩
      unfold kept at remaining
      split at remaining
      · cases remaining
      · cases remaining
        assumption
    · exact index.inhabited other members found

def find (index : Index) (key : IndexKey) : EntitySet :=
  (index.entries[key]?).getD ∅

def contains (index : Index) (key : IndexKey) : Bool :=
  index.entries.contains key

def size (index : Index) : Nat :=
  index.entries.size

def isEmpty (index : Index) : Bool :=
  index.entries.isEmpty

/-- Every entity that stands under some key. -/
def members (index : Index) : EntitySet :=
  index.entries.foldl (fun all _ members => all ∪ members) ∅

/-! ## What a lookup sees

Everything there is to say about an index can be said through `find`.
-/

/-- A key is present exactly when its lookup is not empty, which is what the
proof field is for. -/
theorem contains_eq_true_iff (index : Index) (key : IndexKey) :
    index.contains key = true ↔ index.find key ≠ ∅ := by
  rw [contains, Std.ExtTreeMap.contains_eq_isSome_getElem?, find]
  cases found : index.entries[key]? with
  | none => simp
  | some members => simpa using index.inhabited key members found

@[simp]
theorem find_empty (key : IndexKey) : empty.find key = ∅ := by
  simp [find, empty]

theorem find_insert (index : Index) (key other : IndexKey) (id : EntityId) :
    (index.insert key id).find other =
      if key = other then (index.find key).insert id else index.find other := by
  rw [find, insert, Std.ExtTreeMap.getElem?_alter]
  by_cases same : key = other
  · simp [same, find]
  · simp [same, find]

private theorem getD_kept (members : EntitySet) : (kept members).getD ∅ = members := by
  unfold kept
  split
  · simp_all
  · rfl

theorem find_erase (index : Index) (key other : IndexKey) (id : EntityId) :
    (index.erase key id).find other =
      if key = other then (index.find key).erase id else index.find other := by
  rw [find, erase, Std.ExtTreeMap.getElem?_alter]
  by_cases same : key = other
  · cases found : index.entries[other]? with
    | none => simp [same, find, found]
    | some members => simp [same, find, found, getD_kept]
  · simp [same, find]

private theorem mem_union_of_entries {entries : List (IndexKey × EntitySet)} {id : EntityId}
    {all : EntitySet} :
    id ∈ entries.foldl (fun all entry => all ∪ entry.2) all ↔
      id ∈ all ∨ ∃ entry ∈ entries, id ∈ entry.2 := by
  induction entries generalizing all with
  | nil => simp
  | cons entry rest ih => simp [ih, or_assoc]

/-- The members of an index are those of its lookups. -/
theorem mem_members_iff {index : Index} {id : EntityId} :
    id ∈ index.members ↔ ∃ key, id ∈ index.find key := by
  rw [members, Std.ExtTreeMap.foldl_eq_foldl_toList, mem_union_of_entries]
  constructor
  · rintro (absent | ⟨⟨key, members⟩, listed, member⟩)
    · exact absurd absent Std.ExtTreeSet.not_mem_empty
    · have found := Std.ExtTreeMap.mem_toList_iff_getElem?_eq_some.1 listed
      exact ⟨key, by simpa [find, found] using member⟩
  · rintro ⟨key, member⟩
    cases found : index.entries[key]? with
    | none => simp [find, found] at member
    | some members =>
        right
        refine ⟨(key, members), Std.ExtTreeMap.mem_toList_iff_getElem?_eq_some.2 found, ?_⟩
        simpa [find, found] using member

/-- Two indexes that answer every lookup alike are the same. -/
theorem ext_find {first second : Index} (same : ∀ key, first.find key = second.find key) :
    first = second := by
  apply ext
  apply Std.ExtTreeMap.ext_getElem?
  intro key
  have members := same key
  unfold find at members
  cases left : first.entries[key]? with
  | none =>
      cases right : second.entries[key]? with
      | none => rfl
      | some found =>
          rw [left, right] at members
          exact absurd members.symm (second.inhabited key found right)
  | some found =>
      cases right : second.entries[key]? with
      | none =>
          rw [left, right] at members
          exact absurd members (first.inhabited key found left)
      | some other =>
          rw [left, right] at members
          exact congrArg some members

end Index

end EntityBase
