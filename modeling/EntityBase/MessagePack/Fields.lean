import EntityBase.MessagePack.Head

namespace EntityBase

/-!
# Reading MessagePack items

A reader takes one item off the front of the bytes and returns the rest, or
fails.  What follows the item is not its concern.

A record of two fields is read from a map, where the fields may come in any
order and be named in several ways, or from an array of exactly the two.
Fields of other names are passed over, whatever well-formed item they hold.
Each field must come once.

Passing over an item is the only place where nesting can go deep, and it goes
no deeper than a fixed number of levels.  An array, a map and an extension are
one level each.
-/

namespace MessagePack

/-- Takes one item off the front of the bytes. -/
abbrev Reader (α : Type) := List UInt8 → Option (α × List UInt8)

/-- Read an item that is a head alone. -/
def readScalar {α : Type} (scalar? : Head → Option α) : Reader α := fun bytes => do
  let (head, rest) ← Head.read? bytes
  let scalar ← scalar? head
  return (scalar, rest)

/-- Apply a step to the bytes a number of times. -/
def repeated (step : List UInt8 → Option (List UInt8)) :
    (count : Nat) → List UInt8 → Option (List UInt8)
  | 0, bytes => some bytes
  | count + 1, bytes => (step bytes).bind (repeated step count)

/-- Pass over one item that is nested no deeper than `depth` levels. -/
def skip? : (depth : Nat) → List UInt8 → Option (List UInt8)
  | 0, bytes =>
      match Head.read? bytes with
      | none | some (.array _, _) | some (.map _, _) | some (.extension _ _, _) => none
      | some (_, rest) => some rest
  | depth + 1, bytes =>
      match Head.read? bytes with
      | none => none
      | some (.array length, rest) => repeated (skip? depth) length rest
      | some (.map length, rest) => repeated (skip? depth) (2 * length) rest
      | some (_, rest) => some rest

/-- How many levels may nest inside a field that is passed over. -/
def skippedDepth : Nat := 1022

def readMany {α : Type} (reader : Reader α) : (count : Nat) → Reader (List α)
  | 0, bytes => some ([], bytes)
  | count + 1, bytes => do
      let (item, rest) ← reader bytes
      let (items, rest) ← readMany reader count rest
      return (item :: items, rest)

variable {α β : Type}

/-- Read the entries of a map into two fields. -/
def readEntries (names : List String) (readFirst : Reader α) (readSecond : Reader β)
    (first : Option α) (second : Option β) :
    (count : Nat) → Reader (Option α × Option β)
  | 0, bytes => some ((first, second), bytes)
  | count + 1, bytes => do
      let (position, rest) ← readScalar (Head.position? names) bytes
      match position, first, second with
      | 0, none, _ =>
          let (content, rest) ← readFirst rest
          readEntries names readFirst readSecond (some content) second count rest
      | 1, _, none =>
          let (content, rest) ← readSecond rest
          readEntries names readFirst readSecond first (some content) count rest
      | 0, some _, _ | 1, _, some _ => none
      | _, _, _ =>
          let rest ← skip? skippedDepth rest
          readEntries names readFirst readSecond first second count rest

/-- Read a record of two fields. -/
def readPair (firstName secondName : String) (readFirst : Reader α) (readSecond : Reader β) :
    Reader (α × β) := fun bytes => do
  let (head, rest) ← Head.read? bytes
  match head with
  | .map length =>
      let ((first, second), rest) ←
        readEntries [firstName, secondName] readFirst readSecond none none length rest
      return ((← first, ← second), rest)
  | .array 2 =>
      let (first, rest) ← readFirst rest
      let (second, rest) ← readSecond rest
      return ((first, second), rest)
  | _ => none

end MessagePack

end EntityBase
