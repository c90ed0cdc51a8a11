import EntityBase.MessagePack.Fields

namespace EntityBase

/-!
# Items read back

A reader reads an item off its bytes if it gives back the item and leaves what
follows them alone, whatever follows.  This is the form in which reading back
is carried from the parts of an item to the item: the rest of one part begins
with the next.
-/

namespace Text

theorem utf8_injective {first second : String} (same : utf8 first = utf8 second) :
    first = second := by
  have read := ofUtf8?_utf8 first
  rw [same, ofUtf8?_utf8] at read
  exact (Option.some.inj read).symm

end Text

namespace MessagePack

variable {α β : Type} {bytes others : List UInt8} {item : α} {other : β}

/-- The reader takes the item off its bytes, and nothing of what follows them. -/
def Reads (reader : Reader α) (bytes : List UInt8) (item : α) : Prop :=
  ∀ rest, reader (bytes ++ rest) = some (item, rest)

theorem Reads.scalar {scalar? : Head → Option α} {head : Head} (fits : head.Fits)
    (known : scalar? head = some item) : Reads (readScalar scalar?) head.write item := by
  intro rest
  rw [readScalar, Head.read?_write fits]
  change (do let scalar ← scalar? head; return (scalar, rest)) = _
  rw [known]
  rfl

theorem Reads.text {text : String} (fits : (Text.utf8 text).length < wordSize 4) :
    Reads (readScalar Head.text?) (writeText text) text :=
  Reads.scalar fits (Text.ofUtf8?_utf8 text)

theorem natural?_unsigned {limit number : Nat} (below : number < limit) :
    (Head.unsigned number).natural? limit = some number := by
  have fits : 0 ≤ (number : Int) ∧ (number : Int) < limit :=
    ⟨Int.natCast_nonneg number, Int.ofNat_lt.mpr below⟩
  rw [Head.natural?, Head.integer?, Option.bind_some, if_pos fits, Int.toNat_natCast]

/-- Items are read one after another. -/
theorem Reads.many {reader : Reader α} {write : α → List UInt8} {items : List α}
    (each : ∀ item ∈ items, Reads reader (write item) item) :
    Reads (readMany reader items.length) (items.flatMap write) items := by
  induction items with
  | nil => exact fun rest => rfl
  | cons first items ih =>
      intro rest
      have here := each first List.mem_cons_self
      have further := ih fun item member => each item (List.mem_cons_of_mem _ member)
      simp only [List.length_cons, List.flatMap_cons, List.append_assoc, readMany, here _, further _,
        Option.bind_eq_bind, Option.bind_some]
      rfl

/-! ## Records of two fields -/

section Pairs

variable {firstName secondName : String} {readFirst : Reader α} {readSecond : Reader β}

theorem position?_first (firstName secondName : String) :
    Head.position? [firstName, secondName] (.string (Text.utf8 firstName)) = some 0 := by
  rw [Head.position?, List.findIdx_cons, decide_eq_true rfl]
  rfl

theorem position?_second (distinct : firstName ≠ secondName) :
    Head.position? [firstName, secondName] (.string (Text.utf8 secondName)) = some 1 := by
  have apart : Text.utf8 firstName ≠ Text.utf8 secondName := fun same =>
    distinct (Text.utf8_injective same)
  rw [Head.position?, List.findIdx_cons, decide_eq_false apart, List.findIdx_cons,
    decide_eq_true rfl]
  rfl

/-- An entry of the first field's name fills that field. -/
theorem readEntries_first (fits : (Text.utf8 firstName).length < wordSize 4)
    (first : Reads readFirst bytes item) (second : Option β) (count : Nat) (rest : List UInt8) :
    readEntries [firstName, secondName] readFirst readSecond none second (count + 1)
        (writeText firstName ++ (bytes ++ rest)) =
      readEntries [firstName, secondName] readFirst readSecond (some item) second count rest := by
  have named : Reads (readScalar (Head.position? [firstName, secondName])) (writeText firstName) 0 :=
    Reads.scalar fits (position?_first firstName secondName)
  simp only [readEntries, named _, first _, Option.bind_eq_bind, Option.bind_some]

theorem readEntries_second (distinct : firstName ≠ secondName)
    (fits : (Text.utf8 secondName).length < wordSize 4) (second : Reads readSecond bytes other)
    (first : Option α) (count : Nat) (rest : List UInt8) :
    readEntries [firstName, secondName] readFirst readSecond first none (count + 1)
        (writeText secondName ++ (bytes ++ rest)) =
      readEntries [firstName, secondName] readFirst readSecond first (some other) count rest := by
  have named : Reads (readScalar (Head.position? [firstName, secondName])) (writeText secondName) 1 :=
    Reads.scalar fits (position?_second distinct)
  simp only [readEntries, named _, second _, Option.bind_eq_bind, Option.bind_some]

/-- A record of two fields is read from a map of both, the first before the
second. -/
theorem Reads.pair (distinct : firstName ≠ secondName)
    (firstFits : (Text.utf8 firstName).length < wordSize 4)
    (secondFits : (Text.utf8 secondName).length < wordSize 4)
    (first : Reads readFirst bytes item) (second : Reads readSecond others other) :
    Reads (readPair firstName secondName readFirst readSecond)
      ((Head.map 2).write ++ writeText firstName ++ bytes ++ writeText secondName ++ others)
      (item, other) := by
  intro rest
  have counted : (Head.map 2).Fits := (by decide : 2 < wordSize 4)
  have filled : readEntries [firstName, secondName] readFirst readSecond none none 2
      (writeText firstName ++ (bytes ++ (writeText secondName ++ (others ++ rest)))) =
      some ((some item, some other), rest) := by
    rw [readEntries_first firstFits first, readEntries_second distinct secondFits second, readEntries]
  simp only [List.append_assoc, readPair, Head.read?_write counted, filled, Option.bind_eq_bind,
    Option.bind_some]
  rfl

end Pairs

end MessagePack

end EntityBase
