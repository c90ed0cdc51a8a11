import EntityBase.Binary64
import EntityBase.Text.Utf8

namespace EntityBase

/-!
# MessagePack heads

A MessagePack item begins with a head: a marker byte and the scalar that goes
with it.  For most items the head is all there is; an array or a map has its
number of parts in the head and the parts after it.

Numbers have two families of markers, unsigned and signed, in several widths.
Writing always picks the narrowest form, the unsigned family for everything
that is not negative.  Reading takes any width and remembers the family, since
a name may be given by a number of the unsigned family only.

An extension is a kind and bytes that only an application can interpret.
Nothing here is one, but an item that is passed over may be.  The one reserved
marker is not read.
-/

namespace MessagePack

/-- The marker of an item with its scalar. -/
inductive Head where
  | nil
  | bool (flag : Bool)
  | unsigned (number : Nat)
  | signed (number : Int)
  | float32 (bits : UInt32)
  | float64 (bits : UInt64)
  /-- The bytes of a string, which need not be valid UTF-8. -/
  | string (bytes : List UInt8)
  | binary (bytes : List UInt8)
  | array (length : Nat)
  /-- The number of entries, each of which is two items. -/
  | map (length : Nat)
  | extension (kind : UInt8) (bytes : List UInt8)
deriving DecidableEq

/-- How many words of `width` bytes there are. -/
def wordSize : (width : Nat) → Nat
  | 0 => 1
  | width + 1 => 256 * wordSize width

/-- The lowest `width` bytes of a number, the most significant first. -/
def bigEndian : (width : Nat) → (number : Nat) → List UInt8
  | 0, _ => []
  | width + 1, number => UInt8.ofNat (number / wordSize width) :: bigEndian width number

/-- The number with the given bytes, the most significant first. -/
def ofBigEndian (bytes : List UInt8) : Nat :=
  bytes.foldl (fun number byte => 256 * number + byte.toNat) 0

/-- The first `count` bytes and the rest, if there are so many. -/
def takeBytes? (count : Nat) (bytes : List UInt8) : Option (List UInt8 × List UInt8) :=
  let taken := bytes.take count
  if taken.length = count then some (taken, bytes.drop count) else none

/-- A number of `width` bytes and the rest. -/
def takeNumber? (width : Nat) (bytes : List UInt8) : Option (Nat × List UInt8) :=
  (takeBytes? width bytes).map fun (taken, rest) => (ofBigEndian taken, rest)

/-! ### Words read back -/

@[simp]
theorem length_bigEndian (width number : Nat) : (bigEndian width number).length = width := by
  induction width with
  | zero => rfl
  | succ width ih => simp [bigEndian, ih]

private theorem foldl_bigEndian (width number start : Nat) :
    (bigEndian width number).foldl (fun number byte => 256 * number + byte.toNat) start =
      start * wordSize width + number % wordSize width := by
  induction width generalizing start with
  | zero => simp [bigEndian, wordSize, Nat.mod_one]
  | succ width ih =>
      have low : number % (256 * wordSize width) =
          number / wordSize width % 256 * wordSize width + number % wordSize width := by
        rw [Nat.mul_comm 256, Nat.mod_mul, Nat.mul_comm (wordSize width)]
        omega
      simp only [bigEndian, List.foldl_cons, ih, wordSize, UInt8.toNat_ofNat', Nat.add_mul, low]
      grind

/-- A number that fits into a word is read back from it. -/
theorem ofBigEndian_bigEndian {width number : Nat} (fits : number < wordSize width) :
    ofBigEndian (bigEndian width number) = number := by
  rw [ofBigEndian, foldl_bigEndian, Nat.mod_eq_of_lt fits]
  omega

@[simp]
theorem takeBytes?_append (bytes rest : List UInt8) :
    takeBytes? bytes.length (bytes ++ rest) = some (bytes, rest) := by
  simp [takeBytes?]

/-- A word is read back and what follows it is left alone. -/
theorem takeNumber?_bigEndian {width number : Nat} (fits : number < wordSize width)
    (rest : List UInt8) :
    takeNumber? width (bigEndian width number ++ rest) = some (number, rest) := by
  have taken := takeBytes?_append (bigEndian width number) rest
  rw [length_bigEndian] at taken
  simp [takeNumber?, taken, ofBigEndian_bigEndian fits]

/-! ### What more bytes change -/

/-- What is taken off the front of the bytes is the same however many bytes
follow. -/
def Steady {α : Type} (take? : List UInt8 → Option (α × List UInt8)) : Prop :=
  ∀ (bytes more : List UInt8) (item : α) (rest : List UInt8),
    take? bytes = some (item, rest) → take? (bytes ++ more) = some (item, rest ++ more)

section Steadiness

variable {α β : Type} {take? : List UInt8 → Option (α × List UInt8)}

theorem steady_none : Steady fun _ : List UInt8 => (none : Option (α × List UInt8)) := by
  intro bytes more item rest taken
  cases taken

theorem steady_some (item : α) : Steady fun bytes => some (item, bytes) := by
  intro bytes more other rest taken
  cases taken
  rfl

/-- One item after another. -/
theorem Steady.bind (steady : Steady take?) {next? : α × List UInt8 → Option (β × List UInt8)}
    (each : ∀ item, Steady fun rest => next? (item, rest)) :
    Steady fun bytes => (take? bytes).bind next? := by
  intro bytes more other rest taken
  rcases Option.bind_eq_some_iff.mp taken with ⟨⟨item, between⟩, first, last⟩
  have again := steady bytes more item between first
  have further := each item between more other rest last
  exact Option.bind_eq_some_iff.mpr ⟨_, again, further⟩

theorem Steady.map (steady : Steady take?) (make : α → β) :
    Steady fun bytes => (take? bytes).map fun (item, rest) => (make item, rest) := by
  intro bytes more other rest taken
  rcases Option.map_eq_some_iff.mp taken with ⟨⟨item, between⟩, first, last⟩
  cases last
  exact Option.map_eq_some_iff.mpr ⟨_, steady bytes more item rest first, rfl⟩

theorem steady_takeBytes? (count : Nat) : Steady (takeBytes? count) := by
  intro bytes more taken rest there
  unfold takeBytes? at there ⊢
  by_cases enough : (bytes.take count).length = count
  · have within : count ≤ bytes.length := by
      rw [List.length_take] at enough
      omega
    rw [if_pos enough] at there
    cases there
    rw [List.take_append_of_le_length within, List.drop_append_of_le_length within, if_pos enough]
  · rw [if_neg enough] at there
    cases there

theorem steady_takeNumber? (width : Nat) : Steady (takeNumber? width) :=
  (steady_takeBytes? width).map ofBigEndian

end Steadiness

def signedWord (width number : Nat) : Int :=
  Int.bmod number (wordSize width)

namespace Head

/-- A marker followed by a word of the given width. -/
private def wide (marker : UInt8) (width number : Nat) : List UInt8 :=
  marker :: bigEndian width number

/-- The narrowest form for the length of a string, an array or a map.  A
length below `small` fits into the marker itself; not every kind of item has
a marker for a length of one byte. -/
private def writeLength (base : UInt8) (small : Nat) (byteMarker? : Option UInt8)
    (shortMarker longMarker : UInt8) (length : Nat) : List UInt8 :=
  if length < small then wide (base + UInt8.ofNat length) 0 0
  else
    match byteMarker? with
    | some byteMarker =>
        if length < wordSize 1 then wide byteMarker 1 length
        else if length < wordSize 2 then wide shortMarker 2 length
        else wide longMarker 4 length
    | none =>
        if length < wordSize 2 then wide shortMarker 2 length
        else wide longMarker 4 length

/-- The narrowest form of an extension.  Five lengths have markers of their
own. -/
private def writeExtension (kind : UInt8) (bytes : List UInt8) : List UInt8 :=
  let length := bytes.length
  let start :=
    match length with
    | 1 => [0xd4]
    | 2 => [0xd5]
    | 4 => [0xd6]
    | 8 => [0xd7]
    | 16 => [0xd8]
    | _ => writeLength 0 0 (some 0xc7) 0xc8 0xc9 length
  start ++ kind :: bytes

/-- The bytes of a head in its narrowest form. -/
def write : Head → List UInt8
  | .nil => [0xc0]
  | .bool flag => [if flag then 0xc3 else 0xc2]
  | .unsigned number =>
      if number < 128 then wide (UInt8.ofNat number) 0 0
      else if number < wordSize 1 then wide 0xcc 1 number
      else if number < wordSize 2 then wide 0xcd 2 number
      else if number < wordSize 4 then wide 0xce 4 number
      else wide 0xcf 8 number
  | .signed number =>
      if -32 ≤ number then wide (UInt8.ofInt number) 0 0
      else if -0x80 ≤ number then wide 0xd0 1 (number + wordSize 1).toNat
      else if -0x8000 ≤ number then wide 0xd1 2 (number + wordSize 2).toNat
      else if -0x80000000 ≤ number then wide 0xd2 4 (number + wordSize 4).toNat
      else wide 0xd3 8 (number + wordSize 8).toNat
  | .float32 bits => wide 0xca 4 bits.toNat
  | .float64 bits => wide 0xcb 8 bits.toNat
  | .string bytes => writeLength 0xa0 32 (some 0xd9) 0xda 0xdb bytes.length ++ bytes
  | .binary bytes => writeLength 0 0 (some 0xc4) 0xc5 0xc6 bytes.length ++ bytes
  | .array length => writeLength 0x90 16 none 0xdc 0xdd length
  | .map length => writeLength 0x80 16 none 0xde 0xdf length
  | .extension kind bytes => writeExtension kind bytes

/-- The head of an integer, in the family that its sign calls for. -/
def ofInt (number : Int) : Head :=
  if number < 0 then .signed number else .unsigned number.toNat

/-- A head made of a number of the given width, and the rest. -/
private def readWide (width : Nat) (make : Nat → Head) (bytes : List UInt8) :
    Option (Head × List UInt8) :=
  (takeNumber? width bytes).map fun (number, rest) => (make number, rest)

/-- A head made of bytes whose number comes first, and the rest. -/
private def readBytes (width : Nat) (make : List UInt8 → Head) (bytes : List UInt8) :
    Option (Head × List UInt8) :=
  (takeNumber? width bytes).bind fun (length, rest) =>
    (takeBytes? length rest).map fun (content, rest) => (make content, rest)

/-- The head of an extension with so many bytes after its kind, and the rest. -/
private def readExtension (length : Nat) : List UInt8 → Option (Head × List UInt8)
  | [] => none
  | kind :: rest =>
      (takeBytes? length rest).map fun (content, rest) => (.extension kind content, rest)

def read? : List UInt8 → Option (Head × List UInt8)
  | [] => none
  | marker :: rest =>
      let code := marker.toNat
      if code < 0x80 then some (.unsigned code, rest)
      else if code < 0x90 then some (.map (code - 0x80), rest)
      else if code < 0xa0 then some (.array (code - 0x90), rest)
      else if code < 0xc0 then
        (takeBytes? (code - 0xa0) rest).map fun (content, rest) => (.string content, rest)
      else if 0xe0 ≤ code then some (.signed (code - 256), rest)
      else
        match code with
        | 0xc0 => some (.nil, rest)
        | 0xc2 => some (.bool false, rest)
        | 0xc3 => some (.bool true, rest)
        | 0xc4 => readBytes 1 .binary rest
        | 0xc5 => readBytes 2 .binary rest
        | 0xc6 => readBytes 4 .binary rest
        | 0xc7 => (takeNumber? 1 rest).bind fun (length, rest) => readExtension length rest
        | 0xc8 => (takeNumber? 2 rest).bind fun (length, rest) => readExtension length rest
        | 0xc9 => (takeNumber? 4 rest).bind fun (length, rest) => readExtension length rest
        | 0xca => readWide 4 (fun number => .float32 (UInt32.ofNat number)) rest
        | 0xcb => readWide 8 (fun number => .float64 (UInt64.ofNat number)) rest
        | 0xcc => readWide 1 .unsigned rest
        | 0xcd => readWide 2 .unsigned rest
        | 0xce => readWide 4 .unsigned rest
        | 0xcf => readWide 8 .unsigned rest
        | 0xd0 => readWide 1 (fun number => .signed (signedWord 1 number)) rest
        | 0xd1 => readWide 2 (fun number => .signed (signedWord 2 number)) rest
        | 0xd2 => readWide 4 (fun number => .signed (signedWord 4 number)) rest
        | 0xd3 => readWide 8 (fun number => .signed (signedWord 8 number)) rest
        | 0xd4 => readExtension 1 rest
        | 0xd5 => readExtension 2 rest
        | 0xd6 => readExtension 4 rest
        | 0xd7 => readExtension 8 rest
        | 0xd8 => readExtension 16 rest
        | 0xd9 => readBytes 1 .string rest
        | 0xda => readBytes 2 .string rest
        | 0xdb => readBytes 4 .string rest
        | 0xdc => readWide 2 .array rest
        | 0xdd => readWide 4 .array rest
        | 0xde => readWide 2 .map rest
        | 0xdf => readWide 4 .map rest
        | _ => none

/-! ### Heads read back -/

private theorem readWide_bigEndian {width number : Nat} (fits : number < wordSize width)
    (make : Nat → Head) (rest : List UInt8) :
    readWide width make (bigEndian width number ++ rest) = some (make number, rest) := by
  rw [readWide, takeNumber?_bigEndian fits]
  rfl

private theorem readBytes_bigEndian {width : Nat} {bytes : List UInt8}
    (fits : bytes.length < wordSize width) (make : List UInt8 → Head) (rest : List UInt8) :
    readBytes width make (bigEndian width bytes.length ++ (bytes ++ rest)) =
      some (make bytes, rest) := by
  rw [readBytes, takeNumber?_bigEndian fits]
  change Option.map _ (takeBytes? _ _) = _
  rw [takeBytes?_append]
  rfl

private theorem readExtension_cons (kind : UInt8) (bytes rest : List UInt8) :
    readExtension bytes.length (kind :: (bytes ++ rest)) = some (.extension kind bytes, rest) := by
  rw [readExtension, takeBytes?_append]
  rfl

private theorem readExtension_bigEndian {width : Nat} (kind : UInt8) {bytes : List UInt8}
    (fits : bytes.length < wordSize width) (rest : List UInt8) :
    ((takeNumber? width (bigEndian width bytes.length ++ kind :: (bytes ++ rest))).bind
      fun (length, rest) => readExtension length rest) = some (.extension kind bytes, rest) := by
  rw [takeNumber?_bigEndian fits]
  exact readExtension_cons kind bytes rest

/-- A negative number is read back from its word of two's complement. -/
private theorem signedWord_toNat {width : Nat} {number : Int} (negative : number < 0)
    (fits : -(wordSize width : Int) ≤ 2 * number) :
    signedWord width (number + wordSize width).toNat = number := by
  have word : ((number + wordSize width).toNat : Int) = number + wordSize width :=
    Int.toNat_of_nonneg (by omega)
  rw [signedWord, word, Int.add_bmod_right, Int.bmod_eq_of_le_mul_two]
  · omega
  · omega

private theorem toNat_marker {base : UInt8} {length : Nat} (fits : base.toNat + length < 256) :
    (base + UInt8.ofNat length).toNat = base.toNat + length := by
  rw [UInt8.toNat_add, UInt8.toNat_ofNat', Nat.add_mod_mod, Nat.mod_eq_of_lt fits]

/-- Whether the number in a head, or the length that it gives, fits into the
widest form there is. -/
def Fits : Head → Prop
  | .unsigned number => number < wordSize 8
  | .signed number => number < 0 ∧ -(wordSize 8 : Int) ≤ 2 * number
  | .string bytes => bytes.length < wordSize 4
  | .binary bytes => bytes.length < wordSize 4
  | .array length => length < wordSize 4
  | .map length => length < wordSize 4
  | .extension _ bytes => bytes.length < wordSize 4
  | _ => True

private theorem read?_unsigned {number : Nat} (fits : number < wordSize 8) (rest : List UInt8) :
    read? ((Head.unsigned number).write ++ rest) = some (.unsigned number, rest) := by
  rw [write]
  repeat' split
  · have code : (UInt8.ofNat number).toNat = number := by
      rw [UInt8.toNat_ofNat', Nat.mod_eq_of_lt (by omega)]
    change read? (UInt8.ofNat number :: rest) = _
    simp [read?, code, ‹number < 128›]
  · exact readWide_bigEndian ‹number < wordSize 1› _ rest
  · exact readWide_bigEndian ‹number < wordSize 2› _ rest
  · exact readWide_bigEndian ‹number < wordSize 4› _ rest
  · exact readWide_bigEndian fits _ rest

private theorem read?_signed {number : Int} (negative : number < 0)
    (fits : -(wordSize 8 : Int) ≤ 2 * number) (rest : List UInt8) :
    read? ((Head.signed number).write ++ rest) = some (.signed number, rest) := by
  have word : ∀ width : Nat, -(wordSize width : Int) ≤ 2 * number →
      readWide width (fun number => .signed (signedWord width number))
        (bigEndian width (number + wordSize width).toNat ++ rest) = some (.signed number, rest) := by
    intro width enough
    rw [readWide_bigEndian (by omega), signedWord_toNat negative enough]
  rw [write]
  repeat' split
  · have code : (UInt8.ofInt number).toNat = (number + 256).toNat := by
      rw [UInt8.ofInt, UInt8.toNat_ofNat']
      omega
    change read? (UInt8.ofInt number :: rest) = _
    simp only [read?, code]
    rw [if_neg (by omega), if_neg (by omega), if_neg (by omega), if_neg (by omega),
      if_pos (by omega), Int.toNat_of_nonneg (by omega)]
    simp
  · exact word 1 (by simp [wordSize]; omega)
  · exact word 2 (by simp [wordSize]; omega)
  · exact word 4 (by simp [wordSize]; omega)
  · exact word 8 fits

private theorem read?_string {bytes : List UInt8} (fits : bytes.length < wordSize 4)
    (rest : List UInt8) :
    read? ((Head.string bytes).write ++ rest) = some (.string bytes, rest) := by
  rw [write, writeLength, List.append_assoc]
  repeat' split
  · have code : (0xa0 + UInt8.ofNat bytes.length).toNat = 0xa0 + bytes.length :=
      toNat_marker (by simp; omega)
    change read? ((0xa0 + UInt8.ofNat bytes.length) :: (bytes ++ rest)) = _
    simp only [read?, code]
    rw [if_neg (by omega), if_neg (by omega), if_neg (by omega), if_pos (by omega),
      Nat.add_sub_cancel_left, takeBytes?_append]
    rfl
  · exact readBytes_bigEndian ‹bytes.length < wordSize 1› _ rest
  · exact readBytes_bigEndian ‹bytes.length < wordSize 2› _ rest
  · exact readBytes_bigEndian fits _ rest

private theorem read?_binary {bytes : List UInt8} (fits : bytes.length < wordSize 4)
    (rest : List UInt8) :
    read? ((Head.binary bytes).write ++ rest) = some (.binary bytes, rest) := by
  rw [write, writeLength, List.append_assoc, if_neg (Nat.not_lt_zero _)]
  repeat' split
  · exact readBytes_bigEndian ‹bytes.length < wordSize 1› _ rest
  · exact readBytes_bigEndian ‹bytes.length < wordSize 2› _ rest
  · exact readBytes_bigEndian fits _ rest

private theorem read?_array {length : Nat} (fits : length < wordSize 4) (rest : List UInt8) :
    read? ((Head.array length).write ++ rest) = some (.array length, rest) := by
  rw [write, writeLength]
  repeat' split
  · have code : (0x90 + UInt8.ofNat length).toNat = 0x90 + length := toNat_marker (by simp; omega)
    change read? ((0x90 + UInt8.ofNat length) :: rest) = _
    simp only [read?, code]
    rw [if_neg (by omega), if_neg (by omega), if_pos (by omega), Nat.add_sub_cancel_left]
  · exact readWide_bigEndian ‹length < wordSize 2› _ rest
  · exact readWide_bigEndian fits _ rest

private theorem read?_map {length : Nat} (fits : length < wordSize 4) (rest : List UInt8) :
    read? ((Head.map length).write ++ rest) = some (.map length, rest) := by
  rw [write, writeLength]
  repeat' split
  · have code : (0x80 + UInt8.ofNat length).toNat = 0x80 + length := toNat_marker (by simp; omega)
    change read? ((0x80 + UInt8.ofNat length) :: rest) = _
    simp only [read?, code]
    rw [if_neg (by omega), if_pos (by omega), Nat.add_sub_cancel_left]
  · exact readWide_bigEndian ‹length < wordSize 2› _ rest
  · exact readWide_bigEndian fits _ rest

private theorem read?_extension {kind : UInt8} {bytes : List UInt8}
    (fits : bytes.length < wordSize 4) (rest : List UInt8) :
    read? ((Head.extension kind bytes).write ++ rest) = some (.extension kind bytes, rest) := by
  have sized : ∀ {length : Nat}, bytes.length = length →
      readExtension length (kind :: (bytes ++ rest)) = some (.extension kind bytes, rest) := by
    rintro _ rfl
    exact readExtension_cons kind bytes rest
  rw [write, writeExtension, List.append_assoc]
  split
  · exact sized ‹_›
  · exact sized ‹_›
  · exact sized ‹_›
  · exact sized ‹_›
  · exact sized ‹_›
  · rw [writeLength, if_neg (Nat.not_lt_zero _)]
    repeat' split
    · exact readExtension_bigEndian kind ‹bytes.length < wordSize 1› rest
    · exact readExtension_bigEndian kind ‹bytes.length < wordSize 2› rest
    · exact readExtension_bigEndian kind fits rest

/-- A head that fits is read back, and what follows it is left alone. -/
theorem read?_write {head : Head} (fits : head.Fits) (rest : List UInt8) :
    read? (head.write ++ rest) = some (head, rest) := by
  cases head with
  | nil => rfl
  | bool flag => cases flag <;> rfl
  | unsigned number => exact read?_unsigned fits rest
  | signed number => exact read?_signed fits.1 fits.2 rest
  | float32 bits =>
      have read := @readWide_bigEndian 4 _ bits.toNat_lt
        (fun number => .float32 (UInt32.ofNat number)) rest
      rwa [UInt32.ofNat_toNat] at read
  | float64 bits =>
      have read := @readWide_bigEndian 8 _ bits.toNat_lt
        (fun number => .float64 (UInt64.ofNat number)) rest
      rwa [UInt64.ofNat_toNat] at read
  | string bytes => exact read?_string fits rest
  | binary bytes => exact read?_binary fits rest
  | array length => exact read?_array fits rest
  | map length => exact read?_map fits rest
  | extension kind bytes => exact read?_extension fits rest

/-! ### Heads before more bytes -/

private theorem steady_readWide (width : Nat) (make : Nat → Head) : Steady (readWide width make) :=
  (steady_takeNumber? width).map make

private theorem steady_readBytes (width : Nat) (make : List UInt8 → Head) :
    Steady (readBytes width make) :=
  (steady_takeNumber? width).bind fun length => (steady_takeBytes? length).map make

private theorem steady_readExtension (length : Nat) : Steady (readExtension length) := by
  intro bytes more head rest taken
  cases bytes with
  | nil => cases taken
  | cons kind bytes => exact (steady_takeBytes? length).map (Head.extension kind) _ _ _ _ taken

private theorem steady_sized (width : Nat) :
    Steady fun bytes => (takeNumber? width bytes).bind fun (length, rest) =>
      readExtension length rest :=
  (steady_takeNumber? width).bind steady_readExtension

/-- A head is the same however many bytes follow. -/
theorem steady_read? : Steady read? := by
  intro bytes more head rest taken
  cases bytes with
  | nil => cases taken
  | cons marker bytes =>
      revert taken
      rw [List.cons_append]
      simp only [read?]
      -- From here on a marker is a number: first its ranges, then each by itself.
      generalize marker.toNat = code
      split
      · exact steady_some _ _ _ _ _
      split
      · exact steady_some _ _ _ _ _
      split
      · exact steady_some _ _ _ _ _
      split
      · exact (steady_takeBytes? _).map Head.string _ _ _ _
      split
      · exact steady_some _ _ _ _ _
      split
      any_goals exact steady_some _ _ _ _ _
      any_goals exact steady_readWide _ _ _ _ _ _
      any_goals exact steady_readBytes _ _ _ _ _ _
      any_goals exact steady_readExtension _ _ _ _ _
      any_goals exact steady_sized _ _ _ _ _
      exact steady_none bytes more head rest

/-! ## Scalars -/

/-- The integer of a head of either family. -/
def integer? : Head → Option Int
  | .unsigned number => some number
  | .signed number => some number
  | _ => none

/-- The natural number of a head, if it is below a limit. -/
def natural? (limit : Nat) (head : Head) : Option Nat :=
  head.integer?.bind fun number =>
    if 0 ≤ number ∧ number < limit then some number.toNat else none

def flag? : Head → Option Bool
  | .bool flag => some flag
  | _ => none

/-- The floating-point value of a head.  Integers are rounded to the nearest
value. -/
def float? : Head → Option Binary64
  | .float64 bits => some ⟨bits⟩
  | .float32 bits => some (.ofBinary32 bits)
  | head => head.integer?.map Binary64.ofInt

/-- The text of a head that holds valid UTF-8. -/
def text? : Head → Option String
  | .string bytes => Text.ofUtf8? bytes
  | .binary bytes => Text.ofUtf8? bytes
  | _ => none

def isNil (head : Head) : Bool :=
  head = .nil

/-- Where a head stands in a list of names, when it is a name itself or a
number of the unsigned family.  A name that is not in the list comes after
all of them. -/
def position? (names : List String) : Head → Option Nat
  | .unsigned number => some number
  | .string bytes => some (names.findIdx (Text.utf8 · = bytes))
  | .binary bytes => some (names.findIdx (Text.utf8 · = bytes))
  | _ => none

end Head

def writeText (text : String) : List UInt8 :=
  (Head.string (Text.utf8 text)).write

end MessagePack

end EntityBase
