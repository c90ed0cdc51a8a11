namespace EntityBase

/-!
# Reading JSON

JSON text is read from the front, item by item, and whatever a reader has no
use for is passed over.  What is passed over must still be well formed.

A string is first taken apart into pieces: characters that stand for
themselves, and numeric escapes that each give one 16-bit unit.  Only a reader
that wants the text puts the pieces together, and only then must the units
pair up; a string that is passed over may hold units that do not.

Repetitions are bounded by the length of the text, of which every item takes
at least one character.
-/

namespace Json

/-- Whether a character may stand between items. -/
def isSpace (character : Char) : Bool :=
  character = ' ' ∨ character = '\n' ∨ character = '\t' ∨ character = '\r'

def trimStart (text : List Char) : List Char :=
  text.dropWhile isSpace

/-- The text after an expected beginning. -/
def after? : (expected : List Char) → (text : List Char) → Option (List Char)
  | [], text => some text
  | _ :: _, [] => none
  | wanted :: expected, character :: text =>
      if wanted = character then after? expected text else none

/-! ## Strings -/

/-- A part of a string: a character, or a 16-bit unit given by its number. -/
inductive Piece where
  | character (value : Char)
  | unit (code : Nat)
deriving DecidableEq

def hexDigit? (character : Char) : Option Nat :=
  if '0' ≤ character ∧ character ≤ '9' then some (character.toNat - '0'.toNat)
  else if 'a' ≤ character ∧ character ≤ 'f' then some (character.toNat - 'a'.toNat + 10)
  else if 'A' ≤ character ∧ character ≤ 'F' then some (character.toNat - 'A'.toNat + 10)
  else none

def hexNumber? (digits : List Char) : Option Nat :=
  digits.foldlM (fun number digit => (hexDigit? digit).map (16 * number + ·)) 0

/-- The character that a one-letter escape stands for. -/
def escaped? : Char → Option Char
  | '\"' => some '\"'
  | '\\' => some '\\'
  | '/' => some '/'
  | 'b' => some '\x08'
  | 'f' => some '\x0c'
  | 'n' => some '\n'
  | 'r' => some '\r'
  | 't' => some '\t'
  | _ => none

/-- The pieces of a string whose opening quote has been read, and what
follows its closing quote. -/
def pieces? : List Char → Option (List Piece × List Char)
  | [] => none
  | '\"' :: rest => some ([], rest)
  | '\\' :: 'u' :: first :: second :: third :: fourth :: rest => do
      let code ← hexNumber? [first, second, third, fourth]
      let (pieces, rest) ← pieces? rest
      return (.unit code :: pieces, rest)
  | '\\' :: letter :: rest => do
      let character ← escaped? letter
      let (pieces, rest) ← pieces? rest
      return (.character character :: pieces, rest)
  | character :: rest => do
      if character.toNat < 0x20 ∨ character = '\\' then none
      else
        let (pieces, rest) ← pieces? rest
        return (.character character :: pieces, rest)

/-- The characters of a string.  A unit of the high surrogate range must be
followed by one of the low range, and the two make one character. -/
def characters? : List Piece → Option (List Char)
  | [] => some []
  | .character character :: rest => (characters? rest).map (character :: ·)
  | .unit high :: .unit low :: rest =>
      if 0xd800 ≤ high ∧ high < 0xdc00 ∧ 0xdc00 ≤ low ∧ low < 0xe000 then
        let code := 0x10000 + (high - 0xd800) * 0x400 + (low - 0xdc00)
        (characters? rest).map (Char.ofNat code :: ·)
      else if 0xd800 ≤ high ∧ high < 0xe000 then none
      else (characters? (.unit low :: rest)).map (Char.ofNat high :: ·)
  | .unit code :: rest =>
      if 0xd800 ≤ code ∧ code < 0xe000 then none
      else (characters? rest).map (Char.ofNat code :: ·)

/-! ## Numbers -/

def digits (text : List Char) : List Char × List Char :=
  (text.takeWhile Char.isDigit, text.dropWhile Char.isDigit)

def someDigits? (text : List Char) : Option (List Char × List Char) :=
  let (leading, rest) := digits text
  if leading = [] then none else some (leading, rest)

/-- The digits of an integer, which has no superfluous zero in front. -/
def integerDigits? (text : List Char) : Option (List Char × List Char) := do
  let (leading, rest) ← someDigits? text
  if leading.head? = some '0' ∧ leading.length ≠ 1 then none else return (leading, rest)

/-- A natural number written without sign, fraction and exponent. -/
def natural? (text : List Char) : Option (Nat × List Char) := do
  let (leading, rest) ← integerDigits? (trimStart text)
  if rest.head? ∈ [some '.', some 'e', some 'E'] then none
  else
    return (leading.foldl (fun number digit => 10 * number + (digit.toNat - '0'.toNat)) 0, rest)

/-- What follows the exponent of a number, if it has one. -/
def skipExponent? : List Char → Option (List Char)
  | 'e' :: sign :: rest | 'E' :: sign :: rest =>
      if sign = '+' ∨ sign = '-' then (someDigits? rest).map (·.2)
      else (someDigits? (sign :: rest)).map (·.2)
  | ['e'] | ['E'] => none
  | text => some text

/-- What follows the fraction of a number, if it has one. -/
def skipFraction? : List Char → Option (List Char)
  | '.' :: rest => (someDigits? rest).map (·.2)
  | text => some text

def skipNumber? (text : List Char) : Option (List Char) := do
  let unsigned := if text.head? = some '-' then text.drop 1 else text
  let (_, rest) ← integerDigits? unsigned
  skipExponent? (← skipFraction? rest)

def bool? (text : List Char) : Option (Bool × List Char) :=
  let text := trimStart text
  match after? "true".toList text, after? "false".toList text with
  | some rest, _ => some (true, rest)
  | _, some rest => some (false, rest)
  | none, none => none

/-! ## Arrays and objects -/

variable {σ : Type}

/-- Items separated by commas up to a closing bracket, each of which is read
into the state. -/
def items? (item? : σ → List Char → Option (σ × List Char)) (closing : Char) :
    (bound : Nat) → (state : σ) → List Char → Option (σ × List Char)
  | 0, _, _ => none
  | bound + 1, state, text => do
      let (state, rest) ← item? state text
      match trimStart rest with
      | [] => none
      | character :: rest =>
          if character = ',' then items? item? closing bound state rest
          else if character = closing then return (state, rest)
          else none

/-- The items after an opening bracket, of which there may be none. -/
def sequence? (item? : σ → List Char → Option (σ × List Char)) (closing : Char) (state : σ)
    (text : List Char) : Option (σ × List Char) :=
  match trimStart text with
  | [] => none
  | character :: rest =>
      if character = closing then some (state, rest)
      else items? item? closing text.length state (character :: rest)

/-- One member of an object: a key, a colon, and a value for which the key
chooses the reader. -/
def member? (value? : σ → List Piece → List Char → Option (σ × List Char)) (state : σ)
    (text : List Char) : Option (σ × List Char) := do
  let (key, rest) ← pieces? (← after? ['\"'] (trimStart text))
  value? state key (← after? [':'] (trimStart rest))

/-- What follows one value, in which arrays and objects nest no deeper than
`bound`. -/
def skipValue? : (bound : Nat) → List Char → Option (List Char)
  | 0, _ => none
  | bound + 1, text =>
      match trimStart text with
      | [] => none
      | '[' :: rest =>
          (sequence? (fun _ text => (skipValue? bound text).map ((), ·)) ']' () rest).map (·.2)
      | '\x7b' :: rest =>
          (sequence? (member? fun _ _ text => (skipValue? bound text).map ((), ·)) '\x7d' ()
            rest).map (·.2)
      | '\"' :: rest => (pieces? rest).map (·.2)
      | 'n' :: rest => after? "ull".toList rest
      | 't' :: rest => after? "rue".toList rest
      | 'f' :: rest => after? "alse".toList rest
      | text => skipNumber? text

end Json

end EntityBase
