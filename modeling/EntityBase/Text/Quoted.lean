import EntityBase.Text.Combining
import EntityBase.Text.Printable

namespace EntityBase

/-!
# Quoted text

A string is inspected between double quotes.  The quote, the backslash, the
usual three controls and the null character have two-character escapes.
Every other character that is not printable, and every combining character,
is written by its code point in hexadecimal, so a quoted text never holds a
character that could be overlooked or that could attach to its neighbour.
An apostrophe needs no escape.
-/

namespace Text

def escape (character : Char) : List Char :=
  match character with
  | '\x00' => ['\\', '0']
  | '\t' => ['\\', 't']
  | '\r' => ['\\', 'r']
  | '\n' => ['\\', 'n']
  | '\"' => ['\\', '\"']
  | '\\' => ['\\', '\\']
  | character =>
      if isCombining character ∨ ¬ isPrintable character then
        ['\\', 'u', '\x7b'] ++ Nat.toDigits 16 character.toNat ++ ['\x7d']
      else [character]

/-- A string between double quotes, with escapes. -/
def quoted (text : String) : String :=
  String.ofList ('\"' :: (text.toList.flatMap escape ++ ['\"']))

/-- Items between brackets of the caller's choice, separated by commas. -/
def listed (opening : String) (items : List String) (closing : String) : String :=
  opening ++ String.intercalate ", " items ++ closing

end Text

end EntityBase
