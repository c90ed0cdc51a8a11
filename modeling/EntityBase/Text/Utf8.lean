namespace EntityBase

/-!
# UTF-8

Strings travel as bytes.  Every string has one encoding, and a list of bytes
that is not an encoding of anything is refused when read.
-/

namespace Text

def utf8 (text : String) : List UInt8 :=
  text.toUTF8.data.toList

/-- The string with the given bytes, if there is one. -/
def ofUtf8? (bytes : List UInt8) : Option String :=
  String.fromUTF8? ⟨bytes.toArray⟩

theorem ofUtf8?_utf8 (text : String) : ofUtf8? (utf8 text) = some text := by
  rw [ofUtf8?, utf8, String.toUTF8_eq_toByteArray, Array.toArray_toList, String.fromUTF8?,
    dif_pos text.isValidUTF8]
  rfl

end Text

end EntityBase
