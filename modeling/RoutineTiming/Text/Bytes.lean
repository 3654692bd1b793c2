/-!
# Texts of bytes

Where bytes are handled that need not be UTF-8, a text stands for the bytes whose numbers are the
code points of its characters, so that every list of bytes has a text and ASCII looks as usual.

## Main definitions

* `byteText`, `textBytes` : the text that stands for bytes, and the bytes that it stands for.
* `encodedText` : the text that stands for the UTF-8 bytes of a text.
-/

namespace RoutineTiming

/-- The text that stands for bytes. -/
def byteText (bytes : List UInt8) : String :=
  String.ofList (bytes.map fun b => Char.ofNat b.toNat)

/-- The bytes that a list of characters stands for. -/
def charBytes (text : List Char) : List UInt8 := text.map fun c => UInt8.ofNat c.toNat

/-- The bytes that a text stands for. -/
def textBytes (text : String) : List UInt8 := charBytes text.toList

/-- The text that stands for the UTF-8 bytes of a text. -/
def encodedText (text : String) : String := byteText text.toUTF8.toList

end RoutineTiming
