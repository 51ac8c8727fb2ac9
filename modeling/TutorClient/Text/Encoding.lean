import TutorClient.Text.Utf8
import TutorClient.Text.Utf16

/-!
# Text from Bytes

The text of bytes whose encoding is told by the byte order mark they start
with. Bytes without a mark are UTF-8. The mark is no part of the text, and a
second mark behind it is.

## Main definitions

* `Encoding`: How text is written as bytes.
* `Encoding.ofMark`: The encoding that bytes start with the mark of, and the bytes behind the mark.
* `decodeLenient`: The text of bytes.
-/

namespace TutorClient

namespace Text

/-- How text is written as bytes. -/
inductive Encoding where
  | utf8
  | utf16 (order : Utf16.ByteOrder)
  deriving DecidableEq, Repr

/-- The encoding that bytes start with the mark of, and the bytes behind the mark. -/
def Encoding.ofMark : List UInt8 → Encoding × List UInt8
  | 0xEF :: 0xBB :: 0xBF :: rest => (.utf8, rest)
  | 0xFF :: 0xFE :: rest => (.utf16 .littleEndian, rest)
  | 0xFE :: 0xFF :: rest => (.utf16 .bigEndian, rest)
  | bytes => (.utf8, bytes)

/-- The characters of bytes in an encoding. -/
def Encoding.decode : Encoding → List UInt8 → List Char
  | .utf8, bytes => Utf8.scan .between bytes
  | .utf16 order, bytes => Utf16.decode order bytes

/-- The text of bytes, as the mark at their start tells them. -/
def decodeLenient (bytes : ByteArray) : String :=
  let (encoding, rest) := Encoding.ofMark bytes.toList
  String.ofList (encoding.decode rest)

end Text

end TutorClient
