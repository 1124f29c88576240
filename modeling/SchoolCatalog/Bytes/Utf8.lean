/-!
# Texts as bytes

The UTF-8 form of a text, and the text that a string of bytes is the form of, if there is one.
-/

namespace SchoolCatalog

abbrev Bytes := List UInt8

namespace Bytes

/-- The UTF-8 form of a text. -/
def ofText (s : String) : Bytes := s.toUTF8.toList

/-- The text whose UTF-8 form the bytes are. -/
def toText? (bytes : Bytes) : Option String := String.fromUTF8? (ByteArray.mk bytes.toArray)

end Bytes
end SchoolCatalog
