/-!
Text as programs exchange it: one character for each byte, so that nothing is lost where the bytes
are not UTF-8.
-/

namespace StreamWidth.Shell

def charsOfBytes (bytes : ByteArray) : List Char :=
  bytes.toList.map fun byte => Char.ofNat byte.toNat

def bytesOfChars (chars : List Char) : ByteArray :=
  ⟨(chars.map fun c => UInt8.ofNat c.toNat).toArray⟩

def textOfBytes (bytes : ByteArray) : String :=
  String.ofList (charsOfBytes bytes)

def bytesOfText (text : String) : ByteArray :=
  bytesOfChars text.toList

def encode (text : String) : String :=
  textOfBytes text.toUTF8

/-- The text that the bytes stand for. Bytes that are not UTF-8 stay characters of their own. -/
def decode (text : String) : String :=
  (String.fromUTF8? (bytesOfText text)).getD text

end StreamWidth.Shell
