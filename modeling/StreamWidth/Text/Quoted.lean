import StreamWidth.Text.Unprintable

/-!
Quoted text in messages: every character is shown, and none can be mistaken for another.
-/

namespace StreamWidth.Text

/-- The form of one character inside double quotes. Characters without a mark of their own stand as
their code point in hexadecimal. -/
def quoteChar (c : Char) : List Char :=
  if c = '"' then ['\\', '"']
  else if c = '\\' then ['\\', '\\']
  else if c = '\n' then ['\\', 'n']
  else if c = '\r' then ['\\', 'r']
  else if c = '\t' then ['\\', 't']
  else if c = '\x00' then ['\\', '0']
  else if isUnprintable c then
    ['\\', 'u', '\x7b'] ++ Nat.toDigits 16 c.toNat ++ ['\x7d']
  else [c]

def quoted (text : String) : String :=
  String.ofList ('"' :: text.toList.flatMap quoteChar ++ ['"'])

end StreamWidth.Text
