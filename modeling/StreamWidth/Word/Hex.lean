import StreamWidth.Text.Blank
import StreamWidth.Text.Digits
import StreamWidth.Word

/-!
Words in hexadecimal. A word is written with all the digits of its width; it is read from any number
of digits whose value fits.
-/

namespace StreamWidth.Word

def hexDigitCount (width : Nat) : Nat :=
  (width + 3) / 4

def hexDigits (word : Word) : List Char :=
  (List.range (hexDigitCount word.width)).reverse.map fun index =>
    Nat.digitChar ((word.value >>> (4 * index)) % 16)

def hexText (word : Word) : String :=
  String.ofList ('0' :: 'x' :: word.hexDigits)

def describe (word : Word) : String :=
  "StreamWord<" ++ toString word.width ++ ">(" ++ word.hexText ++ ")"

def withoutHexMark : List Char → List Char
  | '0' :: 'x' :: digits => digits
  | '0' :: 'X' :: digits => digits
  | digits => digits

theorem lt_of_shiftRight_eq_zero {value width : Nat} (empty : value >>> width = 0) :
    value < 2 ^ width := by
  rw [Nat.shiftRight_eq_div_pow] at empty
  exact (Nat.div_eq_zero_iff_lt (Nat.two_pow_pos width)).1 empty

def ofHex? (width : Nat) (text : List Char) : Option Word :=
  match Text.number? 16 (withoutHexMark (Text.trimChars text)) with
  | none => none
  | some value =>
      if fits : value >>> width = 0 then some ⟨width, value, lt_of_shiftRight_eq_zero fits⟩
      else none

end StreamWidth.Word
