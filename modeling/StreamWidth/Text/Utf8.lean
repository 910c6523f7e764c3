/-!
Text in bytes that need not be UTF-8. Each longest run of bytes that begins a character but does not
finish it stands for one replacement character.
-/

namespace StreamWidth.Text

/-- A character of which some bytes are still to come; the next byte lies in a given range. -/
structure PartialChar where
  missing : Nat
  value : Nat
  low : Nat
  high : Nat

inductive FirstByte
  | complete (c : Char)
  | opening (char : PartialChar)
  | stray

def replacement : Char :=
  '\uFFFD'

def firstByte (byte : Nat) : FirstByte :=
  if byte < 0x80 then .complete (Char.ofNat byte)
  else if 0xc2 ≤ byte ∧ byte ≤ 0xdf then .opening ⟨1, byte % 0x20, 0x80, 0xbf⟩
  else if 0xe0 ≤ byte ∧ byte ≤ 0xef then
    .opening ⟨2, byte % 0x10, if byte = 0xe0 then 0xa0 else 0x80, if byte = 0xed then 0x9f else 0xbf⟩
  else if 0xf0 ≤ byte ∧ byte ≤ 0xf4 then
    .opening ⟨3, byte % 0x08, if byte = 0xf0 then 0x90 else 0x80, if byte = 0xf4 then 0x8f else 0xbf⟩
  else .stray

abbrev DecodeState :=
  List Char × Option PartialChar

def decodeFirst (done : List Char) (byte : Nat) : DecodeState :=
  match firstByte byte with
  | .complete c => (c :: done, none)
  | .opening char => (done, some char)
  | .stray => (replacement :: done, none)

def decodeByte (state : DecodeState) (byte : UInt8) : DecodeState :=
  match state with
  | (done, none) => decodeFirst done byte.toNat
  | (done, some char) =>
      if char.low ≤ byte.toNat ∧ byte.toNat ≤ char.high then
        let value := char.value * 0x40 + byte.toNat % 0x40
        if char.missing = 1 then (Char.ofNat value :: done, none)
        else (done, some ⟨char.missing - 1, value, 0x80, 0xbf⟩)
      else decodeFirst (replacement :: done) byte.toNat

def decodeLossy (bytes : List UInt8) : List Char :=
  match bytes.foldl decodeByte ([], none) with
  | (done, none) => done.reverse
  | (done, some _) => (replacement :: done).reverse

end StreamWidth.Text
