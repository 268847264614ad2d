import NoteMarkup.Unicode.RangeTable

/-!
# Percent encoding

Characters that cannot stand in a part of a URL are written as the bytes of their
UTF-8 form, each as `%` and two hexadecimal digits.

- `encode` encodes the characters of a class;
- `decode?` reads a text back, whose bytes must be UTF-8.
-/

namespace NoteMarkup.Url.Percent

/-! ## Encoding -/

/-- A byte as `%` and two hexadecimal digits in upper case. -/
def encodeByte (b : UInt8) : List Char :=
  ['%', (Nat.digitChar (b.toNat / 16)).toUpper, (Nat.digitChar (b.toNat % 16)).toUpper]

def encodeChar (c : Char) : List Char :=
  (String.utf8EncodeChar c).flatMap encodeByte

def encode (reserved : Char → Bool) (cs : List Char) : List Char :=
  cs.flatMap fun c => if reserved c then encodeChar c else [c]

/-- Controls and all characters beyond ASCII, which are encoded everywhere. -/
def isAlwaysReserved (c : Char) : Bool :=
  c.toNat < 0x20 || 0x7E < c.toNat

/-! ## Decoding -/

def hexByte? (b : UInt8) : Option UInt8 :=
  (Unicode.hexValue? (Char.ofNat b.toNat)).map UInt8.ofNat

/-- The bytes that encoded bytes stand for.  A `%` without two digits stands for itself. -/
def decodeBytes : List UInt8 → List UInt8
  | b :: high :: low :: bs =>
    match b == 0x25, hexByte? high, hexByte? low with
    | true, some high, some low => (16 * high + low) :: decodeBytes bs
    | _, _, _ => b :: decodeBytes (high :: low :: bs)
  | bs => bs

/-- The text that an encoded text stands for, if its bytes are UTF-8. -/
def decode? (cs : List Char) : Option (List Char) :=
  let bytes := decodeBytes (String.ofList cs).toUTF8.toList
  (String.fromUTF8? ⟨bytes.toArray⟩).map String.toList

end NoteMarkup.Url.Percent
