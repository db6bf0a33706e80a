import Federation.Text.Bytes

/-!
# Bytes as URL-safe text

Three bytes are written as four symbols of an alphabet that needs no escaping in an address.  Nothing
is filled up at the end, and the bits of the last symbol that belong to no byte are zero, so a list of
bytes has one written form.

**Reading.**  `Base64Url.decode` refuses everything else.  Of several defects it reports one: a last
symbol that could not stand there in a text of this length, then the first symbol outside the
alphabet, then the length, then the unused bits.  Readers of keys ask for the length before they look
at the symbols in between; this is the parameter `lengthFirst`.
-/

namespace Federation.Base64Url

/-- The symbol of a number below 64. -/
def symbol (n : Nat) : Char :=
  if n < 26 then Char.ofNat (65 + n)
  else if n < 52 then Char.ofNat (71 + n)
  else if n < 62 then Char.ofNat (n - 4)
  else if n = 62 then '-'
  else '_'

/-- The number of a symbol, given as a byte. -/
def value? (b : UInt8) : Option Nat :=
  let n := b.toNat
  if 65 ≤ n ∧ n ≤ 90 then some (n - 65)
  else if 97 ≤ n ∧ n ≤ 122 then some (n - 71)
  else if 48 ≤ n ∧ n ≤ 57 then some (n + 4)
  else if n = 45 then some 62
  else if n = 95 then some 63
  else none

/-- The symbols of bytes. -/
def symbols : List UInt8 → List Char
  | [] => []
  | [a] => [symbol (a.toNat / 4), symbol (a.toNat % 4 * 16)]
  | [a, b] =>
    [symbol (a.toNat / 4), symbol (a.toNat % 4 * 16 + b.toNat / 16), symbol (b.toNat % 16 * 4)]
  | a :: b :: c :: rest =>
    symbol (a.toNat / 4) :: symbol (a.toNat % 4 * 16 + b.toNat / 16) ::
      symbol (b.toNat % 16 * 4 + c.toNat / 64) :: symbol (c.toNat % 64) :: symbols rest

/-- The written form of bytes. -/
def encode (bs : List UInt8) : String :=
  String.ofList (symbols bs)

/-- What is wrong with a text. -/
inductive Defect where
  /-- A byte that is no symbol. -/
  | notSymbol (byte : UInt8) (offset : Nat)
  /-- No bytes have a form of this length. -/
  | length (count : Nat)
  /-- The last symbol has bits that belong to no byte. -/
  | lastSymbol (byte : UInt8) (offset : Nat)
  /-- The text is filled up. -/
  | padding
deriving DecidableEq

/-- The defect in the words used for keys. -/
def Defect.keyMessage : Defect → String
  | .notSymbol byte offset => s!"Invalid byte {byte.toNat}, offset {offset}."
  | .length _ => "Encoded text cannot have a 6-bit remainder."
  | .lastSymbol byte offset => s!"Invalid last symbol {byte.toNat}, offset {offset}."
  | .padding => "Invalid padding"

/-- The defect in the words used for signed texts. -/
def Defect.tokenMessage : Defect → String
  | .notSymbol byte offset => s!"Invalid symbol {byte.toNat}, offset {offset}."
  | .length count => s!"Invalid input length: {count}"
  | .lastSymbol byte offset => s!"Invalid last symbol {byte.toNat}, offset {offset}."
  | .padding => "Invalid padding"

/-- The byte with which texts are filled up elsewhere. -/
def padByte : UInt8 := 0x3D

/-- The position of the first byte that is no symbol, with the byte and all after it. -/
def firstNonSymbol (offset : Nat) : List UInt8 → Option (Nat × UInt8 × List UInt8)
  | [] => none
  | b :: rest =>
    match value? b with
    | some _ => firstNonSymbol (offset + 1) rest
    | none => some (offset, b, rest)

/-- What the first byte outside the alphabet means: padding, if it could be that. -/
def nonSymbolDefect (offset : Nat) (byte : UInt8) (rest : List UInt8) : Defect :=
  if byte == padByte && 2 ≤ offset % 4 && rest.all (· == padByte) && offset % 4 + rest.length < 4 then
    .padding
  else .notSymbol byte offset

/-- The bytes of symbol values. -/
def bytesOfValues : List Nat → List UInt8
  | a :: b :: c :: d :: rest =>
    UInt8.ofNat (a * 4 + b / 16) :: UInt8.ofNat (b % 16 * 16 + c / 4) :: UInt8.ofNat (c % 4 * 64 + d) ::
      bytesOfValues rest
  | [a, b, c] => [UInt8.ofNat (a * 4 + b / 16), UInt8.ofNat (b % 16 * 16 + c / 4)]
  | [a, b] => [UInt8.ofNat (a * 4 + b / 16)]
  | _ => []

/-- Whether the bits of the last value that belong to no byte are zero. -/
def unusedBitsClear (values : List Nat) : Bool :=
  match values.length % 4, values.getLast? with
  | 2, some last => last % 16 == 0
  | 3, some last => last % 4 == 0
  | _, _ => true

/-- The bytes a text denotes, or what is wrong with it. -/
def decodeBytes (lengthFirst : Bool) (text : List UInt8) : Except Defect (List UInt8) :=
  let count := text.length
  let tooLong := count % 4 == 1
  match text.getLast? with
  | none => .ok []
  | some last =>
    if tooLong && (value? last).isNone && last != padByte then .error (.notSymbol last (count - 1))
    else if tooLong && lengthFirst then .error (.length count)
    else
      match firstNonSymbol 0 text with
      | some (offset, byte, rest) => .error (nonSymbolDefect offset byte rest)
      | none =>
        if tooLong then .error (.length count)
        else
          let values := text.filterMap value?
          if unusedBitsClear values then .ok (bytesOfValues values)
          else .error (.lastSymbol last (count - 1))

/-- The bytes a key is given as. -/
def decodeKey (text : String) : Except Defect (List UInt8) := decodeBytes true (Text.bytes text)

/-- The bytes of a part of a signed text. -/
def decodeToken (text : String) : Except Defect (List UInt8) := decodeBytes false (Text.bytes text)

end Federation.Base64Url
