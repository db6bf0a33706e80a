import Federation.Json.Document
import Federation.Text.Bytes

/-!
# JSON texts as bytes

The marks, words and numbers of a JSON text are in ASCII, so a text can be cut into tokens before its
bytes are made characters.  What is left to decode are the strings.  A string that is not in UTF-8
keeps its bytes: it has no text, but a reader that does not look at it can read the rest.
-/

namespace Federation.Json

/-- What some bytes of a string say: their characters, or the bytes themselves if they are none. -/
def piecesOfBytes (bytes : List UInt8) : Literal :=
  match Text.ofBytes? bytes with
  | some text => text.toList.map .character
  | none => bytes.map .byte

/-- A literal whose characters stand for single bytes, with the characters that these encode.  The
bytes behind the last escape are given with the last one first. -/
def Literal.decoded (bytes : List UInt8) : Literal → Literal
  | [] => piecesOfBytes bytes.reverse
  | .character c :: rest => decoded (UInt8.ofNat c.toNat :: bytes) rest
  | piece :: rest => piecesOfBytes bytes.reverse ++ piece :: decoded [] rest

/-- A token whose characters stand for single bytes, with the characters that these encode. -/
def Token.decoded : Token → Token
  | .string literal => .string (literal.decoded [])
  | token => token

/-- The document that bytes hold. -/
def Document.ofBytes? (bytes : List UInt8) : Option Document := do
  let tokens ← tokens? (bytes.map fun byte => Char.ofNat byte.toNat)
  Document.ofTokens? (tokens.map Token.decoded)

end Federation.Json
