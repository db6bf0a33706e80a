import Federation.Decimal.Binary64
import Federation.Json.Basic

/-!
# Words of a JSON text

The smallest parts of a JSON text, cut out one after the other by `Token.next?`.

**Literals as written.**  A number and a string are kept as they stand in the text, as `Numeral`
and `Literal`: whether a number is too large to have a value, or an escape names half of a
character, only matters to a reader that wants the value.  `Numeral.value?` and `Literal.text?`
give it.

**Termination.**  Every token takes at least one character (`Token.next?_length_lt`), which is why
cutting a whole text ends.
-/

namespace Federation.Json

/-! ### Numbers -/

/-- A number as it is written: digits before the point, after it, and the exponent. -/
structure Numeral where
  negative : Bool
  whole : List Char
  fraction : Option (List Char)
  exponent : Option (Bool × List Char)
deriving DecidableEq

/-- The natural number a list of decimal digits denotes. -/
def natOfDigits (digits : List Char) : Nat :=
  digits.foldl (fun value digit => value * 10 + (digit.toNat - 48)) 0

namespace Numeral

/-- The power of ten the exponent part denotes. -/
def power (n : Numeral) : Int :=
  match n.exponent with
  | none => 0
  | some (true, digits) => -(natOfDigits digits : Int)
  | some (false, digits) => natOfDigits digits

/-- The float nearest to the number as written, if it is not too large. -/
def float? (n : Numeral) : Option Number :=
  let fraction := n.fraction.getD []
  (Binary64.ofDecimal n.negative (natOfDigits (n.whole ++ fraction))
    (n.power - fraction.length)).map .float

/-- The number a numeral denotes.  Minus zero is a float because no integer is. -/
def value? (n : Numeral) : Option Number :=
  if n.fraction.isNone && n.exponent.isNone then
    let size := natOfDigits n.whole
    if n.negative then
      if size ≠ 0 ∧ size ≤ 0x8000000000000000 then some (.integer (-(size : Int))) else n.float?
    else if size < UInt64.size then some (.integer size)
    else n.float?
  else n.float?

end Numeral

/-- The digits at the front of a text, at least one of them, and what follows. -/
def digits? (cs : List Char) : Option (List Char × List Char) :=
  match cs.takeWhile Char.isDigit with
  | [] => none
  | d :: ds => some (d :: ds, cs.dropWhile Char.isDigit)

/-- The digits before the point: a zero stands alone. -/
def wholeDigits? : List Char → Option (List Char × List Char)
  | '0' :: rest => some (['0'], rest)
  | cs => digits? cs

/-- The digits after a point, if there is a point. -/
def fraction? : List Char → Option (Option (List Char) × List Char)
  | '.' :: rest => (digits? rest).map fun (ds, rest) => (some ds, rest)
  | cs => some (none, cs)

/-- The sign and digits of an exponent after its letter. -/
def signedDigits? : List Char → Option ((Bool × List Char) × List Char)
  | '+' :: rest => (digits? rest).map fun (ds, rest) => ((false, ds), rest)
  | '-' :: rest => (digits? rest).map fun (ds, rest) => ((true, ds), rest)
  | cs => (digits? cs).map fun (ds, rest) => ((false, ds), rest)

/-- The exponent, if there is one. -/
def exponent? : List Char → Option (Option (Bool × List Char) × List Char)
  | 'e' :: rest => (signedDigits? rest).map fun (e, rest) => (some e, rest)
  | 'E' :: rest => (signedDigits? rest).map fun (e, rest) => (some e, rest)
  | cs => some (none, cs)

/-- A number after its sign. -/
def unsigned? (negative : Bool) (cs : List Char) : Option (Numeral × List Char) := do
  let (whole, cs) ← wholeDigits? cs
  let (fraction, cs) ← fraction? cs
  let (exponent, cs) ← exponent? cs
  return (⟨negative, whole, fraction, exponent⟩, cs)

/-! ### Strings -/

/-- A part of a string literal. -/
inductive Piece where
  | character (value : Char)
  /-- A 16-bit unit written as an escape. -/
  | codeUnit (value : Nat)
  /-- A byte that belongs to no character. -/
  | byte (value : UInt8)
deriving DecidableEq

/-- A string as it is written. -/
abbrev Literal := List Piece

/-- Whether a 16-bit unit is the first half of a pair. -/
def isHighHalf (unit : Nat) : Bool := 0xD800 ≤ unit && unit < 0xDC00

/-- Whether a 16-bit unit is the second half of a pair. -/
def isLowHalf (unit : Nat) : Bool := 0xDC00 ≤ unit && unit < 0xE000

/-- The characters of a literal, unless half of a pair stands alone in it or a byte is none. -/
def Literal.characters? : Literal → Option (List Char)
  | [] => some []
  | .character c :: rest => (characters? rest).map (c :: ·)
  | .byte _ :: _ => none
  | .codeUnit unit :: rest =>
    if isHighHalf unit then
      match rest with
      | .codeUnit low :: rest =>
        if isLowHalf low then
          (characters? rest).map
            (Char.ofNat (0x10000 + (unit - 0xD800) * 0x400 + (low - 0xDC00)) :: ·)
        else none
      | _ => none
    else if isLowHalf unit then none
    else (characters? rest).map (Char.ofNat unit :: ·)

/-- The text of a literal, if all of it is characters. -/
def Literal.text? (literal : Literal) : Option String :=
  (Literal.characters? literal).map String.ofList

/-- The value of a hexadecimal digit of either case. -/
def hexDigit? (c : Char) : Option Nat :=
  if c.isDigit then some (c.toNat - 48)
  else if 'a' ≤ c ∧ c ≤ 'f' then some (c.toNat - 87)
  else if 'A' ≤ c ∧ c ≤ 'F' then some (c.toNat - 55)
  else none

/-- The 16-bit unit of four hexadecimal digits. -/
def codeUnit? (a b c d : Char) : Option Nat := do
  return (((← hexDigit? a) * 16 + (← hexDigit? b)) * 16 + (← hexDigit? c)) * 16 + (← hexDigit? d)

/-- The character a one-letter escape stands for. -/
def escaped? : Char → Option Char
  | '"' => some '"'
  | '\\' => some '\\'
  | '/' => some '/'
  | 'b' => some '\x08'
  | 'f' => some '\x0c'
  | 'n' => some '\n'
  | 'r' => some '\r'
  | 't' => some '\t'
  | _ => none

/-- A string literal after its opening quote, and what follows its closing quote. -/
def literal? : List Char → Option (Literal × List Char)
  | [] => none
  | '"' :: rest => some ([], rest)
  | '\\' :: 'u' :: a :: b :: c :: d :: rest => do
    let unit ← codeUnit? a b c d
    let (pieces, rest) ← literal? rest
    return (.codeUnit unit :: pieces, rest)
  | '\\' :: e :: rest => do
    let character ← escaped? e
    let (pieces, rest) ← literal? rest
    return (.character character :: pieces, rest)
  | c :: rest =>
    if c < ' ' ∨ c = '\\' then none
    else do
      let (pieces, rest) ← literal? rest
      return (.character c :: pieces, rest)

/-! ### Tokens -/

/-- A word or mark of a JSON text. -/
inductive Token where
  | null
  | boolean (value : Bool)
  | number (numeral : Numeral)
  | string (literal : Literal)
  | openArray
  | closeArray
  | openObject
  | closeObject
  | comma
  | colon
deriving DecidableEq

/-- Whether a character may stand between tokens. -/
def isBlank (c : Char) : Bool := c == ' ' || c == '\t' || c == '\n' || c == '\r'

namespace Token

/-- The token at the front of a text that does not start with a blank, and what follows it. -/
def next? : List Char → Option (Token × List Char)
  | '[' :: rest => some (openArray, rest)
  | ']' :: rest => some (closeArray, rest)
  | '{' :: rest => some (openObject, rest)
  | '}' :: rest => some (closeObject, rest)
  | ',' :: rest => some (comma, rest)
  | ':' :: rest => some (colon, rest)
  | '"' :: rest => (literal? rest).map fun (literal, rest) => (string literal, rest)
  | '-' :: rest => (unsigned? true rest).map fun (numeral, rest) => (number numeral, rest)
  | 'n' :: 'u' :: 'l' :: 'l' :: rest => some (null, rest)
  | 't' :: 'r' :: 'u' :: 'e' :: rest => some (boolean true, rest)
  | 'f' :: 'a' :: 'l' :: 's' :: 'e' :: rest => some (boolean false, rest)
  | cs => (unsigned? false cs).map fun (numeral, rest) => (number numeral, rest)

end Token

/-! ### Every token takes at least one character -/

theorem digits?_length_lt {cs rest ds : List Char} (h : digits? cs = some (ds, rest)) :
    rest.length < cs.length := by
  unfold digits? at h
  split at h
  · simp at h
  · rename_i d tail hd
    simp only [Option.some.injEq, Prod.mk.injEq] at h
    have whole := congrArg List.length (List.takeWhile_append_dropWhile (p := Char.isDigit) (l := cs))
    rw [List.length_append, hd, h.2] at whole
    simp at whole
    omega

theorem wholeDigits?_length_lt {cs rest ds : List Char} (h : wholeDigits? cs = some (ds, rest)) :
    rest.length < cs.length := by
  unfold wholeDigits? at h
  split at h
  · simp at h
    simp [h.2]
  · exact digits?_length_lt h

theorem fraction?_length_le {cs rest : List Char} {f : Option (List Char)}
    (h : fraction? cs = some (f, rest)) : rest.length ≤ cs.length := by
  unfold fraction? at h
  split at h
  · simp only [Option.map_eq_some_iff, Prod.mk.injEq] at h
    obtain ⟨⟨ds, tail⟩, hd, _, rfl⟩ := h
    have := digits?_length_lt hd
    simp
    omega
  · simp at h
    simp [h.2]

theorem signedDigits?_length_lt {cs rest : List Char} {e : Bool × List Char}
    (h : signedDigits? cs = some (e, rest)) : rest.length < cs.length := by
  unfold signedDigits? at h
  split at h <;>
  · simp only [Option.map_eq_some_iff, Prod.mk.injEq] at h
    obtain ⟨⟨ds, tail⟩, hd, _, rfl⟩ := h
    have := digits?_length_lt hd
    simp at this ⊢
    omega

theorem exponent?_length_le {cs rest : List Char} {e : Option (Bool × List Char)}
    (h : exponent? cs = some (e, rest)) : rest.length ≤ cs.length := by
  unfold exponent? at h
  split at h
  · simp only [Option.map_eq_some_iff, Prod.mk.injEq] at h
    obtain ⟨⟨ds, tail⟩, hd, _, rfl⟩ := h
    have := signedDigits?_length_lt hd
    simp
    omega
  · simp only [Option.map_eq_some_iff, Prod.mk.injEq] at h
    obtain ⟨⟨ds, tail⟩, hd, _, rfl⟩ := h
    have := signedDigits?_length_lt hd
    simp
    omega
  · simp at h
    simp [h.2]

theorem unsigned?_length_lt {negative : Bool} {cs rest : List Char} {n : Numeral}
    (h : unsigned? negative cs = some (n, rest)) : rest.length < cs.length := by
  simp only [unsigned?, bind, Option.bind_eq_some_iff, pure, Option.some.injEq,
    Prod.mk.injEq] at h
  obtain ⟨⟨w, r1⟩, h1, ⟨f, r2⟩, h2, ⟨e, r3⟩, h3, _, rfl⟩ := h
  have first : r1.length < cs.length := wholeDigits?_length_lt h1
  have second : r2.length ≤ r1.length := fraction?_length_le h2
  have third : r3.length ≤ r2.length := exponent?_length_le h3
  exact Nat.lt_of_le_of_lt (Nat.le_trans third second) first

theorem literal?_length_lt {cs rest : List Char} {pieces : Literal}
    (h : literal? cs = some (pieces, rest)) : rest.length < cs.length := by
  fun_induction literal? cs generalizing pieces rest <;>
    simp_all [bind, Option.bind_eq_some_iff] <;> grind

theorem Token.next?_length_lt {cs rest : List Char} {t : Token}
    (h : Token.next? cs = some (t, rest)) : rest.length < cs.length := by
  unfold Token.next? at h
  split at h
  all_goals try
    simp only [Option.some.injEq, Prod.mk.injEq] at h
    simp only [← h.2, List.length_cons]
    omega
  · simp only [Option.map_eq_some_iff, Prod.mk.injEq] at h
    obtain ⟨⟨_, tail⟩, hd, _, rfl⟩ := h
    have := literal?_length_lt hd
    simp
    omega
  · simp only [Option.map_eq_some_iff, Prod.mk.injEq] at h
    obtain ⟨⟨_, tail⟩, hd, _, rfl⟩ := h
    have := unsigned?_length_lt hd
    simp
    omega
  · simp only [Option.map_eq_some_iff, Prod.mk.injEq] at h
    obtain ⟨⟨_, tail⟩, hd, _, rfl⟩ := h
    exact unsigned?_length_lt hd

/-! ### Cutting a text -/

/-- All tokens of a text, if it consists of tokens and blanks. -/
def tokens? (cs : List Char) : Option (List Token) :=
  match cs with
  | [] => some []
  | c :: rest =>
    if isBlank c then tokens? rest
    else
      match _h : Token.next? (c :: rest) with
      | none => none
      | some (token, after) => (tokens? after).map (token :: ·)
termination_by cs.length
decreasing_by
  · simp
  · exact Token.next?_length_lt _h

end Federation.Json
