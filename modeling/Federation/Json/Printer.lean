import Federation.Json.Basic
import Federation.Decimal.Shortest

/-!
# Writing JSON

Two layouts of a value: `Json.compact` without any blank, and `Json.pretty` with one member or item
a line, two blanks a level.  Members are written in the order the value holds them.

**Strings.**  Only the quote, the backslash and the control characters below the blank are escaped.

**Floats.**  A float is written with the fewest digits that read back, positionally while its first
digit stands for a power of ten from -5 to 15, and with an exponent that always has a sign beyond.  A
positional number always has a decimal point.
-/

namespace Federation

/-- How floats are written. -/
structure FloatFormat where
  /-- The least power of the first digit that is written positionally. -/
  leastPower : Int
  /-- The greatest power of the first digit that is written positionally. -/
  greatestPower : Int

namespace FloatFormat

/-- The exponent with its sign. -/
def exponentText (power : Int) : String :=
  if power < 0 then s!"e-{power.natAbs}" else s!"e+{power.natAbs}"

/-- Digits times a power of ten, written in the format. -/
def decimalText (format : FloatFormat) (digits : Nat) (power : Int) : String :=
  let shown := Nat.toDigits 10 digits
  let point : Int := shown.length + power
  let first := point - 1
  if first < format.leastPower || format.greatestPower < first then
    match shown with
    | [] => ""
    | [digit] => String.ofList [digit] ++ exponentText first
    | digit :: rest => String.ofList (digit :: '.' :: rest) ++ exponentText first
  else if point ≤ 0 then
    String.ofList ('0' :: '.' :: List.replicate point.natAbs '0' ++ shown)
  else if 0 ≤ power then
    String.ofList (shown ++ List.replicate power.natAbs '0' ++ ['.', '0'])
  else
    String.ofList (shown.take point.natAbs ++ '.' :: shown.drop point.natAbs)

/-- The text of a float. -/
def text (format : FloatFormat) (x : Binary64) : String :=
  let size :=
    if x.isZero then "0.0"
    else
      let (digits, power) := Shortest.digits x
      format.decimalText digits power
  if x.negative then "-" ++ size else size

end FloatFormat

namespace Json

/-- Floats are positional from 0.00001 up to below ten to the sixteenth. -/
def floatFormat : FloatFormat := ⟨-5, 15⟩

end Json

/-- The text of a number. -/
def Number.text : Number → String
  | .integer value => toString value
  | .float value => Json.floatFormat.text value

namespace Json

/-- A hexadecimal digit in lower case. -/
def hexDigit (n : Nat) : Char :=
  if n < 10 then Char.ofNat (48 + n) else Char.ofNat (87 + n)

/-- A character as it stands inside a string. -/
def escape (c : Char) : List Char :=
  match c with
  | '"' => ['\\', '"']
  | '\\' => ['\\', '\\']
  | '\x08' => ['\\', 'b']
  | '\x0c' => ['\\', 'f']
  | '\n' => ['\\', 'n']
  | '\r' => ['\\', 'r']
  | '\t' => ['\\', 't']
  | c =>
    if c < ' ' then ['\\', 'u', '0', '0', hexDigit (c.toNat / 16), hexDigit (c.toNat % 16)]
    else [c]

/-- A string with its quotes. -/
def quote (s : String) : String :=
  "\"" ++ String.ofList (s.toList.flatMap escape) ++ "\""

mutual

/-- The text of a value without blanks. -/
def compact : Json → String
  | .null => "null"
  | .boolean true => "true"
  | .boolean false => "false"
  | .number n => n.text
  | .string s => quote s
  | .array items => "[" ++ compactItems items ++ "]"
  | .object members => "\x7b" ++ compactMembers members ++ "\x7d"

/-- Items with commas between them. -/
def compactItems : List Json → String
  | [] => ""
  | [item] => compact item
  | item :: rest => compact item ++ "," ++ compactItems rest

/-- Members with commas between them. -/
def compactMembers : List (String × Json) → String
  | [] => ""
  | [(name, value)] => quote name ++ ":" ++ compact value
  | (name, value) :: rest => quote name ++ ":" ++ compact value ++ "," ++ compactMembers rest

end

/-- The text of an object without blanks. -/
def compactObject (members : Members Json) : String :=
  compact (.object members)

/-- The break before a line of a nesting level. -/
def lineBreak (level : Nat) : String :=
  "\n" ++ String.ofList (List.replicate (2 * level) ' ')

mutual

/-- The text of a value with an item or member a line, inside a nesting level. -/
def prettyAt (level : Nat) : Json → String
  | .array [] => "[]"
  | .array items => "[" ++ prettyItems (level + 1) items ++ lineBreak level ++ "]"
  | .object [] => "\x7b\x7d"
  | .object members => "\x7b" ++ prettyMembers (level + 1) members ++ lineBreak level ++ "\x7d"
  | .null => "null"
  | .boolean true => "true"
  | .boolean false => "false"
  | .number n => n.text
  | .string s => quote s

/-- Items, each on a line of its own. -/
def prettyItems (level : Nat) : List Json → String
  | [] => ""
  | [item] => lineBreak level ++ prettyAt level item
  | item :: rest => lineBreak level ++ prettyAt level item ++ "," ++ prettyItems level rest

/-- Members, each on a line of its own. -/
def prettyMembers (level : Nat) : List (String × Json) → String
  | [] => ""
  | [(name, value)] => lineBreak level ++ quote name ++ ": " ++ prettyAt level value
  | (name, value) :: rest =>
    lineBreak level ++ quote name ++ ": " ++ prettyAt level value ++ "," ++
      prettyMembers level rest

end

/-- The text of a value with an item or member a line. -/
def pretty (value : Json) : String := prettyAt 0 value

end Json

end Federation
