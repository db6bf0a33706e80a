import Federation.Json.Printer
import Federation.Text.Quoted

/-!
# Values of the wrong form

The words in which a reader of fixed forms says what it found and what it expected.
-/

namespace Federation.Json

/-- What a value is, in words. -/
def description : Json → String
  | .null => "null"
  | .boolean true => "boolean \x60true\x60"
  | .boolean false => "boolean \x60false\x60"
  | .number (.integer n) => "integer \x60" ++ toString n ++ "\x60"
  | .number (.float x) => "floating point \x60" ++ floatFormat.text x ++ "\x60"
  | .string s => "string " ++ Text.quoted s
  | .array _ => "sequence"
  | .object _ => "map"

/-- The words for a value that is not of the form expected. -/
def mismatch (found : Json) (expected : String) : String :=
  "invalid type: " ++ found.description ++ ", expected " ++ expected

end Federation.Json
