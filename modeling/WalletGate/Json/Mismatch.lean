import WalletGate.Json.Written
import WalletGate.Text.Quoted
/-!
# Why a value does not fit

The causes for which a JSON value is refused where a record, a text or a number is expected, and
the wording of each.
-/

namespace WalletGate

/-- Why a JSON value is not what a reader expects. -/
inductive Mismatch where
  /-- The value is of the wrong kind. -/
  | kind (found : Json) (expected : String)
  /-- The value is of the right kind but out of range. -/
  | range (found : Json) (expected : String)
  /-- An object lacks a field that has no default. -/
  | missing (key : String)
  /-- An array is too short or too long. -/
  | length (n : Nat) (expected : String)
  /-- A text is none of the words that a choice allows. -/
  | variant (found : String) (options : List String)

namespace Mismatch

/-- How a message names the value that was found. -/
def found : Json → String
  | .null => "null"
  | .bool true => "boolean `true`"
  | .bool false => "boolean `false`"
  | .number (.whole i) => "integer `" ++ Text.integer i ++ "`"
  | .number (.double x) => "floating point `" ++ String.ofList (Json.doubles.double x) ++ "`"
  | .text s => "string " ++ Text.quotedText s
  | .array _ => "sequence"
  | .object _ => "map"

/-- How a message names the words of a choice. -/
def choice (options : List String) : String :=
  match options.map fun option => "`" ++ option ++ "`" with
  | [a] => "expected " ++ a
  | [a, b] => "expected " ++ a ++ " or " ++ b
  | names => "expected one of " ++ String.intercalate ", " names

def message : Mismatch → String
  | kind v expected => "invalid type: " ++ found v ++ ", expected " ++ expected
  | range v expected => "invalid value: " ++ found v ++ ", expected " ++ expected
  | missing key => "missing field `" ++ key ++ "`"
  | length n expected => "invalid length " ++ Text.decimal n ++ ", expected " ++ expected
  | variant name options => "unknown variant `" ++ name ++ "`, " ++ choice options

end Mismatch

end WalletGate
