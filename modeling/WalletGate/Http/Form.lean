import WalletGate.Text.Blank
import WalletGate.Text.Percent
/-!
# Form fields

The query of a request holds fields between ampersands, each a key and a value around the first
equals sign. A plus sign stands for a blank, other characters may be escaped, and bytes that encode
no text are read as replacement characters.
-/

namespace WalletGate.Http

/-- The text that an encoded key or value stands for. -/
def plainText (cs : List Char) : String :=
  String.ofList (Text.ofBytes (Text.unescape (cs.map fun c => if c == '+' then ' ' else c)))

/-- The key and the value of one field; without an equals sign the value is empty. -/
def fieldOf (cs : List Char) : String × String :=
  (plainText (cs.takeWhile (· != '=')), plainText ((cs.dropWhile (· != '=')).drop 1))

/-- The fields of a query, in order. -/
def formFields (query : List Char) : List (String × String) :=
  ((Text.pieces (· == '&') query).filter (· ≠ [])).map fieldOf

/-- The values of the fields with a key. -/
def valuesOf (key : String) (fields : List (String × String)) : List String :=
  (fields.filter fun field => field.1 = key).map (·.2)

/-- The value of a field that may be absent; nothing if there are several. -/
def optionalField? (key : String) (fields : List (String × String)) : Option (Option String) :=
  match valuesOf key fields with
  | [] => some none
  | [value] => some (some value)
  | _ => none

/-- The value of a field that must be there once. -/
def requiredField? (key : String) (fields : List (String × String)) : Option String :=
  match valuesOf key fields with
  | [value] => some value
  | _ => none

end WalletGate.Http
