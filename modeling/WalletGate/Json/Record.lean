import WalletGate.Json.Decoder
/-!
# Records as JSON

A record type lists its fields in the order in which it is written. As a value its fields are in
order of key, as in any other object. Absent fields are left out unless the record says otherwise.
-/

namespace WalletGate

/-- A type that is read from JSON and written to it. -/
class Wire (α : Type) where
  /-- The value of a record, its fields in order of key. -/
  toJson : α → Json
  /-- The text of a record, its fields in the order of their declaration. -/
  written : α → String
  decoder : Decoder α

export Wire (toJson)

/-- The field of an optional part, left out if the part is absent. -/
def Json.fieldOf {α : Type} (key : String) (value : α → Json) : Option α → List (String × Json)
  | none => []
  | some a => [(key, value a)]

/-- Reads a type from a value. -/
def fromJson (α : Type) [Wire α] (v : Json) : Except Mismatch α := (Wire.decoder (α := α)).ofJson v

/-- Reads a type from a whole text. -/
def fromText (α : Type) [Wire α] (s : String) : Except Fault α := (Wire.decoder (α := α)).parse s

end WalletGate
