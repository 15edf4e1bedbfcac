import WalletGate.Dict
import WalletGate.Decimal.Double
/-!
# JSON values

A JSON value keeps whole numbers and doubles apart. The fields of an object are written in the order
in which they are listed, but whoever reads the object sees the map that they make: in increasing
order of key, and of two fields with one key the later. `Json.ofFields` lists them so from the
start.
-/

namespace WalletGate

/-- A JSON number: a whole number of at most sixty-four bits, or a double. -/
inductive Number where
  /-- Between `-2 ^ 63` and `2 ^ 64 - 1`. -/
  | whole (i : Int)
  | double (x : Decimal.Double)
deriving DecidableEq, Repr

inductive Json where
  | null
  | bool (b : Bool)
  | number (n : Number)
  | text (s : String)
  | array (items : List Json)
  | object (fields : List (String × Json))
deriving Repr

namespace Json

instance : Inhabited Json := ⟨null⟩

/-- A whole number. -/
def whole (i : Int) : Json := number (.whole i)

/-- A whole number of sixty-four bits. -/
def int (i : Int64) : Json := whole i.toInt

/-- The object with the given fields, the later of two with one key. -/
def ofFields (fields : List (String × Json)) : Json :=
  object (Entries.ofList fields)

/-- The object of a dictionary. -/
def ofDict {α : Type} (value : α → Json) (d : Dict α) : Json :=
  object (d.entries.map fun entry => (entry.1, value entry.2))

/-- The field of an object under a key; nothing for any other value. -/
def field? (key : String) : Json → Option Json
  | object fields => Entries.find? key (Entries.ofList fields)
  | _ => none

theorem field?_object_of_sorted {fields : List (String × Json)} (hkeys : Entries.Sorted fields)
    (key : String) : (object fields).field? key = Entries.find? key fields :=
  congrArg (Entries.find? key) hkeys.ofList_eq

@[simp] theorem field?_ofFields (fields : List (String × Json)) (key : String) :
    (ofFields fields).field? key = Entries.find? key (Entries.ofList fields) :=
  field?_object_of_sorted (Entries.sorted_ofList fields) key

/-- The text, if the value is one. -/
def text? : Json → Option String
  | text s => some s
  | _ => none

def isNull : Json → Bool
  | null => true
  | _ => false

/-- An optional value, null if absent. -/
def ofOption {α : Type} (value : α → Json) : Option α → Json
  | none => null
  | some a => value a

end Json

end WalletGate
