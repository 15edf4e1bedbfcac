import WalletGate.Json.Basic
import WalletGate.Json.Token
import WalletGate.Text.Numeral
/-!
# Reading JSON values

A text is first read as a tree that keeps every field and every numeral as written. The tree has a
value if it is nested at most 127 deep, every numeral has a magnitude and every text its characters.
A part that nobody asks for is read as a tree only, so none of these limits touches it.

* `Json.parse?` reads a whole text as one value.
-/

namespace WalletGate.Json

/-- A value as written. -/
inductive Tree where
  | null
  | bool (b : Bool)
  | number (n : Numeral)
  | text (content : Option String)
  | array (items : List Tree)
  /-- All fields in order of appearance, repeated keys included. -/
  | object (fields : List (Option String × Tree))
deriving Repr

mutual

/-- The value that the tokens start with. -/
def treeOf : Nat → List Token → Option (Tree × List Token)
  | 0, _ => none
  | _ + 1, .null :: rest => some (.null, rest)
  | _ + 1, .bool b :: rest => some (.bool b, rest)
  | _ + 1, .number n :: rest => some (.number n, rest)
  | _ + 1, .text s :: rest => some (.text s, rest)
  | _ + 1, .openBracket :: .closeBracket :: rest => some (.array [], rest)
  | fuel + 1, .openBracket :: rest =>
    (itemsOf fuel rest).map fun (items, rest) => (.array items, rest)
  | _ + 1, .openBrace :: .closeBrace :: rest => some (.object [], rest)
  | fuel + 1, .openBrace :: rest =>
    (fieldsOf fuel rest).map fun (fields, rest) => (.object fields, rest)
  | _ + 1, _ => none

/-- The items up to a closing bracket. -/
def itemsOf : Nat → List Token → Option (List Tree × List Token)
  | 0, _ => none
  | fuel + 1, tokens =>
    match treeOf fuel tokens with
    | some (v, .comma :: rest) => (itemsOf fuel rest).map fun (items, rest) => (v :: items, rest)
    | some (v, .closeBracket :: rest) => some ([v], rest)
    | _ => none

/-- The fields up to a closing brace. -/
def fieldsOf : Nat → List Token → Option (List (Option String × Tree) × List Token)
  | 0, _ => none
  | fuel + 1, .text key :: .colon :: rest =>
    match treeOf fuel rest with
    | some (v, .comma :: rest) =>
      (fieldsOf fuel rest).map fun (fields, rest) => ((key, v) :: fields, rest)
    | some (v, .closeBrace :: rest) => some ([(key, v)], rest)
    | _ => none
  | _ + 1, _ => none

end

/-- The value that the tokens start with. A token is passed at every second step at the latest. -/
def tree? (tokens : List Token) : Option (Tree × List Token) :=
  treeOf (2 * tokens.length + 2) tokens

/-! ## Numbers -/

/-- Appends digits to a number as long as it stays below `2 ^ 64`; the count says how many. -/
def gather (n : Nat) : List Char → Nat × Nat
  | [] => (n, 0)
  | c :: cs =>
    let n' := n * 10 + (c.toNat - 48)
    if n' < Nat.pow 2 64 then
      let (m, used) := gather n' cs
      (m, used + 1)
    else (n, 0)

/-- The exponent of a numeral, zero if it has none. -/
def Numeral.power (n : Numeral) : Int :=
  match n.exponent with
  | none => 0
  | some (negative, ds) =>
    let e := (Text.digitsValue? 10 ds).getD 0
    if negative then -(e : Int) else e

/--
The double of a numeral. Digits that would carry the significand past sixty-four bits count before
the point for its magnitude only, and after it not at all. `none` if the magnitude is too big.
-/
def Numeral.double? (n : Numeral) : Option Decimal.Double :=
  let (high, usedWhole) := gather 0 n.whole
  let (all, usedFraction) := gather high n.fraction
  let power := (n.whole.length - usedWhole : Nat) - (usedFraction : Int) + n.power
  (Decimal.decimalRank? all power).bind (Decimal.Double.ofRank? n.negative)

/-- The number of a numeral: whole without point and exponent, if sixty-four bits hold it. -/
def Numeral.number? (n : Numeral) : Option Number :=
  let value := (Text.digitsValue? 10 n.whole).getD 0
  if n.fraction.isEmpty ∧ n.exponent.isNone then
    -- a zero with a sign is a double, which keeps the sign
    if n.negative ∧ 0 < value ∧ value ≤ Nat.pow 2 63 then some (.whole (-(value : Int)))
    else if ¬ n.negative ∧ value < Nat.pow 2 64 then some (.whole value)
    else n.double?.map .double
  else n.double?.map .double

/-! ## Values -/

mutual

/-- The value of a tree that holds containers at most `depth` deep. -/
def Tree.json? : Nat → Tree → Option Json
  | _, .null => some .null
  | _, .bool b => some (.bool b)
  | _, .number n => n.number?.map .number
  | _, .text s => s.map .text
  | 0, .array _ => none
  | 0, .object _ => none
  | depth + 1, .array items => (itemsJson? depth items).map .array
  | depth + 1, .object fields => (fieldsJson? depth fields).map .ofFields

def itemsJson? (depth : Nat) : List Tree → Option (List Json)
  | [] => some []
  | v :: rest =>
    match v.json? depth, itemsJson? depth rest with
    | some v, some rest => some (v :: rest)
    | _, _ => none

def fieldsJson? (depth : Nat) : List (Option String × Tree) → Option (List (String × Json))
  | [] => some []
  | (key, v) :: rest =>
    match key, v.json? depth, fieldsJson? depth rest with
    | some key, some v, some rest => some ((key, v) :: rest)
    | _, _, _ => none

end

/-- How many arrays and objects may stand inside each other. -/
def maxDepth : Nat := 127

/-- The value of a whole text. -/
def parse? (s : String) : Option Json :=
  match tree? (tokens s) with
  | some (t, []) => t.json? maxDepth
  | _ => none

end WalletGate.Json
