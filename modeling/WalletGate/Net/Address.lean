import WalletGate.Text.Blank
import WalletGate.Text.Numeral
/-!
# Internet addresses

Addresses of version 4 and 6, their strict textual forms, and the loose form of version 4 that hosts
in URLs may have. A version 6 address is written with its longest run of zero groups left out, the
first of several; a run of one group stays.
-/

namespace WalletGate.Net

/-- An address of version 4, by its octets. -/
structure V4 where
  a : Nat
  b : Nat
  c : Nat
  d : Nat
deriving DecidableEq, Repr

/-- An address of version 6, by its eight groups of sixteen bits. -/
structure V6 where
  groups : List Nat
deriving DecidableEq, Repr

inductive Address where
  | v4 (address : V4)
  | v6 (address : V6)
deriving DecidableEq, Repr

/-! ## Version 4 -/

namespace V4

/-- An octet: a decimal number below 256 without leading zeros. -/
def octet? (cs : List Char) : Option Nat :=
  if cs.length > 3 || (cs.length > 1 && cs.head? == some '0') then none
  else (Text.digitsValue? 10 cs).filter (· < 256)

/-- Four octets between points. -/
def ofText? (cs : List Char) : Option V4 :=
  match Text.pieces (· == '.') cs with
  | [a, b, c, d] => do some ⟨← octet? a, ← octet? b, ← octet? c, ← octet? d⟩
  | _ => none

/-- The address of a number below `2 ^ 32`. -/
def ofNat (n : Nat) : V4 := ⟨n / 16777216 % 256, n / 65536 % 256, n / 256 % 256, n % 256⟩

def text (x : V4) : String :=
  ".".intercalate [Text.decimal x.a, Text.decimal x.b, Text.decimal x.c, Text.decimal x.d]

/-- A number of the loose form: hexadecimal behind `0x`, octal behind `0`, otherwise decimal. The
prefix alone is zero. -/
def looseNumber? (cs : List Char) : Option Nat :=
  match cs with
  | [] => none
  | ['0'] => some 0
  | '0' :: 'x' :: rest | '0' :: 'X' :: rest =>
    if rest.isEmpty then some 0 else Text.digitsValue? 16 rest
  | '0' :: rest => Text.digitsValue? 8 rest
  | _ => Text.digitsValue? 10 cs

/-- The parts of a name between points; a point at the end is ignored. -/
def looseParts (cs : List Char) : List (List Char) :=
  let parts := Text.pieces (· == '.') cs
  if parts.getLast? = some [] && parts.length > 1 then parts.dropLast else parts

/-- Whether a name must be an address because its last part is a number. -/
def endsInNumber (cs : List Char) : Bool :=
  match (looseParts cs).getLast? with
  | none => false
  | some last => (!last.isEmpty && last.all Text.isDigit) || (looseNumber? last).isSome

/-- The address of the loose form: one to four numbers, of which the last fills the octets that the
others leave. -/
def ofLooseText? (cs : List Char) : Option V4 := do
  let numbers ← (looseParts cs).mapM looseNumber?
  let last ← numbers.getLast?
  let octets := numbers.dropLast
  if octets.length > 3 || octets.any (255 < ·) || Nat.pow 256 (4 - octets.length) ≤ last then none
  let high := octets.foldl (fun n octet => n * 256 + octet) 0
  some (ofNat (high * Nat.pow 256 (4 - octets.length) + last))

end V4

/-! ## Version 6 -/

namespace V6

/-- A group: one to four hexadecimal digits. -/
def group? (cs : List Char) : Option Nat :=
  if cs.length > 4 then none else Text.digitsValue? 16 cs

/-- The groups that an address of version 4 makes in the last place. -/
def ofV4 (x : V4) : List Nat := [x.a * 256 + x.b, x.c * 256 + x.d]

/-- Groups between colons; the last place may hold an address of version 4 if `dotted` allows it. -/
def groups? (dotted : Bool) : List (List Char) → Option (List Nat)
  | [] => some []
  | [last] =>
    match if dotted then V4.ofText? last else none with
    | some x => some (ofV4 x)
    | none => (group? last).map ([·])
  | piece :: rest => do some ((← group? piece) :: (← groups? dotted rest))

/-- The groups of one side of a double colon, which may be empty. -/
def side? (dotted : Bool) (cs : List Char) : Option (List Nat) :=
  if cs.isEmpty then some [] else groups? dotted (Text.pieces (· == ':') cs)

/-- The parts of a text before and after its first double colon. -/
def splitAtGap? : List Char → Option (List Char × List Char)
  | ':' :: ':' :: rest => some ([], rest)
  | c :: rest => (splitAtGap? rest).map fun (before, after) => (c :: before, after)
  | [] => none

/-- Eight groups, of which one run may be left out at a double colon. -/
def ofText? (cs : List Char) : Option V6 :=
  match splitAtGap? cs with
  | none => do
    let groups ← side? true cs
    if groups.length = 8 then some ⟨groups⟩ else none
  | some (before, after) => do
    let head ← side? false before
    let tail ← side? true after
    let count := head.length + tail.length
    -- a double colon stands for one group at least
    if count < 8 then some ⟨head ++ List.replicate (8 - count) 0 ++ tail⟩ else none

/-- The length of the run of zeros that a list starts with. -/
def zeros (groups : List Nat) : Nat := (groups.takeWhile (· = 0)).length

/-- The place and length of the longest run of zeros, the first of several. -/
def longestRun (groups : List Nat) : Nat × Nat :=
  (List.range groups.length).foldl (fun best i =>
    let n := zeros (groups.drop i)
    if best.2 < n then (i, n) else best) (0, 0)

/-- Groups in hexadecimal between colons. -/
def colons (groups : List Nat) : String :=
  ":".intercalate (groups.map Text.hexadecimal)

def text (x : V6) : String :=
  let (start, count) := longestRun x.groups
  if count < 2 then colons x.groups
  else colons (x.groups.take start) ++ "::" ++ colons (x.groups.drop (start + count))

/-- The address of version 4 that an address of version 6 stands for. -/
def mapped? (x : V6) : Option V4 :=
  match x.groups with
  | [0, 0, 0, 0, 0, 0xFFFF, high, low] => some ⟨high / 256, high % 256, low / 256, low % 256⟩
  | _ => none

end V6

namespace Address

/-- An address in strict form. -/
def ofText? (cs : List Char) : Option Address :=
  match V4.ofText? cs with
  | some x => some (v4 x)
  | none => (V6.ofText? cs).map v6

/-- An address and a port. An address of version 6 stands in brackets, and its last groups are
written in version 4 where it stands for such an address. -/
def withPort (x : Address) (port : Nat) : String :=
  match x with
  | v4 x => x.text ++ ":" ++ Text.decimal port
  | v6 x =>
    let address := match x.mapped? with
      | some y => "::ffff:" ++ y.text
      | none => x.text
    "[" ++ address ++ "]:" ++ Text.decimal port

end Address

end WalletGate.Net
