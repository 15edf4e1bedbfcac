import WalletGate.Text.Letter
/-!
# Tokens of JSON text

A text is cut into tokens from the left. The cut never fails: where no token starts, the token
`fault` stands for the rest of the text, so a reader meets the fault when, and only if, it gets
there. Every token is one of the language of RFC 8259; no byte order mark and no comment is one.
-/

namespace WalletGate.Json

/-- A numeral as written: digits before the point, after it, and the exponent. -/
structure Numeral where
  negative : Bool
  whole : List Char
  fraction : List Char
  /-- The sign of the exponent, true for minus, and its digits. -/
  exponent : Option (Bool × List Char)
deriving DecidableEq, Repr

inductive Token where
  | openBrace
  | closeBrace
  | openBracket
  | closeBracket
  | colon
  | comma
  | null
  | bool (b : Bool)
  | number (n : Numeral)
  /-- A quoted text; without content if its escapes name half of a surrogate pair. -/
  | text (content : Option String)
  /-- No token starts here. -/
  | fault
deriving DecidableEq, Repr

/-- A piece of quoted text: a character, or one sixteen-bit unit written as an escape. -/
inductive Unit16 where
  | char (c : Char)
  | escape (n : Nat)

/-- The characters of the pieces, if the escapes pair up to characters. -/
def joinUnits : List Unit16 → Option (List Char)
  | [] => some []
  | .char c :: rest => (joinUnits rest).map (c :: ·)
  | .escape n :: rest =>
    if n < 0xD800 ∨ 0xE000 ≤ n then (joinUnits rest).map (Char.ofNat n :: ·)
    -- half of a surrogate pair is a character only with the other half right behind it
    else match rest with
      | .escape m :: rest =>
        if n < 0xDC00 ∧ 0xDC00 ≤ m ∧ m < 0xE000 then
          (joinUnits rest).map (Char.ofNat ((n - 0xD800) * 1024 + (m - 0xDC00) + 0x10000) :: ·)
        else none
      | _ => none

/-- The value of four hexadecimal digits. -/
def hex4? (a b c d : Char) : Option Nat :=
  match Text.hexValue? a, Text.hexValue? b, Text.hexValue? c, Text.hexValue? d with
  | some a, some b, some c, some d => some (((a * 16 + b) * 16 + c) * 16 + d)
  | _, _, _, _ => none

/-- The control or mark that an escape of one letter stands for. -/
def simpleEscape? : Char → Option Char
  | '"' => some '"'
  | '\\' => some '\\'
  | '/' => some '/'
  | 'b' => some '\x08'
  | 'f' => some '\x0c'
  | 'n' => some '\n'
  | 'r' => some '\r'
  | 't' => some '\t'
  | _ => none

/-- The pieces of a quoted text after its opening quote, and what follows the closing one. -/
def quotedUnits : List Char → List Unit16 → Option (List Unit16 × List Char)
  | [], _ => none
  | '"' :: rest, done => some (done.reverse, rest)
  | '\\' :: 'u' :: a :: b :: c :: d :: rest, done =>
    match hex4? a b c d with
    | some n => quotedUnits rest (.escape n :: done)
    | none => none
  | '\\' :: c :: rest, done =>
    match simpleEscape? c with
    | some c => quotedUnits rest (.char c :: done)
    | none => none
  -- a control may stand in a quoted text as an escape only
  | c :: rest, done => if c.toNat < 32 then none else quotedUnits rest (.char c :: done)

/-- The longest run of digits at the start, and the rest. -/
def digitRun (cs : List Char) : List Char × List Char :=
  (cs.takeWhile Text.isDigit, cs.dropWhile Text.isDigit)

/-- The fraction of a numeral, if a point starts one. -/
def fractionOf : List Char → Option (List Char × List Char)
  | '.' :: rest => if (digitRun rest).1.isEmpty then none else some (digitRun rest)
  | cs => some ([], cs)

/-- The exponent of a numeral, if a letter starts one. -/
def exponentOf (cs : List Char) : Option (Option (Bool × List Char) × List Char) :=
  match cs with
  | c :: rest =>
    if c = 'e' ∨ c = 'E' then
      let (negative, rest) := match rest with
        | '+' :: rest => (false, rest)
        | '-' :: rest => (true, rest)
        | _ => (false, rest)
      let (ds, rest) := digitRun rest
      -- the letter promises digits: the numeral does not end before it
      if ds.isEmpty then none else some (some (negative, ds), rest)
    else some (none, cs)
  | [] => some (none, [])

/-- The numeral at the start of a text; a zero is never followed by a digit. -/
def numeralOf (cs : List Char) : Option (Numeral × List Char) :=
  let (negative, cs) := match cs with
    | '-' :: rest => (true, rest)
    | _ => (false, cs)
  let (whole, rest) := digitRun cs
  if whole.isEmpty ∨ (whole.head? = some '0' ∧ whole.length ≠ 1) then none
  else match fractionOf rest with
    | none => none
    | some (fraction, rest) =>
      match exponentOf rest with
      | none => none
      | some (exponent, rest) => some (⟨negative, whole, fraction, exponent⟩, rest)

/-- The four characters that may stand between tokens. -/
def isSpace (c : Char) : Bool := c == ' ' || c == '\t' || c == '\n' || c == '\r'

/-- The token at the start of a text that does not start with a space, and what follows it. -/
def tokenOf (cs : List Char) : Token × List Char :=
  match cs with
  | '{' :: rest => (.openBrace, rest)
  | '}' :: rest => (.closeBrace, rest)
  | '[' :: rest => (.openBracket, rest)
  | ']' :: rest => (.closeBracket, rest)
  | ':' :: rest => (.colon, rest)
  | ',' :: rest => (.comma, rest)
  | 'n' :: 'u' :: 'l' :: 'l' :: rest => (.null, rest)
  | 't' :: 'r' :: 'u' :: 'e' :: rest => (.bool true, rest)
  | 'f' :: 'a' :: 'l' :: 's' :: 'e' :: rest => (.bool false, rest)
  | '"' :: rest =>
    match quotedUnits rest [] with
    | some (units, rest) => (.text ((joinUnits units).map String.ofList), rest)
    | none => (.fault, [])
  | _ =>
    match numeralOf cs with
    | some (n, rest) => (.number n, rest)
    | none => (.fault, [])

/-- The tokens of a text. -/
def tokens (s : String) : List Token :=
  go (s.toList.length + 1) s.toList
where
  go : Nat → List Char → List Token
    | 0, _ => []
    | fuel + 1, cs =>
      match cs.dropWhile isSpace with
      | [] => []
      | c :: rest =>
        -- a token takes a character at least, so the fuel outlasts the text
        let (token, rest) := tokenOf (c :: rest)
        token :: go fuel rest

end WalletGate.Json
