import WalletGate.Json.Mismatch
import WalletGate.Json.Tree
/-!
# Decoders

A decoder reads one type from JSON by two routes. `ofJson` reads it from a value and says why a
value does not fit. `ofTokens` reads it straight from text, in the order of the text: the first
fault counts, fields that nobody asks for are passed over unread, and a field that is asked for may
appear only once.

A record is read column by column into a draft. It may be given as an object, whose fields a value
gives in order of key, or as an array of its fields in the order of the columns, of which the last
may be left out if they have defaults.
-/

namespace WalletGate

/-- What stops the reading of a text. -/
inductive Fault where
  /-- The text is not JSON, or a part that was asked for has no value. -/
  | grammar
  /-- The text so far is JSON, but not what the reader expects. -/
  | shape
deriving DecidableEq, Repr

/-- Reads one type from a JSON value, and from the tokens of a text. -/
structure Decoder (α : Type) where
  ofJson : Json → Except Mismatch α
  /-- The count is how many more arrays and objects may stand inside each other. -/
  ofTokens : Nat → List Json.Token → Except Fault (α × List Json.Token)

namespace Decoder

open Json (Token)

variable {α β σ : Type}

/-- The fault of a value that is not of the kind expected: to say so, scalars are read first. -/
def misfit : List Token → Fault
  | .null :: _ | .bool _ :: _ | .openBrace :: _ | .openBracket :: _ | .text (some _) :: _ => .shape
  | .number n :: _ => if n.number?.isSome then .shape else .grammar
  | _ => .grammar

/-- Reads `α` from a whole text. -/
def parse (d : Decoder α) (s : String) : Except Fault α :=
  match d.ofTokens Json.maxDepth (Json.tokens s) with
  | .ok (a, []) => .ok a
  | .ok (_, _ :: _) => .error .grammar
  | .error e => .error e

/-- Reads `α` from a whole text, without the cause of a failure. -/
def parse? (d : Decoder α) (s : String) : Option α := (d.parse s).toOption

def map (f : α → β) (d : Decoder α) : Decoder β where
  ofJson v := (d.ofJson v).map f
  ofTokens depth tokens := (d.ofTokens depth tokens).map fun (a, rest) => (f a, rest)

/-! ## Scalars and free values -/

/-- Any value. -/
def json : Decoder Json where
  ofJson v := .ok v
  ofTokens depth tokens :=
    match Json.tree? tokens with
    | some (t, rest) =>
      match t.json? depth with
      | some v => .ok (v, rest)
      | none => .error .grammar
    | none => .error .grammar

/-- A text. -/
def text : Decoder String where
  ofJson
    | .text s => .ok s
    | v => .error (.kind v "a string")
  ofTokens
    | _, .text (some s) :: rest => .ok (s, rest)
    | _, tokens => .error (misfit tokens)

/-- A whole number of sixty-four bits with a sign. -/
def int64 : Decoder Int64 where
  ofJson
    | .number (.whole i) =>
      match Text.int64? i with
      | some n => .ok n
      | none => .error (.range (.whole i) "i64")
    | v => .error (.kind v "i64")
  ofTokens _ tokens :=
    match tokens with
    | .number n :: rest =>
      match n.number? with
      | some (.whole i) =>
        match Text.int64? i with
        | some n => .ok (n, rest)
        | none => .error .shape
      | _ => .error (misfit tokens)
    | _ => .error (misfit tokens)

/-- A value, or null for none. -/
def optional (d : Decoder α) : Decoder (Option α) where
  ofJson
    | .null => .ok none
    | v => (d.ofJson v).map some
  ofTokens
    | _, .null :: rest => .ok (none, rest)
    | depth, tokens => (d.ofTokens depth tokens).map fun (a, rest) => (some a, rest)

/-- One of several words, as a text or as the only key of an object whose value is null. -/
def choice (options : List (String × α)) : Decoder α where
  ofJson
    | .text s => pick s
    | .object fields =>
      match Entries.ofList fields with
      | [(s, v)] => do
        let a ← pick s
        match v with
        | .null => .ok a
        | v => .error (.kind v "unit")
      | _ => .error (.range (.object fields) "map with a single key")
    | v => .error (.kind v "string or map")
  ofTokens _ tokens :=
    match tokens with
    | .text (some s) :: rest =>
      match Entries.find? s options with
      | some a => .ok (a, rest)
      | none => .error .shape
    | .openBrace :: .text (some s) :: rest =>
      match Entries.find? s options with
      | none => .error .shape
      | some a =>
        match rest with
        | .colon :: .null :: .closeBrace :: rest => .ok (a, rest)
        | .colon :: .null :: _ => .error .grammar
        | .colon :: rest => .error (misfit rest)
        | _ => .error .grammar
    | _ => .error .grammar
where
  pick (s : String) : Except Mismatch α :=
    match Entries.find? s options with
    | some a => .ok a
    | none => .error (.variant s (options.map (·.1)))

/-! ## Records -/

/-- One field of a record, as a way to fill a draft of it. -/
structure Column (σ : Type) where
  key : String
  /-- Whether the draft has the field already. -/
  filled : σ → Bool
  ofJson : Json → σ → Except Mismatch σ
  ofTokens : Nat → List Token → σ → Except Fault (σ × List Token)

/-- The column that keeps what `d` reads in one optional place of the draft. -/
def column (key : String) (d : Decoder α) (get : σ → Option α) (set : α → σ → σ) : Column σ where
  key := key
  filled draft := (get draft).isSome
  ofJson v draft := (d.ofJson v).map fun a => set a draft
  ofTokens depth tokens draft :=
    (d.ofTokens depth tokens).map fun (a, rest) => (set a draft, rest)

/-- A record: its columns, the empty draft, and how a draft becomes the record. -/
structure Layout (σ α : Type) where
  name : String
  columns : List (Column σ)
  start : σ
  /-- The record of a draft, or the first key without a default that the draft lacks. -/
  finish : σ → Except String α

namespace Layout

/-- Fills the draft with the fields of an object, one after the other. -/
def fillFields (columns : List (Column σ)) : List (String × Json) → σ → Except Mismatch σ
  | [], draft => .ok draft
  | (key, v) :: rest, draft =>
    match columns.find? (·.key = key) with
    | some c => do fillFields columns rest (← c.ofJson v draft)
    | none => fillFields columns rest draft

/-- Fills the draft with the items of an array, and says which items are left over. -/
def fillItems : List (Column σ) → List Json → σ → Except Mismatch (σ × List Json)
  | c :: columns, v :: rest, draft => do fillItems columns rest (← c.ofJson v draft)
  | _, rest, draft => .ok (draft, rest)

/-- The record of a JSON value. -/
def ofJson (l : Layout σ α) : Json → Except Mismatch α
  | .object fields => do
    let draft ← fillFields l.columns (Entries.ofList fields) l.start
    (l.finish draft).mapError .missing
  | .array items => do
    let (draft, rest) ← fillItems l.columns items l.start
    let record ← (l.finish draft).mapError fun key =>
      .length (l.columns.findIdx (·.key = key)) <|
        "struct " ++ l.name ++ " with " ++ Text.decimal l.columns.length ++ " elements"
    if rest.isEmpty then .ok record
    else .error (.length items.length "fewer elements in array")
  | v => .error (.kind v ("struct " ++ l.name))

/-- Reads one field, from its key on: into its column, or past a value that nobody asks for. -/
def scanField (columns : List (Column σ)) (depth : Nat) :
    List Token → σ → Except Fault (σ × List Token)
  | .text (some key) :: rest, draft =>
    match columns.find? (·.key = key) with
    | some c =>
      -- the second field of a key stops the reading at the key, before its value is looked at
      if c.filled draft then .error .shape
      else match rest with
        | .colon :: rest => c.ofTokens depth rest draft
        | _ => .error .grammar
    | none =>
      match rest with
      | .colon :: rest =>
        match Json.tree? rest with
        | some (_, rest) => .ok (draft, rest)
        | none => .error .grammar
      | _ => .error .grammar
  | _, _ => .error .grammar

/-- Fills the draft from the fields of an object, after its opening brace or a comma. -/
def scanFields (columns : List (Column σ)) (depth : Nat) :
    Nat → List Token → σ → Except Fault (σ × List Token)
  | 0, _, _ => .error .grammar
  | fuel + 1, tokens, draft => do
    let (draft, rest) ← scanField columns depth tokens draft
    match rest with
    | .comma :: rest => scanFields columns depth fuel rest draft
    | .closeBrace :: rest => .ok (draft, rest)
    | _ => .error .grammar

/-- Fills the draft from an object, after its opening brace. -/
def scanObject (columns : List (Column σ)) (depth : Nat) :
    List Token → σ → Except Fault (σ × List Token)
  | .closeBrace :: rest, draft => .ok (draft, rest)
  | tokens, draft => scanFields columns depth (tokens.length + 1) tokens draft

/-- Fills the draft from the items of an array, after its opening bracket or a comma. -/
def scanItems (depth : Nat) : List (Column σ) → List Token → σ → Except Fault (σ × List Token)
  | [], tokens, draft => .ok (draft, tokens)
  | c :: columns, tokens, draft => do
    let (draft, rest) ← c.ofTokens depth tokens draft
    match columns, rest with
    | _ :: _, .comma :: rest => scanItems depth columns rest draft
    | _, rest => .ok (draft, rest)

/-- The record that the tokens start with. -/
def ofTokens (l : Layout σ α) : Nat → List Token → Except Fault (α × List Token)
  | 0, .openBrace :: _ => .error .grammar
  | 0, .openBracket :: _ => .error .grammar
  | depth + 1, .openBrace :: rest => do
    let (draft, rest) ← scanObject l.columns depth rest l.start
    let record ← (l.finish draft).mapError fun _ => .shape
    .ok (record, rest)
  | depth + 1, .openBracket :: rest => do
    match rest with
    | .closeBracket :: rest =>
      let record ← (l.finish l.start).mapError fun _ => .shape
      .ok (record, rest)
    | _ =>
      let (draft, rest) ← scanItems depth l.columns rest l.start
      match l.finish draft, rest with
      | .ok record, .closeBracket :: rest => .ok (record, rest)
      | .ok _, _ => .error .grammar
      | .error _, .closeBracket :: _ => .error .shape
      | .error _, _ => .error .grammar
  | _, tokens => .error (misfit tokens)

end Layout

/-- Reads a record. -/
def record (l : Layout σ α) : Decoder α where
  ofJson := l.ofJson
  ofTokens := l.ofTokens

end Decoder

end WalletGate
