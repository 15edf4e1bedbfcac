import WalletGate.Url.Host
import WalletGate.Url.Path
/-!
# URLs

URLs as browsers read them (the WHATWG standard). Of a URL the scheme, the host, the port and the
path are kept, and whether it has a query and a fragment. A port that the scheme implies is left
out.
-/

namespace WalletGate

structure Url where
  scheme : String
  host : Option Url.Host
  port : Option Nat
  path : String
  hasQuery : Bool
  hasFragment : Bool
deriving DecidableEq, Repr

namespace Url

/-- The host as it is written. -/
def hostText? (url : Url) : Option String := url.host.map Host.text

/-! ## Authority -/

/-- The text before the last character that satisfies `p`, and the text after it. -/
def splitAtLast? (p : Char → Bool) (cs : List Char) : Option (List Char × List Char) :=
  let after := cs.reverse.takeWhile (!p ·)
  match cs.reverse.drop after.length with
  | [] => none
  | _ :: before => some (before.reverse, after.reverse)

/-- Whether a name or a password is given, and what follows the credentials. -/
def credentials (kind : Kind) (cs : List Char) : Except Error (Bool × List Char) :=
  let authority := cs.takeWhile (!kind.endsAuthority ·)
  let rest := cs.dropWhile (!kind.endsAuthority ·)
  -- an at sign before the last one belongs to the name or to the password
  match splitAtLast? (· == '@') authority with
  | none => .ok (false, cs)
  | some (given, host) =>
    if given.isEmpty && host.isEmpty && !rest.isEmpty then .error .emptyHost
    else .ok (given ≠ [] && given ≠ [':'], host ++ rest)

/-- The text of a host, up to a colon outside brackets or the end of the authority. -/
def hostRun (kind : Kind) : Bool → List Char → List Char × List Char
  | _, [] => ([], [])
  | inside, c :: rest =>
    if (c == ':' && !inside) || kind.endsAuthority c then ([], c :: rest)
    else
      let inside := if c == '[' then true else if c == ']' then false else inside
      let (host, rest) := hostRun kind inside rest
      (c :: host, rest)

/-- The port after a colon; none if there are no digits. -/
def readPort (cs : List Char) : Except Error (Option Nat × List Char) :=
  let digits := cs.takeWhile Text.isDigit
  let rest := cs.dropWhile Text.isDigit
  let port := Text.digitsValue? 10 digits
  if port.any (65535 < ·) then .error .port
  else if rest.head?.all (· ∈ ['/', '\\', '?', '#']) then .ok (port, rest)
  else .error .port

/-- The host and the port, and what follows them. -/
def hostAndPort (kind : Kind) (scheme : String) (cs : List Char) :
    Except Error (Host × Option Nat × List Char) := do
  let (run, rest) := hostRun kind false cs
  let host ← if kind.isSpecial then Host.ofSpecial run else Host.ofOther run
  match rest with
  | ':' :: rest =>
    if host = .name [] then .error .emptyHost
    else
      let (port, rest) ← readPort rest
      .ok (host, port.filter fun n => defaultPort? scheme ≠ some n, rest)
  | rest => .ok (host, none, rest)

/-! ## The whole -/

/-- A URL from its parts; the rest is empty or starts with the query or the fragment. -/
def assemble (scheme : String) (host : Option Host) (port : Option Nat) (path rest : List Char) :
    Url where
  scheme := scheme
  host := host.filter (· ≠ .name [])
  port := port
  path := String.ofList path
  hasQuery := rest.head? = some '?'
  hasFragment := '#' ∈ rest

/-- The path after an authority, and what follows it. A special URL always has a path. -/
def pathAfterAuthority (kind : Kind) (cs : List Char) : Path.Draft × List Char :=
  match cs with
  | [] =>
    if kind.isSpecial then Path.read kind [] ⟨['/'], [], false⟩ else (⟨[], [], false⟩, [])
  | c :: rest =>
    if kind.isSlash c then Path.read kind rest ⟨['/'], [], false⟩
    else if !kind.isSpecial && (c == '?' || c == '#') then (⟨[], [], false⟩, cs)
    else Path.read kind cs ⟨['/'], [], false⟩

/-- A URL with an authority. -/
def withAuthority (kind : Kind) (scheme : String) (cs : List Char) : Except Error Url := do
  let (given, cs) ← credentials kind cs
  let (host, port, cs) ← hostAndPort kind scheme cs
  if given && host = .name [] then .error .emptyHost
  else
    let (draft, rest) := pathAfterAuthority kind cs
    .ok (assemble scheme (some host) port draft.done rest)

/-- A `file` URL. Its host is left out if it is empty or this machine, or if the path starts with a
drive letter; a drive letter in the place of the host is part of the path. -/
def file (cs : List Char) : Except Error Url :=
  let isSlash := Kind.isSlash .file
  match cs with
  | a :: b :: rest =>
    if isSlash a && isSlash b then do
      let run := rest.takeWhile (!Kind.endsAuthority .file ·)
      let after := rest.dropWhile (!Kind.endsAuthority .file ·)
      if run.isEmpty || Path.isDriveLike run then .ok (ofPath none rest)
      else
        let host ← Host.ofSpecial run
        .ok (ofPath (if host = .name "localhost".toList then none else some host) after)
    else .ok (ofPath none cs)
  | _ => .ok (ofPath none cs)
where
  ofPath (host : Option Host) (cs : List Char) : Url :=
    let start := if cs.head?.any (Kind.isSlash .file) then cs.drop 1 else cs
    let (draft, rest) := Path.read .file start ⟨['/'], [], false⟩
    assemble "file" (if draft.drive then none else host) none (Path.finish .file draft.done) rest

/-- Reads a URL. Controls and blanks around it are ignored, and so are tabs and line ends in it. -/
def parse (s : String) : Except Error Url :=
  let cs := (Text.strip (·.toNat ≤ 0x20) s.toList).filter (· ∉ ['\t', '\n', '\r'])
  match splitScheme? cs with
  | none => .error .relative
  | some (scheme, rest) =>
    match Kind.ofScheme scheme with
    | .file => file rest
    | .special => withAuthority .special scheme (rest.dropWhile (Kind.isSlash .special))
    | .other =>
      match rest with
      | '/' :: '/' :: rest => withAuthority .other scheme rest
      | '/' :: rest =>
        let (draft, rest) := Path.read .other rest ⟨['/'], [], false⟩
        .ok (assemble scheme none none draft.done rest)
      | _ =>
        -- without a slash the path has no segments and is only escaped
        let path := rest.takeWhile fun c => c != '?' && c != '#'
        let rest := rest.dropWhile fun c => c != '?' && c != '#'
        .ok (assemble scheme none none (Text.escape Host.isUnseen path) rest)

end Url

end WalletGate
