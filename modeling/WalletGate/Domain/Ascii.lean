import WalletGate.Domain.Direction
import WalletGate.Domain.Joiner
import WalletGate.Domain.Normal
import WalletGate.Domain.Punycode
import WalletGate.Text.Percent
/-!
# Domain names in ASCII

A domain name is brought into the form in which it is looked up (UTS 46): characters are mapped and
composed, encoded labels are checked, and every label that is not ASCII is encoded. A name that
breaks a rule has no such form.
-/

namespace WalletGate.Domain

/-- The ASCII characters that no domain name may hold. -/
def isForbidden (c : Char) : Bool :=
  c.toNat ≤ 0x20 || c.toNat == 0x7F
    || c ∈ ['%', '#', '/', ':', '<', '>', '?', '@', '[', '\\', ']', '^', '|']

def isAscii (c : Char) : Bool := c.toNat < 128

/-- What every encoded label starts with. -/
def encodedMark : List Char := ['x', 'n', '-', '-']

/-- The label that is meant by a label: what it encodes if it is an encoded one. An encoded label
encodes at least one character, and nothing that the mapping would change. -/
def meant? (label : List Char) : Option (List Char) :=
  if encodedMark.isPrefixOf label then
    let code := label.drop 4
    if label.all isAscii && code.getLast? ≠ some '-' && code.length ≤ 2000 then
      match Punycode.decode code with
      | none | some [] => none
      | some decoded =>
        if decoded.all (fun c => map? c = some [c]) && normalize decoded = decoded then some decoded
        else none
    else none
  else some label

/-- The rules for a label that is not ASCII. -/
def fits (label : List Char) : Bool :=
  label.all isAscii || (label.head?.all (fun c => !isMark c) && joinersFit label)

/-- Writes a label in ASCII, as it is or encoded. -/
def encodeLabel? (label : List Char) : Option (List Char) :=
  if label.all isAscii then some label
  else if label.length ≤ 1000 then some (encodedMark ++ Punycode.encode label)
  else none

/-- The ASCII form of a domain name. -/
def ascii? (name : List Char) : Option (List Char) := do
  let mapped := normalize (← name.mapM map?).flatten
  if mapped.any isForbidden then none
  let labels := Text.pieces (· == '.') mapped
  let meanings ← labels.mapM meant?
  if !meanings.all fits then none
  if meanings.any (·.any turnsDirection) && !meanings.all obeysDirection then none
  let written ← labels.mapM encodeLabel?
  some (['.'].intercalate written)

end WalletGate.Domain
