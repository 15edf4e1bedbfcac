import WalletGate.Text.Numeral
import WalletGate.Wallet.Call
/-!
# A wallet in memory

Accounts in the order in which they were added, what the user sees of them, the accounts that each
origin may see, what sites report, and which sites use the legacy interface. A locked wallet shows
no accounts.
-/

namespace WalletGate

structure Wallet where
  unlocked : Bool
  /-- Addresses, each once, in the order in which they were added. -/
  accounts : List String
  /-- What the user sees of an account, by address. -/
  identities : Dict Wallet.Identity
  /-- The accounts that an origin may see. -/
  permitted : Dict (List String)
  /-- What sites report, by origin. -/
  subjects : Dict Wallet.SubjectMetadata
  /-- What has been noted about the legacy interface, by origin. -/
  shims : Dict Wallet.ShimUsage

namespace Wallet

/-- The network of the deployment. -/
def chainId : Nat := 43113

def empty : Wallet := ⟨true, [], ∅, ∅, ∅, ∅⟩

/-- Adds an address unless it is there. -/
def addAccount (w : Wallet) (address : String) : Wallet :=
  if address ∈ w.accounts then w else { w with accounts := w.accounts ++ [address] }

/-- Adds an account with what the user sees of it, which replaces what was there. -/
def insert (w : Wallet) (address name : String) (lastSelected : Option Int64) : Wallet :=
  { w.addAccount address with
    identities := w.identities.put address ⟨address, name, lastSelected⟩ }

/-- Notes that the user selected an account, if the user sees it. -/
def select (w : Wallet) (address : String) (time : Int64) : Wallet :=
  match w.identities.find? address with
  | some x =>
    { w with identities := w.identities.put address { x with lastSelected := some time } }
  | none => w

/-- Sets the accounts that an origin may see. -/
def permit (w : Wallet) (origin : String) (addresses : List String) : Wallet :=
  { w with permitted := w.permitted.put origin addresses }

def setUnlocked (w : Wallet) (unlocked : Bool) : Wallet := { w with unlocked }

/-- A change that the user makes to the wallet. -/
inductive Change where
  | insert (address name : String) (lastSelected : Option Int64)
  | addAccount (address : String)
  | select (address : String) (time : Int64)
  | permit (origin : String) (addresses : List String)
  | setUnlocked (unlocked : Bool)
deriving DecidableEq, Repr

/-- The wallet after a change. -/
def apply (w : Wallet) : Change → Wallet
  | .insert address name lastSelected => w.insert address name lastSelected
  | .addAccount address => w.addAccount address
  | .select address time => w.select address time
  | .permit origin addresses => w.permit origin addresses
  | .setUnlocked unlocked => w.setUnlocked unlocked

/-- What a site has reported. -/
def subject? (w : Wallet) (origin : String) : Option SubjectMetadata := w.subjects.find? origin

/-- The accounts that can be used now. -/
def usable (w : Wallet) : List String := if w.unlocked then w.accounts else []

/-- The accounts that an origin may see now. -/
def visible (w : Wallet) (origin : String) : List String :=
  if w.unlocked then (w.permitted.find? origin).getD [] else []

/-- What the provider in a page of an origin starts from. -/
def providerState (w : Wallet) (origin : String) : Json :=
  .ofFields [
    ("isUnlocked", .bool w.unlocked),
    ("chainId", .text ("0x" ++ Text.hexadecimal chainId)),
    ("networkVersion", .text (Text.decimal chainId)),
    ("accounts", .array ((w.visible origin).map .text))]

/-- What the wallet's windows start from. -/
def windowState (w : Wallet) (now : String) : Json :=
  .ofFields [
    ("isUnlocked", .bool w.unlocked),
    ("chainId", .text ("0x" ++ Text.hexadecimal chainId)),
    ("identities", .ofDict toJson w.identities),
    ("accountCount", .whole w.accounts.length),
    ("snapshotAt", .text now)]

/-- What the wallet answers. -/
def answer (w : Wallet) : (c : Call) → c.Answer
  | .accounts => w.usable
  | .identities => w.identities
  | .providerState origin => w.providerState origin
  | .addSubject _ => ()
  | .shimUsage origin => w.shims.find? origin
  | .recordShimUsage _ => ()

/-- The wallet after a question. -/
def after (w : Wallet) : Call → Wallet
  | .addSubject subject => { w with subjects := w.subjects.put subject.origin subject }
  | .recordShimUsage origin => { w with shims := w.shims.put origin .recorded }
  | _ => w

/-- The wallet as a service that never refuses. -/
def service : Service Wallet where
  serve c w := (.ok (w.answer c), w.after c)
  snapshot now w := (.ok (w.windowState now), w)

end Wallet

end WalletGate
