import WalletGate.Dict
import WalletGate.Json.Basic
/-!
# Session stores

A session store keeps JSON values under keys. What it does with its state is its own affair; the
store in memory keeps a dictionary and never fails.
-/

namespace WalletGate.Session

/-- Why a store does not do what it is asked. -/
inductive Fault where
  | invalidKey (key : String)
  /-- The storage cannot be read or written. -/
  | storage
  /-- What is stored is not JSON. -/
  | content
deriving DecidableEq, Repr

def Fault.message : Fault → String
  | invalidKey key => "Invalid session key `" ++ key ++ "`"
  | storage => "Session storage I/O error"
  | content => "Session storage JSON error"

/-- A store with states in `σ`. -/
structure Store (σ : Type) where
  set : String → Json → σ → Except Fault Unit × σ
  get : String → σ → Except Fault (Option Json)
  /-- Whether the storage can be used. -/
  isAvailable : σ → Bool

/-- The store in memory. -/
def memory : Store (Dict Json) where
  set key value d := (.ok (), d.put key value)
  get key d := .ok (d.find? key)
  isAvailable _ := true

end WalletGate.Session
