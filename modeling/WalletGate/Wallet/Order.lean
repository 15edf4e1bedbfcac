import WalletGate.Wallet.Account
/-!
# The order of accounts

Accounts are shown by the time at which the user last selected them, the latest first and those
never selected last. Accounts of one time keep their order.
-/

namespace WalletGate.Wallet

/-- Whether an account of the first time may stand before one of the second. -/
def mayPrecede : Option Int64 → Option Int64 → Bool
  | _, none => true
  | none, some _ => false
  | some a, some b => b ≤ a

/-- The accounts with their times, or the first account that nothing is known of. -/
def times (identities : Dict Identity) : List String → Except String (List (Option Int64 × String))
  | [] => .ok []
  | address :: rest =>
    match identities.find? address with
    | none => .error address
    | some x => (times identities rest).map ((x.lastSelected, address) :: ·)

/-- The accounts in order, or the first one that nothing is known of. -/
def order (accounts : List String) (identities : Dict Identity) : Except String (List String) :=
  (times identities accounts).map fun timed =>
    (timed.mergeSort fun a b => mayPrecede a.1 b.1).map (·.2)

end WalletGate.Wallet
