/-!
# Tab bindings

Which tab of an origin last asked for accounts. Bindings are kept in order of their latest record,
newest first, one for each origin. No more than the capacity are kept, and a capacity of zero counts
as one: the binding recorded longest ago goes first. Looking a binding up changes nothing.
-/

namespace WalletGate.Port

/-- How many bindings are kept unless a number is given. -/
def defaultCapacity : Nat := 4096

structure Bindings where
  capacity : Nat
  /-- Origins with their tabs, the latest record first. -/
  entries : List (String × Int64)
  capacity_pos : 0 < capacity
deriving DecidableEq, Repr

namespace Bindings

/-- No bindings. -/
def empty (capacity : Nat) : Bindings := ⟨max capacity 1, [], by omega⟩

/-- Binds an origin to a tab, in place of any binding it has. -/
def record (b : Bindings) (origin : String) (tab : Int64) : Bindings :=
  { b with
    entries := ((origin, tab) :: b.entries.filter fun entry => entry.1 ≠ origin).take b.capacity }

/-- The tab that an origin is bound to. -/
def tab? (b : Bindings) (origin : String) : Option Int64 :=
  (b.entries.find? fun entry => entry.1 = origin).map (·.2)

/-- How many origins are bound. -/
def size (b : Bindings) : Nat := b.entries.length

/-- Whether no origin is bound. -/
def isEmpty (b : Bindings) : Bool := b.size = 0

end Bindings

end WalletGate.Port
