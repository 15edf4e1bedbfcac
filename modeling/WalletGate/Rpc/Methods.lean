import WalletGate.Rpc.Program
/-!
# Method tables

Which handler answers to a method. Handlers come in groups, and of two that claim a method the first
one keeps it; the other keeps the methods that no one claimed before.
-/

namespace WalletGate.Rpc

/-- Answers to some methods. -/
structure Handler where
  methods : List String
  /-- The hooks it asks for; none if it does without the wallet. -/
  hooks : Option HookSet
  /-- What it does for a request, given the hooks it was granted. -/
  program : Request → Option HookSet → Program

/-- The handler of each method. -/
structure Methods where
  table : Dict Handler

namespace Methods

/-- Claims a method for a handler unless it is taken. -/
def claim (h : Handler) (m : Methods) (method : String) : Methods :=
  if m.table.contains method then m else ⟨m.table.put method h⟩

/-- Claims all methods of a handler. -/
def register (m : Methods) (h : Handler) : Methods := h.methods.foldl (claim h) m

/-- The table of all groups, in order. -/
def ofGroups (groups : List (List Handler)) : Methods := groups.flatten.foldl register ⟨∅⟩

/-- The handler of a method. -/
def find? (m : Methods) (method : String) : Option Handler := m.table.find? method

def contains (m : Methods) (method : String) : Bool := m.table.contains method

/-- The methods that have a handler, in increasing order. -/
def names (m : Methods) : List String := m.table.keys

def size (m : Methods) : Nat := m.table.size

end Methods

end WalletGate.Rpc
