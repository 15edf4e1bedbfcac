import WalletGate.Host.Connection
/-!
# What an opening does

The connection of a port and the greeting are fixed by the port and the host. What opening a port
does to the state never shows in them, and only the session and the wallet can change.

* `accept_connection`, `accept_opening`: what an opening is answered, whatever the state;
* `accept_bindings`, `accept_wallet`: what an opening leaves as it is.
-/

namespace WalletGate.Host

variable {β σ : Type}

/-! ## The answer -/

theorem accept_connection (h : Host β σ) (now : String) (port : Port) (state : State β σ) :
    (h.accept now port state).1.connection = Connection.ofPort h.policy port := by
  unfold accept
  simp only
  split <;> rfl

theorem accept_opening (h : Host β σ) (now : String) (port : Port) (s t : State β σ) :
    (h.accept now port s).1 = (h.accept now port t).1 := by
  unfold accept
  simp only
  split <;> rfl

/-- The requests of a page carry the origin that its port was classified by. -/
theorem origin_of_external {p : Port.Policy} {port : Port} {tab : Int64} {origin : String}
    (h : (Connection.ofPort p port).kind = .external tab origin) :
    (Connection.ofPort p port).origin = some origin := by
  have hclass : p.classOf port = .external tab origin := h
  unfold Connection.ofPort
  simp only [hclass]

/-! ## The state -/

theorem storeSnapshot_bindings (h : Host β σ) (now : String) (s : State β σ) :
    (h.storeSnapshot now s).bindings = s.bindings := by
  unfold storeSnapshot
  split <;> rfl

/-- Storing the snapshot does to the wallet what taking it does. -/
theorem storeSnapshot_wallet (h : Host β σ) (now : String) (s : State β σ) :
    (h.storeSnapshot now s).wallet = (h.wallet.snapshot now s.wallet).2 := by
  unfold storeSnapshot
  split
  · rename_i heq
    rw [heq]
  · rename_i heq
    rw [heq]

theorem accept_bindings (h : Host β σ) (now : String) (port : Port) (s : State β σ) :
    (h.accept now port s).2.bindings = s.bindings := by
  unfold accept
  simp only
  split
  · exact storeSnapshot_bindings h now s
  · rfl

/-- An opening leaves a wallet as it is that is not changed by taking the snapshot. -/
theorem accept_wallet {h : Host β σ} (hsnapshot : ∀ now w, (h.wallet.snapshot now w).2 = w)
    (now : String) (port : Port) (s : State β σ) :
    (h.accept now port s).2.wallet = s.wallet := by
  unfold accept
  simp only
  split
  · rw [storeSnapshot_wallet, hsnapshot]
  · rfl

end WalletGate.Host
