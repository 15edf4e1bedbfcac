import WalletGate.Proofs.Answers
import WalletGate.Proofs.Isolation
import WalletGate.Proofs.Order
/-!
# What replies can show of a wallet

A page learns of a wallet what the replies to its frames show, and that is little: whether the
wallet is locked and, if it is not, the accounts that are permitted to the page, the list of
accounts, and the time of each account on it. Two wallets that are alike in this cannot be told
apart by any frames.

* `LookAlike`: two wallets are alike in all that an origin is shown of them;
* `verdict_alike`: wallets that look alike come to one verdict on a request;
* `frames_alike`: so the frames of any connections are answered alike, one after the other;
* `replies_disclose`: the same with what it means for locked wallets, and for names, for the
  permissions of others, and for all that sites report or have noted on them.
-/

namespace WalletGate

/-! ## Wallets that look alike -/

namespace Wallet

/-- The wallets are locked alike and, if they are not locked, permit the origin the same accounts,
list the same accounts, and know the same times of these. -/
structure LookAlike (o : Option String) (w w' : Wallet) : Prop where
  unlocked : w.unlocked = w'.unlocked
  permitted : w.unlocked = true → ∀ origin ∈ o, w.permitted.find? origin = w'.permitted.find? origin
  accounts : w.unlocked = true → w.accounts = w'.accounts
  times : w.unlocked = true → ∀ a ∈ w.accounts, time? w.identities a = time? w'.identities a

namespace LookAlike

variable {o : Option String} {w w' v v' : Wallet}

/-- Locked wallets look alike, whatever they hold. -/
theorem of_locked (hw : w.unlocked = false) (hw' : w'.unlocked = false) (o : Option String) :
    LookAlike o w w' := by
  have hopen : w.unlocked ≠ true := by simp [hw]
  exact ⟨hw.trans hw'.symm, fun h => absurd h hopen, fun h => absurd h hopen,
    fun h => absurd h hopen⟩

/-- Wallets that look alike are shown alike, as accounts in order or as the fault of one of them. -/
theorem shownAccounts_eq (h : LookAlike o w w') : Rpc.shownAccounts w = Rpc.shownAccounts w' := by
  have horder : order w.usable w.identities = order w'.usable w'.identities := by
    unfold usable
    rw [← h.unlocked]
    cases hopen : w.unlocked with
    | false => rfl
    | true =>
      simp only [if_true]
      rw [← h.accounts hopen]
      exact order_congr (h.times hopen)
  unfold Rpc.shownAccounts
  rw [horder]

theorem providerState_eq {origin : String} (h : LookAlike (some origin) w w') :
    w.providerState origin = w'.providerState origin := by
  have hvisible : w.visible origin = w'.visible origin := by
    unfold visible
    rw [← h.unlocked]
    cases hopen : w.unlocked with
    | false => rfl
    | true =>
      simp only [if_true]
      rw [h.permitted hopen origin rfl]
  unfold providerState
  rw [h.unlocked, hvisible]

/-- Notes do not show. -/
theorem noted (h : LookAlike o w w') {q q' : Rpc.Request} (hv : Rpc.Noted q w v)
    (hv' : Rpc.Noted q' w' v') : LookAlike o v v' := by
  obtain ⟨hunlocked, haccounts, hidentities, hpermitted⟩ := hv.accounts_eq
  obtain ⟨hunlocked', haccounts', hidentities', hpermitted'⟩ := hv'.accounts_eq
  constructor
  · rw [hunlocked, hunlocked', h.unlocked]
  · rw [hunlocked, hpermitted, hpermitted']
    exact h.permitted
  · rw [hunlocked, haccounts, haccounts']
    exact h.accounts
  · rw [hunlocked, haccounts, hidentities, hidentities']
    exact h.times

end LookAlike

end Wallet

namespace Rpc

/-- Wallets that look alike to the origin of a request come to one verdict on it. That one of them
may note the use of the legacy interface where the other has the note already does not show. -/
theorem verdict_alike {q : Request} {w w' : Wallet} (h : Wallet.LookAlike q.origin w w') :
    (verdict q w).1 = (verdict q w').1 := by
  -- The reply to each method is made of what looks alike, or of the request alone.
  unfold verdict decideFor
  split
  · rfl
  · split
    · exact h.shownAccounts_eq
    · cases horigin : q.origin with
      | none => rfl
      | some origin =>
        rw [horigin] at h
        exact congrArg Except.ok h.providerState_eq
    · cases q.origin with
      | none => rfl
      | some origin =>
        -- What a site reports is answered by what it says, not by what is kept.
        cases SiteReport.ofParams q.params with
        | error fault => rfl
        | ok report => rfl
    · cases q.origin with
      | none => rfl
      | some origin => rfl
    · rfl

end Rpc

/-! ## Frames -/

namespace Host

variable {σ : Type}

section Frames

variable (cfg : Settings) (session : Session.Store σ)

/-- A frame is answered alike by wallets that look alike to its connection, and they go on looking
alike to every connection. -/
theorem receive_alike {connections : List Connection} {c : Connection} (hc : c ∈ connections)
    (text : String) {s t : State Wallet σ}
    (halike : ∀ c ∈ connections, Wallet.LookAlike c.origin s.wallet t.wallet) :
    ((inMemory cfg session).receive c text s).1 = ((inMemory cfg session).receive c text t).1 ∧
      ∀ c' ∈ connections, Wallet.LookAlike c'.origin
        ((inMemory cfg session).receive c text s).2.wallet
        ((inMemory cfg session).receive c text t).2.wallet := by
  refine receive_of_answers
    (R := fun v w => ∀ c ∈ connections, Wallet.LookAlike c.origin v w)
    (fun q v w horigin hvw => ?_) text halike
  -- The endpoint comes to the verdict on both wallets, and what it notes is under the same origin
  -- in both.
  obtain ⟨hresponse, hstate⟩ := Rpc.Endpoint.answer_eq_verdict q v
  obtain ⟨hresponse', hstate'⟩ := Rpc.Endpoint.answer_eq_verdict q w
  have hown : (inMemory cfg session).endpoint = Rpc.Endpoint.own := rfl
  have hservice : (inMemory cfg session).wallet = Wallet.service := rfl
  rw [hown, hservice, hresponse, hresponse', hstate, hstate']
  constructor
  · rw [Rpc.verdict_alike (horigin ▸ hvw c hc)]
  · intro c' hc'
    exact (hvw c' hc').noted (Rpc.noted_verdict q v) (Rpc.noted_verdict q w)

/-- The replies to some frames on some connections, in order. -/
def Run.repliesTo (h : Host Wallet σ) (connections : List Connection)
    (frames : List (Nat × String)) (s : State Wallet σ) : List Reply :=
  ((⟨s, connections⟩ : Run σ).steps h (frames.map fun f => .frame f.1 f.2)).1

/-- Frames are answered alike by wallets that look alike to every connection. -/
theorem frames_alike (connections : List Connection) (frames : List (Nat × String))
    {s t : State Wallet σ}
    (halike : ∀ c ∈ connections, Wallet.LookAlike c.origin s.wallet t.wallet) :
    Run.repliesTo (inMemory cfg session) connections frames s =
      Run.repliesTo (inMemory cfg session) connections frames t := by
  -- Induction on the frames: each is answered alike, and the wallets go on looking alike.
  induction frames generalizing s t with
  | nil => rfl
  | cons f rest ih =>
    obtain ⟨number, text⟩ := f
    unfold Run.repliesTo at ih ⊢
    rw [List.map_cons, Run.steps, Run.steps]
    cases hc : connections[number]? with
    | none =>
      rw [Run.step_frame_of_none _ hc, Run.step_frame_of_none _ hc]
      simp only
      rw [ih halike]
    | some c =>
      obtain ⟨hreply, hafter⟩ :=
        receive_alike cfg session (List.mem_of_getElem? hc) text halike
      rw [Run.step_frame _ hc, Run.step_frame _ hc]
      simp only
      rw [hreply, ih hafter]

end Frames

/-- No frames on any connections tell two wallets in memory apart that look alike to the origins of
these connections. So no frames tell two locked wallets apart. And the replies do not depend on the
names of accounts, on what is permitted to other origins, on what sites report, or on what has been
noted on them. -/
theorem replies_disclose (cfg : Settings) (session : Session.Store σ)
    (connections : List Connection) (frames : List (Nat × String)) (s t : State Wallet σ) :
    let replies := Run.repliesTo (inMemory cfg session) connections frames
    ((∀ c ∈ connections, Wallet.LookAlike c.origin s.wallet t.wallet) → replies s = replies t) ∧
    (s.wallet.unlocked = false → t.wallet.unlocked = false → replies s = replies t) ∧
    (∀ identities permitted subjects shims,
      (∀ a, Wallet.time? identities a = Wallet.time? s.wallet.identities a) →
      (∀ c ∈ connections, ∀ origin ∈ c.origin,
        permitted.find? origin = s.wallet.permitted.find? origin) →
      replies { s with wallet := { s.wallet with identities, permitted, subjects, shims } } =
        replies s) := by
  intro replies
  refine ⟨fun halike => frames_alike cfg session connections frames halike, fun hs ht => ?_,
    fun identities permitted subjects shims htimes hpermitted => ?_⟩
  · exact frames_alike cfg session connections frames fun c _ => .of_locked hs ht c.origin
  · refine frames_alike cfg session connections frames fun c hc => ?_
    exact ⟨rfl, fun _ => hpermitted c hc, fun _ => rfl, fun _ a _ => htimes a⟩

end Host

end WalletGate
