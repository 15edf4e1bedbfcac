import WalletGate.Proofs.History
/-!
# A wallet that is used meanwhile

A request for the accounts asks the wallet twice, for the accounts and for what the user sees of
them, and others may use the wallet before and between the two questions. That does no harm: what
the user once saw of an account is never taken away, and the accounts are asked for first.

* `Operation`, `shared`: what others do to a wallet, and the wallet in memory with such operations
  before every question;
* `known_afterOperations`: what is known of an account stays known;
* `gives_accounts`: what a request for the accounts comes to on a shared wallet;
* `accounts_amid_operations`: the response to it, whatever others do.
-/

namespace WalletGate

namespace Wallet

/-! ## Operations of others -/

/-- What others do to a wallet: the user changes it, or another request puts a question to it, which
may keep a report or a note. -/
inductive Operation where
  | change (c : Change)
  | question (c : Call)
deriving DecidableEq, Repr

/-- The wallet after an operation. -/
def afterOperation (w : Wallet) : Operation → Wallet
  | .change c => w.apply c
  | .question c => w.after c

/-- The wallet after some operations. -/
def afterOperations (w : Wallet) (ops : List Operation) : Wallet := ops.foldl afterOperation w

/-- The wallet in memory that others use. Each question finds the wallet after the next group of
their operations; when there are no more groups, nobody else uses it. -/
def shared : Service (Wallet × List (List Operation)) where
  serve c s :=
    let w := s.1.afterOperations (s.2.headD [])
    (.ok (w.answer c), (w.after c, s.2.tail))
  snapshot now s :=
    let w := s.1.afterOperations (s.2.headD [])
    (.ok (w.windowState now), (w, s.2.tail))

/-- A change takes nothing away of what is known of the accounts. -/
theorem known_apply {w : Wallet} {a : String} (h : w.identities.find? a ≠ none) (c : Change) :
    (w.apply c).identities.find? a ≠ none := by
  -- No change takes an identity away: one is put or replaced, or none is touched.
  cases c with
  | insert address name lastSelected =>
    have hput : (w.apply (.insert address name lastSelected)).identities =
        w.identities.put address ⟨address, name, lastSelected⟩ := rfl
    rw [hput, Dict.find?_put]
    split
    · simp
    · exact h
  | addAccount address =>
    have hsame : (w.apply (.addAccount address)).identities = w.identities :=
      (Reflects.addAccount_other w address).2
    rw [hsame]
    exact h
  | select address time =>
    have hselect : w.apply (.select address time) = w.select address time := rfl
    rw [hselect, select]
    split
    · rw [Dict.find?_put]
      split
      · simp
      · exact h
    · exact h
  | permit origin addresses => exact h
  | setUnlocked unlocked => exact h

theorem known_afterOperation {w : Wallet} {a : String} (h : w.identities.find? a ≠ none)
    (op : Operation) : (w.afterOperation op).identities.find? a ≠ none := by
  cases op with
  | change c => exact known_apply h c
  | question c =>
    -- Reports and notes are kept apart from what the user sees of the accounts.
    cases c <;> exact h

/-- What is known of an account stays known, whatever is done. -/
theorem known_afterOperations {w : Wallet} {a : String} (h : w.identities.find? a ≠ none)
    (ops : List Operation) : (w.afterOperations ops).identities.find? a ≠ none := by
  induction ops generalizing w with
  | nil => exact h
  | cons op rest ih => exact ih (known_afterOperation h op)

/-- The accounts of a wallet as they are listed, with what was known of them later: all of them are
put in order, unless nothing is known of one of them, then or later. -/
theorem order_afterOperations (w : Wallet) (ops : List Operation) :
    let w' := w.afterOperations ops
    ((∀ a ∈ w.usable, w.identities.find? a ≠ none ∨ w'.identities.find? a ≠ none) →
      ∃ ordered, order w.usable w'.identities = .ok ordered ∧
        ByTime (timeOf w'.identities) w.usable ordered) ∧
    ∀ a, (w.usable.find? fun a =>
        (w.identities.find? a).isNone && (w'.identities.find? a).isNone) = some a →
      order w.usable w'.identities = .error a := by
  intro w'
  -- The second look at the identities comes after the first look at the accounts, so it knows at
  -- least as much.
  have hstays : ∀ a, w.identities.find? a ≠ none → w'.identities.find? a ≠ none := by
    intro a ha
    exact known_afterOperations ha ops
  refine ⟨fun hknown => order_byTime fun a ha => ?_, fun a hfirst => ?_⟩
  · have hlater : w'.identities.find? a ≠ none := by
      rcases hknown a ha with hearlier | hlater
      · exact hstays a hearlier
      · exact hlater
    intro hnone
    exact hlater ((time?_eq_none_iff w'.identities a).1 hnone)
  · -- Nothing is known of an account later only if nothing was known of it before.
    have hsame : (fun a => (w.identities.find? a).isNone && (w'.identities.find? a).isNone) =
        fun a => (time? w'.identities a).isNone := by
      funext a
      unfold time?
      rw [Option.isNone_map]
      cases hlater : w'.identities.find? a with
      | some x => simp
      | none =>
        cases hbefore : w.identities.find? a with
        | none => rfl
        | some x => exact absurd hlater (hstays a (by simp [hbefore]))
    rw [order_eq_error_iff, ← hsame]
    exact hfirst

end Wallet

namespace Rpc

open Wallet (Hook Operation)

/-! ## The request for the accounts -/

/-- The accounts are those of the first question, and what is known of them is the answer to the
second: so they are shown as by a wallet that has the one and the other. -/
theorem gives_accounts {granted : HookSet} (haccounts : granted .getAccounts = true)
    (hidentities : granted .getIdentities = true) (q : Request) (given : Option HookSet)
    (r : Reply) (w : Wallet) (before between : List Operation)
    (later : List (List Operation)) :
    let first := w.afterOperations before
    let second := first.afterOperations between
    (accounts.program q given).Gives Wallet.shared granted r (w, before :: between :: later)
      (shownAccounts { first with identities := second.identities }, (second, later)) := by
  intro first second
  -- The first question takes the operations before it and the second those between, which is all
  -- that a service shared with others can do to the request.
  have hfirst : Wallet.shared.serve .accounts (w, before :: between :: later) =
      (.ok first.usable, (first, between :: later)) := rfl
  have hsecond : Wallet.shared.serve .identities (first, between :: later) =
      (.ok second.identities, (second, later)) := rfl
  refine .answered haccounts hfirst (.answered hidentities hsecond ?_)
  unfold shownAccounts
  have husable : Wallet.usable { first with identities := second.identities } = first.usable := rfl
  rw [husable]
  cases Wallet.order first.usable second.identities with
  | ok ordered => exact .reply _
  | error address => exact .fail _

/-- A request for the accounts at the assembled endpoint, on a shared wallet. -/
theorem answer_accounts_shared {q : Request} (hmethod : q.method = "eth_accounts") (w : Wallet)
    (before between : List Operation) (later : List (List Operation)) :
    let first := w.afterOperations before
    let second := first.afterOperations between
    let o := Endpoint.own.answer Wallet.shared q (w, before :: between :: later)
    o.response = .ofVerdict q (shownAccounts { first with identities := second.identities }) ∧
      o.state = (second, later) := by
  intro first second o
  have hown : accounts ∈ ownHandlers := by simp [ownHandlers]
  have hclaims : q.method ∈ accounts.methods := List.mem_singleton.2 hmethod
  rcases Endpoint.answer_cases Wallet.shared q (w, before :: between :: later) with
    ⟨hforbidden, _⟩ | ⟨_, hnobody, _⟩ | ⟨_, h, hh, hhclaims, granted, given, hgranted, hanswer⟩
  · rw [hmethod] at hforbidden
    exact absurd hforbidden (by decide)
  · exact absurd hclaims (hnobody accounts hown)
  · -- The method has one handler.
    have hsame : h = accounts := by
      have hfind := Methods.find?_of_mem_own hh hhclaims
      rw [Methods.find?_of_mem_own hown hclaims] at hfind
      exact (Option.some.inj hfind).symm
    subst hsame
    exact hanswer _ (gives_accounts (hgranted _ rfl _ rfl) (hgranted _ rfl _ rfl) q given
      (.answering q) w before between later)

/-- A request for the accounts while others use the wallet, for any wallet and any operations before
the first question, between the two and after them. If something is known of every listed account at
one of the two questions, the request is answered by exactly the accounts that were listed at the
first one, in order of the times that were known at the second. Otherwise it is answered by an error
that names the first listed account of which nothing was known at either. So a wallet that knows all
its accounts is never found to miss one. The request itself leaves the wallet as the others do. -/
theorem accounts_amid_operations (q : Request) (w : Wallet) (before between : List Operation)
    (later : List (List Operation)) :
    let first := w.afterOperations before
    let second := first.afterOperations between
    let o := Endpoint.own.answer Wallet.shared { q with method := "eth_accounts" }
      (w, before :: between :: later)
    ((∀ a ∈ first.usable,
        first.identities.find? a ≠ none ∨ second.identities.find? a ≠ none) →
      ∃ ordered : List String,
        o.response = ⟨version, q.id, some (.array (ordered.map .text)), none⟩ ∧
        ∀ l, Wallet.ByTime (Wallet.timeOf second.identities) first.usable l ↔ l = ordered) ∧
    (∀ a, (first.usable.find? fun a =>
        (first.identities.find? a).isNone && (second.identities.find? a).isNone) = some a →
      o.response = ⟨version, q.id, none,
        some ⟨-32603, "Missing identity for address: \"" ++ a ++ "\".", none⟩⟩) ∧
    ((∀ a ∈ first.accounts, first.identities.find? a ≠ none) → o.response.error = none) ∧
    o.state = (second, later) := by
  intro first second o
  obtain ⟨hresponse, hstate⟩ := answer_accounts_shared (q := { q with method := "eth_accounts" })
    rfl w before between later
  obtain ⟨hordered, hmissing⟩ := Wallet.order_afterOperations first between
  -- Which accounts can be used was asked first, so operations between the two questions have no
  -- part in it.
  have husable : Wallet.usable { first with identities := second.identities } = first.usable := rfl
  have hshown : (∀ a ∈ first.usable,
        first.identities.find? a ≠ none ∨ second.identities.find? a ≠ none) →
      ∃ ordered : List String,
        o.response = ⟨version, q.id, some (.array (ordered.map .text)), none⟩ ∧
        ∀ l, Wallet.ByTime (Wallet.timeOf second.identities) first.usable l ↔ l = ordered := by
    intro hknown
    obtain ⟨ordered, horder, hbyTime⟩ := hordered hknown
    refine ⟨ordered, ?_, hbyTime.iff_eq⟩
    rw [hresponse, shownAccounts, husable, horder]
    rfl
  refine ⟨hshown, fun a hfirst => ?_, fun hall => ?_, hstate⟩
  · rw [hresponse, shownAccounts, husable, hmissing a hfirst]
    rfl
  · -- The accounts that can be used are among all accounts.
    have hknown : ∀ a ∈ first.usable,
        first.identities.find? a ≠ none ∨ second.identities.find? a ≠ none := by
      intro a ha
      unfold Wallet.usable at ha
      split at ha
      · exact .inl (hall a ha)
      · cases ha
    obtain ⟨ordered, hanswered, _⟩ := hshown hknown
    rw [hanswered]

end Rpc

end WalletGate
