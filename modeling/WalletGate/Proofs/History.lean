import Mathlib.Data.List.Induction
import WalletGate.Proofs.Answers
import WalletGate.Proofs.Order
/-!
# Accounts over a history

What the user has done to a wallet, in whatever order, decides which accounts it shows: the
addresses in the order in which they were first added, and for each the last time that was set for
it. Requests in between have no part in it.

* `added`, `inserted`, `lastTime`, `isUnlocked`: what a history says of the accounts, read off its
  events without running them;
* `Reflects`: a wallet is what a history says it is; `Reflects.concat` adds one event and
  `reflects_afterEvents` any number of them;
* `accounts_of_history`: the reply to a request for the accounts after any history.
-/

namespace WalletGate

namespace Wallet

/-! ## Histories -/

/-- What can happen to a wallet: the user changes it, or the host answers a request. -/
inductive Event where
  | change (c : Change)
  | request (q : Rpc.Request)

/-- The wallet after an event. -/
def afterEvent (w : Wallet) : Event → Wallet
  | .change c => w.apply c
  | .request q => (Rpc.Endpoint.own.answer service q w).state

/-- The wallet after some events. -/
def afterEvents (w : Wallet) (events : List Event) : Wallet := events.foldl afterEvent w

/-- The responses to the requests among some events, in order. -/
def responses (w : Wallet) : List Event → List Rpc.Response
  | [] => []
  | .change c :: rest => (w.apply c).responses rest
  | .request q :: rest =>
    (Rpc.Endpoint.own.answer service q w).response :: (w.afterEvent (.request q)).responses rest

namespace Event

/-- The address that an event adds, unless it is there. -/
def added? : Event → Option String
  | change (.insert address _ _) | change (.addAccount address) => some address
  | _ => none

/-- The address of which an event makes something known. -/
def inserted? : Event → Option String
  | change (.insert address _ _) => some address
  | _ => none

/-- The time that an event sets for an account: an insertion sets it or clears it, a selection sets
it. -/
def time? (a : String) : Event → Option (Option Int64)
  | change (.insert address _ time) => if address = a then some time else none
  | change (.select address time) => if address = a then some (some time) else none
  | _ => none

/-- Whether an event leaves the wallet unlocked, if it is about that. -/
def unlocks? : Event → Option Bool
  | change (.setUnlocked unlocked) => some unlocked
  | _ => none

end Event

/-- The addresses that a history adds, in order and with repetitions. -/
def added (events : List Event) : List String := events.filterMap Event.added?

/-- The addresses that a history inserts together with what the user sees of them. -/
def inserted (events : List Event) : List String := events.filterMap Event.inserted?

/-- The time that was set last for an account. If the account was ever inserted, that is the time of
its latest insertion or of a selection after that: a selection before the first insertion is never
the last that is said of it. -/
def lastTime (events : List Event) (a : String) : Option Int64 :=
  (events.filterMap (Event.time? a)).getLast?.join

/-- Whether a history leaves a wallet unlocked that was unlocked before it. -/
def isUnlocked (events : List Event) : Bool := (events.filterMap Event.unlocks?).getLast?.getD true

section Concat

variable (events : List Event) (e : Event) (a : String)

theorem added_concat : added (events ++ [e]) = added events ++ e.added?.toList := by
  unfold added
  rw [List.filterMap_append]
  cases h : e.added? <;> simp [h]

theorem inserted_concat : inserted (events ++ [e]) = inserted events ++ e.inserted?.toList := by
  unfold inserted
  rw [List.filterMap_append]
  cases h : e.inserted? <;> simp [h]

theorem lastTime_concat :
    lastTime (events ++ [e]) a = (e.time? a).getD (lastTime events a) := by
  unfold lastTime
  rw [List.filterMap_append]
  cases h : e.time? a <;> simp [h]

theorem isUnlocked_concat :
    isUnlocked (events ++ [e]) = e.unlocks?.getD (isUnlocked events) := by
  unfold isUnlocked
  rw [List.filterMap_append]
  cases h : e.unlocks? <;> simp [h]

end Concat

/-- Whatever is inserted is added. -/
theorem mem_added_of_mem_inserted {events : List Event} {a : String} (h : a ∈ inserted events) :
    a ∈ added events := by
  obtain ⟨e, he, hinserted⟩ := List.mem_filterMap.1 h
  refine List.mem_filterMap.2 ⟨e, he, ?_⟩
  unfold Event.inserted? at hinserted
  split at hinserted
  · exact hinserted
  · exact absurd hinserted (by simp)

/-- One more element joins those that are kept without repetition, unless it is there. -/
theorem eraseDups_concat (as : List String) (a : String) :
    (as ++ [a]).eraseDups = if a ∈ as then as.eraseDups else as.eraseDups ++ [a] := by
  rw [List.eraseDups_append]
  by_cases h : a ∈ as
  · have hnone : [a].removeAll as = [] := by simp [List.removeAll, h]
    rw [if_pos h, hnone]
    simp
  · have hone : [a].removeAll as = [a] := by simp [List.removeAll, h]
    rw [if_neg h, hone]
    rfl

/-- The first element of a kind is the first of that kind among those that are kept. -/
theorem find?_eraseDups (as : List String) (p : String → Bool) :
    as.eraseDups.find? p = as.find? p := by
  induction as using List.reverseRecOn with
  | nil => rfl
  | append_singleton as a ih =>
    rw [eraseDups_concat, List.find?_append, ← ih]
    by_cases h : a ∈ as
    · -- A repeated element is never the first of its kind.
      rw [if_pos h, ih]
      cases hfirst : as.find? p with
      | some b => rfl
      | none =>
        have hnot : ¬p a = true := List.find?_eq_none.1 hfirst a h
        simp [hnot]
    · rw [if_neg h, List.find?_append]

/-! ## Wallets that reflect a history -/

/-- The wallet is what the history says it is. -/
structure Reflects (events : List Event) (w : Wallet) : Prop where
  unlocked : w.unlocked = isUnlocked events
  nodup : w.accounts.Nodup
  accounts : w.accounts = (added events).eraseDups
  address : ∀ a x, w.identities.find? a = some x → x.address = a
  times : ∀ a, time? w.identities a =
    if a ∈ inserted events then some (lastTime events a) else none

namespace Reflects

variable {events : List Event} {w : Wallet}

theorem mem_accounts (h : Reflects events w) (a : String) : a ∈ w.accounts ↔ a ∈ added events := by
  rw [h.accounts]
  exact List.mem_eraseDups

theorem known_iff (h : Reflects events w) (a : String) :
    time? w.identities a ≠ none ↔ a ∈ inserted events := by
  rw [h.times]
  split <;> simp_all

/-- An event that says nothing of the accounts may leave the wallet as it is. -/
theorem silent (h : Reflects events w) {e : Event} {w' : Wallet} (hadded : e.added? = none)
    (hinserted : e.inserted? = none)
    (htime : ∀ a ∈ inserted events, e.time? a = none)
    (hunlocked : w'.unlocked = e.unlocks?.getD w.unlocked) (haccounts : w'.accounts = w.accounts)
    (hidentities : w'.identities = w.identities) : Reflects (events ++ [e]) w' := by
  -- The clauses of the invariant one by one. The event adds and inserts nothing, and sets no time
  -- for an account that was inserted, so each reads as before.
  constructor
  · rw [hunlocked, isUnlocked_concat, h.unlocked]
  · rw [haccounts]
    exact h.nodup
  · rw [haccounts, added_concat, hadded, h.accounts]
    simp
  · rw [hidentities]
    exact h.address
  -- For an account that was never inserted no time is kept, whatever times were set.
  · intro a
    rw [hidentities, inserted_concat, hinserted, lastTime_concat, h.times]
    by_cases ha : a ∈ inserted events
    · simp [ha, htime a ha]
    · simp [ha]

/-- An address joins the accounts unless it is there. -/
theorem addAccount_accounts (h : Reflects events w) (a : String) :
    (w.addAccount a).accounts = (added events ++ [a]).eraseDups ∧
      (w.addAccount a).accounts.Nodup := by
  -- Whether an address is new to the wallet is whether it is new to the history.
  rw [eraseDups_concat]
  unfold addAccount
  by_cases ha : a ∈ w.accounts
  · rw [if_pos ha, if_pos ((h.mem_accounts a).1 ha)]
    exact ⟨h.accounts, h.nodup⟩
  · rw [if_neg ha, if_neg (mt (h.mem_accounts a).2 ha)]
    constructor
    · rw [h.accounts]
    · -- The new address comes last, and it is none of those before it.
      rw [List.nodup_append]
      refine ⟨h.nodup, List.pairwise_singleton _ a, fun x hx y hy hxy => ha ?_⟩
      rw [← List.mem_singleton.1 hy, ← hxy]
      exact hx

theorem addAccount_other (w : Wallet) (a : String) :
    (w.addAccount a).unlocked = w.unlocked ∧ (w.addAccount a).identities = w.identities := by
  unfold addAccount
  split
  · exact ⟨rfl, rfl⟩
  · exact ⟨rfl, rfl⟩

/-- What the user sees of one account is written, with its own address and a time. -/
theorem times_put (identities : Dict Identity) (address a : String) (x : Identity) :
    time? (identities.put address x) a =
      if a = address then some x.lastSelected else time? identities a := by
  unfold time?
  rw [Dict.find?_put]
  split
  · rfl
  · rfl

theorem insert (h : Reflects events w) (address name : String) (time : Option Int64) :
    Reflects (events ++ [.change (.insert address name time)]) (w.insert address name time) := by
  obtain ⟨haccounts, hnodup⟩ := h.addAccount_accounts address
  -- The account comes as by an addition; besides, it is known from now on, and the time is its own.
  constructor
  · rw [isUnlocked_concat]
    exact (addAccount_other w address).1.trans h.unlocked
  · exact hnodup
  · rw [added_concat]
    exact haccounts
  · intro a x hx
    have hput : (w.insert address name time).identities =
        w.identities.put address ⟨address, name, time⟩ := rfl
    rw [hput, Dict.find?_put] at hx
    split at hx
    · rename_i ha
      rw [← Option.some.inj hx, ha]
    · exact h.address a x hx
  · intro a
    have hput : (w.insert address name time).identities =
        w.identities.put address ⟨address, name, time⟩ := rfl
    rw [hput, times_put, inserted_concat, lastTime_concat, h.times]
    simp only [Event.inserted?, Event.time?, Option.toList_some, List.mem_append,
      List.mem_singleton]
    by_cases ha : a = address
    · simp [ha]
    · simp [ha, Ne.symm ha]

theorem addAccount (h : Reflects events w) (address : String) :
    Reflects (events ++ [.change (.addAccount address)]) (w.addAccount address) := by
  obtain ⟨haccounts, hnodup⟩ := h.addAccount_accounts address
  obtain ⟨hunlocked, hidentities⟩ := addAccount_other w address
  constructor
  · rw [hunlocked, isUnlocked_concat]
    exact h.unlocked
  · exact hnodup
  · rw [added_concat]
    exact haccounts
  · rw [hidentities]
    exact h.address
  · intro a
    rw [hidentities, inserted_concat, lastTime_concat, h.times]
    simp [Event.inserted?, Event.time?]

theorem select (h : Reflects events w) (address : String) (time : Int64) :
    Reflects (events ++ [.change (.select address time)]) (w.select address time) := by
  unfold Wallet.select
  cases hfind : w.identities.find? address with
  | none =>
    -- Nothing is known of the account, so it was never inserted and the selection says nothing.
    refine h.silent rfl rfl (fun a ha => ?_) rfl rfl rfl
    have hne : address ≠ a := by
      rintro rfl
      have hknown := (h.known_iff address).2 ha
      unfold time? at hknown
      rw [hfind] at hknown
      exact hknown rfl
    simp [Event.time?, hne]
  -- The account is known, so only its time changes, and the address that it is known under stays.
  | some x =>
    have hinserted : address ∈ inserted events := by
      rw [← h.known_iff]
      unfold time?
      rw [hfind]
      simp
    constructor
    · rw [isUnlocked_concat]
      exact h.unlocked
    · exact h.nodup
    · rw [added_concat]
      simp only [Event.added?, Option.toList_none, List.append_nil]
      exact h.accounts
    · intro a y hy
      simp only [Dict.find?_put] at hy
      split at hy
      · rename_i ha
        rw [← Option.some.inj hy, ha]
        exact h.address address x hfind
      · exact h.address a y hy
    · intro a
      simp only [times_put]
      rw [inserted_concat, lastTime_concat, h.times]
      simp only [Event.inserted?, Event.time?, Option.toList_none, List.append_nil]
      by_cases ha : a = address
      · simp [ha, hinserted]
      · simp [ha, Ne.symm ha]

/-- One more event makes of the wallet what it makes of the history. -/
theorem concat (h : Reflects events w) (e : Event) :
    Reflects (events ++ [e]) (w.afterEvent e) := by
  -- By the kind of the event; each kind has its lemma, and those that concern no account are
  -- silent.
  cases e with
  | change c =>
    cases c with
    | insert address name time => exact h.insert address name time
    | addAccount address => exact h.addAccount address
    | select address time => exact h.select address time
    | permit origin addresses => exact h.silent rfl rfl (fun _ _ => rfl) rfl rfl rfl
    | setUnlocked unlocked => exact h.silent rfl rfl (fun _ _ => rfl) rfl rfl rfl
  | request q =>
    -- A request leaves no more than a note.
    have hstate : w.afterEvent (.request q) = (Rpc.verdict q w).2 :=
      (Rpc.Endpoint.answer_eq_verdict q w).2
    obtain ⟨hunlocked, haccounts, hidentities, _⟩ := (Rpc.noted_verdict q w).accounts_eq
    rw [hstate]
    exact h.silent rfl rfl (fun _ _ => rfl) hunlocked haccounts hidentities

end Reflects

/-- After any history a wallet that was empty reflects it. -/
theorem reflects_afterEvents (events : List Event) :
    Reflects events (empty.afterEvents events) := by
  -- What was done last is on the right, so the induction takes the history apart from there.
  induction events using List.reverseRecOn with
  | nil =>
    refine ⟨rfl, List.nodup_nil, rfl, fun a x hx => ?_, fun a => rfl⟩
    exact absurd hx (by simp [afterEvents, empty])
  | append_singleton events e ih =>
    have hsnoc : empty.afterEvents (events ++ [e]) = (empty.afterEvents events).afterEvent e := by
      unfold afterEvents
      rw [List.foldl_append]
      rfl
    rw [hsnoc]
    exact ih.concat e

/-! ## The reply to a request for the accounts -/

/-- A request for the accounts is answered by what the wallet shows. -/
theorem answer_accounts {q : Rpc.Request} (hmethod : q.method = "eth_accounts") (w : Wallet) :
    (Rpc.Endpoint.own.answer service q w).response = .ofVerdict q (Rpc.shownAccounts w) := by
  have hverdict : Rpc.verdict q w = (Rpc.shownAccounts w, w) := by
    unfold Rpc.verdict
    rw [hmethod]
    rfl
  rw [(Rpc.Endpoint.answer_eq_verdict q w).1, hverdict]

namespace Reflects

variable {events : List Event} {w : Wallet}

theorem usable_eq (h : Reflects events w) :
    w.usable = if isUnlocked events then (added events).eraseDups else [] := by
  unfold usable
  rw [h.unlocked, h.accounts]

theorem shownAccounts_of_locked (h : Reflects events w) (hlocked : isUnlocked events = false) :
    Rpc.shownAccounts w = .ok (.array []) := by
  have husable : w.usable = [] := by
    rw [h.usable_eq, hlocked]
    rfl
  unfold Rpc.shownAccounts
  rw [husable, order_nil]
  rfl

/-- The earliest address of which nothing was ever made known stands for the fault. -/
theorem shownAccounts_of_unknown (h : Reflects events w) (hopen : isUnlocked events = true)
    {a : String} (hfirst : (added events).find? (fun a => a ∉ inserted events) = some a) :
    Rpc.shownAccounts w = .error (.missingIdentity a) := by
  have husable : w.usable = (added events).eraseDups := by
    rw [h.usable_eq, hopen]
    rfl
  -- An account without an identity is one that was never inserted.
  have hsame : (fun a => (time? w.identities a).isNone) =
      fun a => decide (a ∉ inserted events) := by
    funext a
    rw [h.times]
    by_cases ha : a ∈ inserted events <;> simp [ha]
  have herror : order w.usable w.identities = .error a := by
    rw [order_eq_error_iff, husable, hsame, ← hfirst]
    exact find?_eraseDups _ _
  unfold Rpc.shownAccounts
  rw [herror]

/-- If every added address was inserted, all of them are shown in order of their last times. -/
theorem shownAccounts_of_known (h : Reflects events w) (hopen : isUnlocked events = true)
    (hall : ∀ a ∈ added events, a ∈ inserted events) :
    ∃ ordered : List String, Rpc.shownAccounts w = .ok (.array (ordered.map .text)) ∧
      ordered.Nodup ∧ (∀ a, a ∈ ordered ↔ a ∈ inserted events) ∧
      ByTime (lastTime events) (added events).eraseDups ordered := by
  have husable : w.usable = w.accounts := by
    rw [h.usable_eq, hopen, h.accounts]
    rfl
  -- Every account was inserted, so every one has an identity and the order is total.
  have hinserted : ∀ a ∈ w.accounts, a ∈ inserted events := fun a ha =>
    hall a ((h.mem_accounts a).1 ha)
  obtain ⟨ordered, horder, hbyTime⟩ :=
    order_byTime fun a ha => (h.known_iff a).2 (hinserted a ha)
  have hshown : Rpc.shownAccounts w = .ok (.array (ordered.map .text)) := by
    unfold Rpc.shownAccounts
    rw [husable, horder]
  have hmem : ∀ a, a ∈ ordered ↔ a ∈ w.accounts := fun a => hbyTime.perm.mem_iff
  refine ⟨ordered, hshown, hbyTime.perm.nodup_iff.2 h.nodup, fun a => ?_, ?_⟩
  · rw [hmem]
    constructor
    · exact hinserted a
    · intro ha
      exact (h.mem_accounts a).2 (mem_added_of_mem_inserted ha)
  · -- The time of an account in the wallet is the last one that was set for it.
    rw [← h.accounts]
    refine hbyTime.congr fun a ha => ?_
    unfold timeOf
    rw [h.times, if_pos (hinserted a ha)]
    rfl

end Reflects

/-- Locking an unlocked wallet and unlocking it again leaves it as it was; and a wallet that is
unlocked next might as well not have been locked before. -/
theorem lock_unlock (w : Wallet) :
    (w.apply (.setUnlocked false)).apply (.setUnlocked true) = w.apply (.setUnlocked true) ∧
      (w.unlocked = true → w.apply (.setUnlocked true) = w) := by
  refine ⟨rfl, fun hopen => ?_⟩
  unfold apply setUnlocked
  rw [← hopen]

/-- The accounts of a wallet that began empty, after any history of changes and requests. They are
the added addresses, each once and in the order of their first addition; what is known of an account
is kept under its own address, and the account is listed. A request for the accounts is answered by
no accounts if the history leaves the wallet locked. Otherwise, if an address was added and never
inserted, it is answered by an error that names the earliest such address. Otherwise it is answered
by the inserted addresses, each once, in order of the times that were last set for them, those
without a time last and those of one time in the order of their first addition. To select an account
of which nothing is known changes nothing; and no later response shows that an unlocked wallet was
locked and unlocked again, or that any wallet was locked before it was unlocked. -/
theorem accounts_of_history (events : List Event) :
    let w := empty.afterEvents events
    (w.accounts.Nodup ∧ w.accounts = (added events).eraseDups) ∧
    (∀ a x, w.identities.find? a = some x → x.address = a ∧ a ∈ w.accounts) ∧
    (∀ q : Rpc.Request, q.method = "eth_accounts" →
      let r := (Rpc.Endpoint.own.answer service q w).response
      (isUnlocked events = false → r.result = some (.array []) ∧ r.error = none) ∧
      (isUnlocked events = true → ∀ a,
        (added events).find? (fun a => a ∉ inserted events) = some a →
        r.result = none ∧
          r.error = some ⟨-32603, "Missing identity for address: \"" ++ a ++ "\".", none⟩) ∧
      (isUnlocked events = true → (∀ a ∈ added events, a ∈ inserted events) →
        ∃ ordered : List String, r.result = some (.array (ordered.map .text)) ∧ r.error = none ∧
          ordered.Nodup ∧ (∀ a, a ∈ ordered ↔ a ∈ inserted events) ∧
          ByTime (lastTime events) (added events).eraseDups ordered)) ∧
    (∀ a time, w.identities.find? a = none → w.apply (.select a time) = w) ∧
    (∀ later : List Event,
      (w.unlocked = true →
        w.responses (.change (.setUnlocked false) :: .change (.setUnlocked true) :: later) =
          w.responses later) ∧
      w.responses (.change (.setUnlocked false) :: .change (.setUnlocked true) :: later) =
        w.responses (.change (.setUnlocked true) :: later)) := by
  intro w
  have h : Reflects events w := reflects_afterEvents events
  refine ⟨⟨h.nodup, h.accounts⟩, fun a x hx => ⟨h.address a x hx, ?_⟩, fun q hmethod => ?_,
    fun a time hnone => ?_, fun later => ?_⟩
  · -- What is known of an account was inserted, and so was the account.
    rw [h.mem_accounts]
    apply mem_added_of_mem_inserted
    rw [← h.known_iff]
    unfold time?
    rw [hx]
    simp
  · intro r
    have hr : r = .ofVerdict q (Rpc.shownAccounts w) := answer_accounts hmethod w
    refine ⟨fun hlocked => ?_, fun hopen a hfirst => ?_, fun hopen hall => ?_⟩
    · rw [hr, h.shownAccounts_of_locked hlocked]
      exact ⟨rfl, rfl⟩
    · rw [hr, h.shownAccounts_of_unknown hopen hfirst]
      exact ⟨rfl, rfl⟩
    · obtain ⟨ordered, hshown, hordered⟩ := h.shownAccounts_of_known hopen hall
      rw [hr, hshown]
      exact ⟨ordered, rfl, rfl, hordered⟩
  · unfold apply select
    simp only [hnone]
  -- Unlocking sets the lock and nothing else, so what locking did before it cannot be seen.
  · obtain ⟨hunlock, hsame⟩ := lock_unlock w
    simp only [responses]
    rw [hunlock]
    constructor
    · intro hopen
      rw [hsame hopen]
    · rfl

end Wallet

end WalletGate
