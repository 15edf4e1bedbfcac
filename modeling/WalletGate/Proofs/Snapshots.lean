import Mathlib.Algebra.Group.Nat.Defs
import WalletGate.Host.Run
import WalletGate.Proofs.Admission
import WalletGate.Proofs.Frames
import WalletGate.Proofs.Listener
import WalletGate.Proofs.Persistence
/-!
# Snapshots for the wallet's windows

When one of the wallet's windows connects, the host stores a snapshot of the wallet in the session.
The wallet may refuse to give one and the session may refuse to take it, at each step anew.

* `Session.Store.Keeps`: what is expected of a store, which the store in memory (`memory_keeps`) and
  the store in files (`files_keeps`) both do;
* `session_step`, `session_after`: a step, and then a run, does nothing to the session but to offer
  it snapshots under the one key;
* `accept_congr`: what an opening is answered by depends on the settings and the port alone;
* `snapshots_kept`: what the session holds after any run with any mishaps.
-/

namespace WalletGate

variable {σ : Type}

/-! ## Stores -/

namespace Session

/-- A store keeps a value: where it is stored it is found, where it is refused what was there is
found, and it never shows under another key. -/
structure Store.Keeps (store : Store σ) (value : Json) : Prop where
  found {key : String} {s : σ} : (store.set key value s).1 = .ok () →
    store.get key (store.set key value s).2 = .ok (some value)
  refused {key : String} {s : σ} : (store.set key value s).1 ≠ .ok () →
    store.get key (store.set key value s).2 = store.get key s
  others {key key' : String} {s : σ} : key' ≠ key →
    store.get key' (store.set key value s).2 = store.get key' s

theorem memory_keeps (value : Json) : memory.Keeps value where
  found _ := by simp [memory]
  refused h := absurd rfl h
  others h := by simp [memory, Dict.find?_put, h]

/-- The store in files keeps every value that can be read back from its text. -/
theorem files_keeps {value : Json} (hvalue : Json.Plain Json.maxDepth value) :
    files.Keeps value where
  found {key s} hset := by
    change (setFile key value s).1 = .ok () at hset
    change getFile key (setFile key value s).2 = .ok (some value)
    -- The three ways in which writing can end: it fails at once, the temporary file cannot be
    -- moved, or all goes well.
    rcases setFile_cases key value s with ⟨fault, h⟩ | ⟨nodes, rfl, hkey, h | ⟨hname, h⟩⟩
    · rw [h] at hset
      cases hset
    · rw [h] at hset
      cases hset
    · have hsize : key.utf8ByteSize ≤ maxKeySize := by
        rw [isName_fileName hkey] at hname
        exact of_decide_eq_true hname
      rw [h, getFile_directory hkey hsize, find?_putFile, if_pos rfl]
      simp only [hvalue.parse?_written]
  refused {key s} hset := by
    change (setFile key value s).1 ≠ .ok () at hset
    change getFile key (setFile key value s).2 = getFile key s
    -- Where a temporary file stays behind, the file of the key is still what it was.
    rcases setFile_cases key value s with ⟨fault, h⟩ | ⟨nodes, rfl, _, h | ⟨_, h⟩⟩
    · rw [h]
    · rw [h]
      refine getFile_congr ?_
      rw [Dict.find?_put, if_neg (fileName_ne_temporaryName key key)]
    · rw [h] at hset
      exact absurd rfl hset
  others h := getFile_setFile_of_ne h value _

namespace Store

/-- The store that refuses to store for a reason, if there is one, without an effect. -/
def failing (store : Store σ) (fault : Option Fault) : Store σ where
  set key value s :=
    match fault with
    | some fault => (.error fault, s)
    | none => store.set key value s
  get := store.get
  isAvailable := store.isAvailable

/-- A store after values were offered to it under a key. -/
def setAll (store : Store σ) (key : String) (values : List Json) (s : σ) : σ :=
  values.foldl (fun s value => (store.set key value s).2) s

/-- Those of the values that it took. -/
def taken (store : Store σ) (key : String) : List Json → σ → List Json
  | [], _ => []
  | value :: rest, s =>
    if (store.set key value s).1 = .ok () then
      value :: store.taken key rest (store.set key value s).2
    else store.taken key rest (store.set key value s).2

variable {store : Store σ}

theorem setAll_append (key : String) (values more : List Json) (s : σ) :
    store.setAll key (values ++ more) s = store.setAll key more (store.setAll key values s) :=
  List.foldl_append

theorem taken_singleton {key : String} {value : Json} {s : σ}
    (hset : (store.set key value s).1 = .ok ()) : store.taken key [value] s = [value] := by
  rw [taken, if_pos hset]
  rfl

/-- The last value that was taken is found, or what was there before the first. -/
theorem get_setAll {key : String} {values : List Json} (hkeeps : ∀ v ∈ values, store.Keeps v)
    (s : σ) : store.get key (store.setAll key values s) =
      match (store.taken key values s).getLast? with
      | some value => .ok (some value)
      | none => store.get key s := by
  -- Induction on the values, for any state before them.
  induction values generalizing s with
  | nil => rfl
  | cons value rest ih =>
    have hvalue := hkeeps value List.mem_cons_self
    have hrest := ih (fun v hv => hkeeps v (List.mem_cons_of_mem _ hv)) (store.set key value s).2
    change store.get key (store.setAll key rest (store.set key value s).2) = _
    rw [hrest, taken]
    -- If this value was taken, it is the last one unless a later one was; if not, the store answers
    -- as before.
    by_cases hset : (store.set key value s).1 = .ok ()
    · rw [if_pos hset, List.getLast?_cons]
      cases (store.taken key rest (store.set key value s).2).getLast? with
      | none => exact hvalue.found hset
      | some last => rfl
    · rw [if_neg hset, hvalue.refused hset]

/-- What is found under another key is what was there. -/
theorem get_setAll_of_ne {key key' : String} (hne : key' ≠ key) {values : List Json}
    (hkeeps : ∀ v ∈ values, store.Keeps v) (s : σ) :
    store.get key' (store.setAll key values s) = store.get key' s := by
  induction values generalizing s with
  | nil => rfl
  | cons value rest ih =>
    have hrest := ih (fun v hv => hkeeps v (List.mem_cons_of_mem _ hv)) (store.set key value s).2
    exact hrest.trans ((hkeeps value List.mem_cons_self).others hne)

end Store

end Session

/-! ## Snapshots -/

namespace Json.Plain

theorem int (depth : Nat) (i : Int64) : Plain depth (.int i) := by
  have hlow := i.le_toInt
  have hhigh := i.toInt_lt
  exact .whole depth hlow (by omega)

theorem ofDict {α : Type} {depth : Nat} {value : α → Json} (hvalue : ∀ a, Plain depth (value a))
    (d : Dict α) : Plain (depth + 1) (.ofDict value d) := by
  refine .object_of_sorted (List.pairwise_map.2 d.sorted) fun field hfield => ?_
  obtain ⟨entry, _, rfl⟩ := List.mem_map.1 hfield
  exact hvalue entry.2

end Json.Plain

namespace Wallet

theorem Identity.plain (depth : Nat) (x : Identity) : Json.Plain (depth + 1) (toJson x) := by
  refine .object fun field hfield => ?_
  rcases List.mem_append.1 hfield with hnamed | hselected
  · simp only [List.mem_cons, List.not_mem_nil, or_false] at hnamed
    rcases hnamed with rfl | rfl
    · exact .text _ _
    · exact .text _ _
  · cases hlast : x.lastSelected with
    | none => simp [hlast, Json.fieldOf] at hselected
    | some time =>
      obtain rfl : field = ("lastSelected", .int time) := by
        simpa [hlast, Json.fieldOf] using hselected
      exact .int _ time

/-- The snapshot of a wallet can be read back from its text, if the number of accounts fits. -/
theorem plain_windowState (w : Wallet) (now : String) (hsize : w.accounts.length < 2 ^ 64) :
    Json.Plain Json.maxDepth (w.windowState now) := by
  refine .object fun field hfield => ?_
  simp only [List.mem_cons, List.not_mem_nil, or_false] at hfield
  rcases hfield with rfl | rfl | rfl | rfl | rfl
  · exact .bool _ _
  · exact .text _ _
  · exact .ofDict (Identity.plain _) _
  · exact .whole _ (by omega) (by omega)
  · exact .text _ _

end Wallet

namespace Host

/-! ## Mishaps -/

/-- What goes wrong around a host while it takes a step. -/
structure Mishap where
  /-- The questions that the wallet refuses. -/
  calls : Wallet.Hook → Option Wallet.Refusal := fun _ => none
  /-- Why the wallet gives no snapshot. -/
  snapshot : Option Wallet.Refusal := none
  /-- Why the session stores nothing. -/
  write : Option Session.Fault := none

/-- The host of some settings under a mishap. -/
def troubled (cfg : Settings) (session : Session.Store σ) (x : Mishap) : Host Wallet σ :=
  assemble cfg (Wallet.service.failing x.calls x.snapshot) (session.failing x.write)

/-- The snapshot that a step offers to the session. -/
def Mishap.offer? (x : Mishap) (cfg : Settings) (w : Wallet) : Step → Option Json
  | .opens now port =>
    if (policyOf cfg).classOf port = .internal ∧ x.snapshot = none ∧ x.write = none then
      some (w.windowState now)
    else none
  | _ => none

namespace Run

/-- A run after some steps, each under a mishap of its own. -/
def after (cfg : Settings) (session : Session.Store σ) (run : Run σ)
    (events : List (Mishap × Step)) : Run σ :=
  events.foldl (fun run e => (run.step (troubled cfg session e.1) e.2).2) run

/-- The snapshots that the steps offer to the session, in order. -/
def offers (cfg : Settings) (session : Session.Store σ) (run : Run σ) :
    List (Mishap × Step) → List Json
  | [] => []
  | (x, s) :: rest =>
    (x.offer? cfg run.state.wallet s).toList ++
      offers cfg session (run.step (troubled cfg session x) s).2 rest

end Run

/-! ## Openings -/

section Openings

variable {β γ τ : Type}

/-- What an opening is answered by depends on the settings and the port alone. -/
theorem accept_congr (cfg : Settings) (wallet : Wallet.Service β) (wallet' : Wallet.Service γ)
    (session : Session.Store σ) (session' : Session.Store τ) (now now' : String) (port : Port)
    (s : State β σ) (t : State γ τ) :
    ((assemble cfg wallet session).accept now port s).1 =
      ((assemble cfg wallet' session').accept now' port t).1 := by
  unfold accept
  have hpolicy : (assemble cfg wallet session).policy =
      (assemble cfg wallet' session').policy := rfl
  simp only [hpolicy]
  split
  · rfl
  · rfl

/-- The wallet's windows are greeted if the background is a service worker, and nobody else is. -/
theorem accept_greeting (cfg : Settings) (wallet : Wallet.Service β) (session : Session.Store σ)
    (now : String) (port : Port) (s : State β σ) :
    let opening := ((assemble cfg wallet session).accept now port s).1
    opening.greeting =
      if opening.connection.kind = .internal ∧ "ServiceWorkerGlobalScope" ∈ cfg.runtimeApis then
        some ⟨some "CONNECTION_READY", .null⟩
      else none := by
  intro opening
  have hkind : opening.connection.kind = (policyOf cfg).classOf port :=
    congrArg Connection.kind (accept_connection _ _ _ _)
  have hworker : (assemble cfg wallet session).isServiceWorker =
      decide ("ServiceWorkerGlobalScope" ∈ cfg.runtimeApis) := rfl
  rw [hkind]
  change (accept _ _ _ _).1.greeting = _
  unfold accept
  -- Only a window is greeted, so the other classes are one case.
  cases hclass : (policyOf cfg).classOf port with
  | internal =>
    have hport : (Connection.ofPort (assemble cfg wallet session).policy port).kind = .internal :=
      hclass
    simp only [hport, hworker, true_and, decide_eq_true_eq]
    rfl
  | blocked | rejected | external tab origin =>
    have hport : (Connection.ofPort (assemble cfg wallet session).policy port).kind = _ := hclass
    simp [hport]

end Openings

/-! ## One step -/

variable (cfg : Settings) (session : Session.Store σ)

/-- A window's opening stores the snapshot that it offers. -/
theorem session_storeSnapshot (x : Mishap) (now : String) (s : State Wallet σ) :
    ((troubled cfg session x).storeSnapshot now s).session =
      if x.snapshot = none ∧ x.write = none then
        (session.set snapshotKey (s.wallet.windowState now) s.session).2
      else s.session := by
  unfold storeSnapshot troubled assemble Wallet.Service.failing Session.Store.failing
  cases hsnapshot : x.snapshot with
  | some refusal => simp
  | none =>
    cases hwrite : x.write with
    | some fault => simp [Wallet.service]
    | none => simp [Wallet.service]

/-- An opening stores a snapshot if it is a window's and nothing goes wrong. -/
theorem session_accept (x : Mishap) (now : String) (port : Port) (s : State Wallet σ) :
    ((troubled cfg session x).accept now port s).2.session =
      if (policyOf cfg).classOf port = .internal ∧ x.snapshot = none ∧ x.write = none then
        (session.set snapshotKey (s.wallet.windowState now) s.session).2
      else s.session := by
  have hport : (Connection.ofPort (troubled cfg session x).policy port).kind =
      (policyOf cfg).classOf port := rfl
  simp only [accept, hport]
  cases (policyOf cfg).classOf port with
  | internal =>
    simp only [true_and]
    exact session_storeSnapshot cfg session x now s
  | blocked | rejected | external tab origin => simp

/-- A step offers its snapshot to the session, if it has one, and does nothing else to it. -/
theorem session_step (x : Mishap) (run : Run σ) (step : Step) :
    (run.step (troubled cfg session x) step).2.state.session =
      session.setAll snapshotKey (x.offer? cfg run.state.wallet step).toList run.state.session := by
  cases step with
  -- Only an opening window offers a snapshot, and only if neither it nor the writing of it fails.
  | opens now port =>
    refine (session_accept cfg session x now port run.state).trans ?_
    unfold Mishap.offer?
    by_cases h : (policyOf cfg).classOf port = .internal ∧ x.snapshot = none ∧ x.write = none
    · simp only [if_pos h]
      rfl
    · simp only [if_neg h]
      rfl
  | frame number text =>
    simp only [Run.step]
    cases run.connections[number]? with
    | none => rfl
    | some c => exact session_receive _ _ _ _
  | change c => rfl
  | request r => rfl

/-- A step that opens no window leaves the session as it is. -/
theorem session_step_of_not_internal (x : Mishap) (run : Run σ) (step : Step)
    (hstep : ∀ o, (run.step (troubled cfg session x) step).1 = .opened o →
      o.connection.kind ≠ .internal) :
    (run.step (troubled cfg session x) step).2.state.session = run.state.session := by
  have hoffer : x.offer? cfg run.state.wallet step = none := by
    cases step with
    | opens now port =>
      have hconnection := accept_connection (troubled cfg session x) now port run.state
      exact if_neg fun h => hstep _ rfl ((congrArg Connection.kind hconnection).trans h.1)
    | _ => rfl
  rw [session_step, hoffer]
  rfl

/-! ## Runs -/

/-- A run does nothing to the session but to offer it snapshots under one key. -/
theorem session_after (run : Run σ) (events : List (Mishap × Step)) :
    (run.after cfg session events).state.session =
      session.setAll snapshotKey (run.offers cfg session events) run.state.session := by
  -- Induction on the steps, for any run before them.
  induction events generalizing run with
  | nil => rfl
  | cons e rest ih =>
    obtain ⟨x, step⟩ := e
    have hrest := ih (run.step (troubled cfg session x) step).2
    rw [session_step] at hrest
    rw [Run.offers, Session.Store.setAll_append]
    exact hrest

/-! ## Snapshots in files -/

/-- No frame adds an account. -/
theorem accounts_receive (x : Mishap) (c : Connection) (text : String) (s : State Wallet σ) :
    ((troubled cfg session x).receive c text s).2.wallet.accounts = s.wallet.accounts := by
  refine receive_invariant (P := fun call => call.origin? = none ∨ call.origin? = c.origin)
    (I := fun w : Wallet => w.accounts = s.wallet.accounts) (fun call w _ hw => ?_)
    (fun q horigin => ?_) text rfl
  · simp only [troubled, assemble, Wallet.Service.failing]
    cases x.calls call.hook with
    | some refusal => exact hw
    | none => cases call <;> exact hw
  · rw [← horigin]
    exact Rpc.confined_own _ q

/-- A step adds at most one account. -/
theorem accounts_step (x : Mishap) (run : Run σ) (step : Step) :
    (run.step (troubled cfg session x) step).2.state.wallet.accounts.length ≤
      run.state.wallet.accounts.length + 1 := by
  cases step with
  -- Two of the steps can add an account, and both go through the same addition; no other step
  -- touches the accounts.
  | opens now port =>
    have hsnapshot : ∀ now w, ((troubled cfg session x).wallet.snapshot now w).2 = w := by
      intro now w
      change ((Wallet.service.failing x.calls x.snapshot).snapshot now w).2 = w
      unfold Wallet.Service.failing
      cases x.snapshot <;> rfl
    have hwallet := accept_wallet hsnapshot now port run.state
    exact Nat.le_succ_of_le (Nat.le_of_eq (congrArg (fun w : Wallet => w.accounts.length) hwallet))
  | frame number text =>
    simp only [Run.step]
    cases run.connections[number]? with
    | none => exact Nat.le_succ _
    | some c =>
      simp only [accounts_receive]
      exact Nat.le_succ _
  | change c =>
    have hadd (address : String) : (run.state.wallet.addAccount address).accounts.length ≤
        run.state.wallet.accounts.length + 1 := by
      unfold Wallet.addAccount
      split
      · exact Nat.le_succ _
      · simp
    cases c with
    | insert address name lastSelected => exact hadd address
    | addAccount address => exact hadd address
    | select address time =>
      simp only [Run.step, Wallet.apply, Wallet.select]
      split
      · exact Nat.le_succ _
      · exact Nat.le_succ _
    | permit origin addresses => exact Nat.le_succ _
    | setUnlocked unlocked => exact Nat.le_succ _
  | request r => exact Nat.le_succ _

/-- Every snapshot of a run can be read back from its text, unless the accounts cannot be counted.
-/
theorem offers_plain (run : Run σ) (events : List (Mishap × Step))
    (hsize : run.state.wallet.accounts.length + events.length < 2 ^ 64) :
    ∀ v ∈ run.offers cfg session events, Json.Plain Json.maxDepth v := by
  induction events generalizing run with
  | nil => simp [Run.offers]
  | cons e rest ih =>
    obtain ⟨x, step⟩ := e
    rw [List.length_cons] at hsize
    intro v hv
    -- What is offered is the snapshot of the wallet at that step, whose accounts are as many as
    -- steps were made before it at most.
    rcases List.mem_append.1 hv with hfirst | hlater
    · have hoffer : x.offer? cfg run.state.wallet step = some v := by simpa using hfirst
      unfold Mishap.offer? at hoffer
      split at hoffer
      · split at hoffer
        · rw [← Option.some.inj hoffer]
          exact run.state.wallet.plain_windowState _ (by omega)
        · cases hoffer
      · cases hoffer
    · have hstep := accounts_step cfg session x run step
      exact ih _ (by omega) v hlater

/-! ## The rule as a whole -/

/-- Any run of the host, with the wallet and the session failing as they like at every step. All
that is ever done to the session is to store snapshots of the wallet under one key, one for each
opening of a window for which the wallet gives a snapshot. Under that key the last snapshot is
found that the session took, or what was there before the run; under any other key nothing changes,
nor does anything in a step that opens no window. What an opening is answered by is the same
whatever fails: it depends on the settings and the port alone, and it greets the wallet's windows
if the background is a service worker, and nobody else. -/
theorem snapshots_kept (run : Run σ) (events : List (Mishap × Step))
    (hkeeps : ∀ v ∈ run.offers cfg session events, session.Keeps v) :
    let initial := run.state.session
    let final := (run.after cfg session events).state.session
    let offers := run.offers cfg session events
    final = session.setAll snapshotKey offers initial ∧
    (session.get snapshotKey final =
      match (session.taken snapshotKey offers initial).getLast? with
      | some snapshot => .ok (some snapshot)
      | none => session.get snapshotKey initial) ∧
    (∀ key, key ≠ snapshotKey → session.get key final = session.get key initial) ∧
    (∀ (x : Mishap) (run : Run σ) (step : Step),
      (∀ o, (run.step (troubled cfg session x) step).1 = .opened o →
        o.connection.kind ≠ .internal) →
      (run.step (troubled cfg session x) step).2.state.session = run.state.session) ∧
    (∀ (x x' : Mishap) (now now' : String) (port : Port) (s s' : State Wallet σ),
      let opening := ((troubled cfg session x).accept now port s).1
      opening = ((troubled cfg session x').accept now' port s').1 ∧
      opening.greeting =
        if opening.connection.kind = .internal ∧ "ServiceWorkerGlobalScope" ∈ cfg.runtimeApis then
          some ⟨some "CONNECTION_READY", .null⟩
        else none) := by
  intro initial final offers
  -- The store at the end is that of the offers one after the other; what is read of it follows from
  -- what is expected of a store.
  have hfinal : final = session.setAll snapshotKey offers initial :=
    session_after cfg session run events
  refine ⟨hfinal, ?_, ?_, ?_, ?_⟩
  · rw [hfinal]
    exact Session.Store.get_setAll hkeeps initial
  · intro key hkey
    rw [hfinal]
    exact Session.Store.get_setAll_of_ne hkey hkeeps initial
  · exact fun x run step => session_step_of_not_internal cfg session x run step
  · intro x x' now now' port s s'
    exact ⟨accept_congr _ _ _ _ _ _ _ _ _ _, accept_greeting _ _ _ _ _ _⟩

/-- A port of one of the wallet's windows. -/
def windowPort : Port :=
  ⟨"popup", some ⟨some "chrome-extension://nkbihfbeogaeaoehlefnkodbefgpgknn", none, none⟩⟩

/-- A window connects three times, before and after an account is added; the second time the session
takes nothing and the third time the wallet gives nothing. -/
def troubledEvents : List (Mishap × Step) :=
  [({}, .opens "t1" windowPort), ({}, .change (.addAccount "0x01")),
    ({ write := some .storage }, .opens "t2" windowPort),
    ({ snapshot := some .locked }, .opens "t3" windowPort),
    ({}, .opens "t4" pageConnection.port)]

theorem offers_troubledEvents (session : Session.Store σ) (initial : σ) :
    (Run.start (.start chromeSettings .empty initial)).offers chromeSettings session
      troubledEvents = [Wallet.empty.windowState "t1"] := by
  have hwindow : (policyOf chromeSettings).classOf windowPort = .internal := by decide +kernel
  have hpage : (policyOf chromeSettings).classOf pageConnection.port ≠ .internal := by
    decide +kernel
  simp [troubledEvents, Run.offers, Mishap.offer?, hwindow, hpage, Run.start, State.start]

/-- The first snapshot is found, as it was then, in either store. -/
theorem get_troubledEvents :
    let filesRun := Run.start (.start chromeSettings .empty (.directory ∅))
    let memoryRun := Run.start (.start chromeSettings .empty ∅)
    (∀ v ∈ filesRun.offers chromeSettings Session.files troubledEvents, Session.files.Keeps v) ∧
      Session.files.get snapshotKey
          (filesRun.after chromeSettings Session.files troubledEvents).state.session =
        .ok (some (Wallet.empty.windowState "t1")) ∧
      Session.memory.get snapshotKey
          (memoryRun.after chromeSettings Session.memory troubledEvents).state.session =
        .ok (some (Wallet.empty.windowState "t1")) := by
  intro filesRun memoryRun
  have hkeeps : ∀ v ∈ filesRun.offers chromeSettings Session.files troubledEvents,
      Session.files.Keeps v := by
    intro v hv
    have hplain :=
      offers_plain chromeSettings Session.files filesRun troubledEvents (by decide) v hv
    exact Session.files_keeps hplain
  have hfiles := (snapshots_kept chromeSettings Session.files filesRun troubledEvents hkeeps).2.1
  have hmemory := (snapshots_kept chromeSettings Session.memory memoryRun troubledEvents
    fun v _ => Session.memory_keeps v).2.1
  refine ⟨hkeeps, hfiles.trans ?_, hmemory.trans ?_⟩
  · have hset : (Session.files.set snapshotKey (Wallet.empty.windowState "t1")
        filesRun.state.session).1 = .ok () :=
      congrArg Prod.fst (Session.setFile_of_fits (fun _ => by simp) (by decide +kernel)
        (by decide +kernel) _)
    rw [offers_troubledEvents, Session.Store.taken_singleton hset]
    rfl
  · rw [offers_troubledEvents, Session.Store.taken_singleton rfl]
    rfl

end Host

end WalletGate
