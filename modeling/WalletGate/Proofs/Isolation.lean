import Mathlib.Data.Finset.Card
import WalletGate.Host.Run
import WalletGate.Proofs.Frames
import WalletGate.Proofs.Openings
/-!
# Isolation of origins

The frames of other origins might as well not have been sent. For any run of the host and any
origin, the run without the frames of all other origins gets the same replies and leaves the same
records of that origin.

* `Wallet.AgreeFor`: two wallets are alike for all that an origin can see of them;
* `step_foreign` and `step_kept`: a frame of another origin leaves the wallet alike, and any other
  step of two alike hosts is answered alike;
* `steps_isolated`: the two runs, for a host in memory and any steps.
-/

namespace WalletGate

/-! ## Wallets as an origin sees them -/

namespace Wallet

/-- A change by the user neither reads nor writes what sites report and what is noted on them. -/
theorem apply_sites (w : Wallet) (c : Change) (subjects : Dict SubjectMetadata)
    (shims : Dict ShimUsage) :
    apply { w with subjects, shims } c = { w.apply c with subjects, shims } := by
  -- No change of the accounts looks at what sites left behind, so each gives the same with it
  -- exchanged.
  cases c with
  | insert address name lastSelected =>
    simp only [apply, insert, addAccount]
    split
    · rfl
    · rfl
  | addAccount address =>
    simp only [apply, addAccount]
    split
    · rfl
    · rfl
  | select address time =>
    simp only [apply, select]
    split
    · rfl
    · rfl
  | permit origin addresses => rfl
  | setUnlocked unlocked => rfl

theorem subjects_apply (w : Wallet) (c : Change) : (w.apply c).subjects = w.subjects := by
  have hsame := congrArg Wallet.subjects (apply_sites w c w.subjects w.shims)
  exact hsame

theorem shims_apply (w : Wallet) (c : Change) : (w.apply c).shims = w.shims := by
  have hsame := congrArg Wallet.shims (apply_sites w c w.subjects w.shims)
  exact hsame

/-- The wallets differ at most in what other origins reported and in the notes on other origins. -/
structure AgreeFor (o : String) (w w' : Wallet) : Prop where
  unlocked : w.unlocked = w'.unlocked
  accounts : w.accounts = w'.accounts
  identities : w.identities = w'.identities
  permitted : w.permitted = w'.permitted
  subject : w.subject? o = w'.subject? o
  shim : w.shims.find? o = w'.shims.find? o

namespace AgreeFor

variable {o : String} {w w' : Wallet}

theorem refl (o : String) (w : Wallet) : AgreeFor o w w := ⟨rfl, rfl, rfl, rfl, rfl, rfl⟩

/-- A change by the user makes the same of both. -/
theorem apply (h : AgreeFor o w w') (c : Change) : AgreeFor o (w.apply c) (w'.apply c) := by
  -- The second wallet is the first with other reports and notes, and the change passes those by.
  have hsites : w' = { w with subjects := w'.subjects, shims := w'.shims } := by
    obtain ⟨_, _, _, _, _, _⟩ := w'
    rw [h.unlocked, h.accounts, h.identities, h.permitted]
  have happly : w'.apply c = { w.apply c with subjects := w'.subjects, shims := w'.shims } :=
    (congrArg (·.apply c) hsites).trans (apply_sites w c _ _)
  rw [happly]
  refine ⟨rfl, rfl, rfl, rfl, ?_, ?_⟩
  · unfold subject?
    rw [subjects_apply]
    exact h.subject
  · rw [shims_apply]
    exact h.shim

/-- A question about the origin, or about none, is answered alike and leaves the wallets alike. -/
theorem serve (h : AgreeFor o w w') {c : Call} (hc : c.origin? = none ∨ c.origin? = some o) :
    (service.serve c w).1 = (service.serve c w').1 ∧
      AgreeFor o (service.serve c w).2 (service.serve c w').2 := by
  -- The wallet-wide questions read what agrees; those of an origin read and write under the origin
  -- alone.
  cases c with
  | accounts => exact ⟨by simp [service, answer, usable, h.unlocked, h.accounts], h⟩
  | identities => exact ⟨by simp [service, answer, h.identities], h⟩
  | providerState origin =>
    exact ⟨by simp [service, answer, providerState, visible, h.unlocked, h.permitted], h⟩
  | addSubject subject =>
    refine ⟨rfl, ⟨h.unlocked, h.accounts, h.identities, h.permitted, ?_, h.shim⟩⟩
    have hsubject := h.subject
    unfold subject? at hsubject ⊢
    simp only [service, after, Dict.find?_put, hsubject]
  | shimUsage origin =>
    have horigin : origin = o := by simpa [Call.origin?] using hc
    exact ⟨by simp [service, answer, horigin, h.shim], h⟩
  | recordShimUsage origin =>
    refine ⟨rfl, ⟨h.unlocked, h.accounts, h.identities, h.permitted, h.subject, ?_⟩⟩
    simp only [service, after, Dict.find?_put, h.shim]

/-- A question that is not about the origin leaves the wallet as the origin sees it. -/
theorem serve_foreign (h : AgreeFor o w w') {c : Call} (hc : c.origin? ≠ some o) :
    AgreeFor o (service.serve c w).2 w' := by
  -- A write under another origin leaves the look-up under this one as it was, and the other
  -- questions write nothing.
  cases c with
  | accounts => exact h
  | identities => exact h
  | providerState origin => exact h
  | addSubject subject =>
    have hne : o ≠ subject.origin := fun heq => hc (by rw [heq]; rfl)
    refine ⟨h.unlocked, h.accounts, h.identities, h.permitted, ?_, h.shim⟩
    rw [← h.subject]
    unfold subject?
    simp only [service, after, Dict.find?_put, if_neg hne]
  | shimUsage origin => exact h
  | recordShimUsage origin =>
    have hne : o ≠ origin := fun heq => hc (by rw [heq]; rfl)
    refine ⟨h.unlocked, h.accounts, h.identities, h.permitted, h.subject, ?_⟩
    simp only [service, after, Dict.find?_put, if_neg hne, h.shim]

end AgreeFor

end Wallet

/-! ## Frames -/

namespace Host

variable {σ : Type}

/-- The host of some settings over the wallet in memory. -/
abbrev inMemory (cfg : Settings) (session : Session.Store σ) : Host Wallet σ :=
  assemble cfg Wallet.service session

section Frames

variable (cfg : Settings) (session : Session.Store σ) {o : String} {c : Connection}

/-- A frame of the origin is answered alike by wallets that are alike for it. -/
theorem receive_own (horigin : c.origin = some o) (text : String) {s t : State Wallet σ}
    (hagree : Wallet.AgreeFor o s.wallet t.wallet) :
    ((inMemory cfg session).receive c text s).1 = ((inMemory cfg session).receive c text t).1 ∧
      Wallet.AgreeFor o ((inMemory cfg session).receive c text s).2.wallet
        ((inMemory cfg session).receive c text t).2.wallet := by
  refine receive_related (P := fun call => call.origin? = none ∨ call.origin? = some o)
    (fun call w w' hcall hagree => hagree.serve hcall) (fun q hq => ?_) text hagree
  rw [← horigin, ← hq]
  exact Rpc.confined_own _ q

/-- A frame of another origin leaves the wallet as the origin sees it. -/
theorem receive_foreign (horigin : c.origin ≠ some o) (text : String) {s : State Wallet σ}
    {w : Wallet} (hagree : Wallet.AgreeFor o s.wallet w) :
    Wallet.AgreeFor o ((inMemory cfg session).receive c text s).2.wallet w := by
  refine receive_invariant (P := fun call => call.origin? = none ∨ call.origin? = c.origin)
    (I := fun v => Wallet.AgreeFor o v w) (fun call v hcall hagree => hagree.serve_foreign ?_)
    (fun q hq => ?_) text hagree
  · rcases hcall with hnone | hsame
    · rw [hnone]
      simp
    · rw [hsame]
      exact horigin
  · rw [← hq]
    exact Rpc.confined_own _ q

end Frames

/-! ## Runs without foreign frames -/

/-- What a reply says on a port; nothing for the response to a plain request. -/
def Reply.onPort : Reply → Reply
  | .response _ => .none
  | reply => reply

namespace Run

/-- The elements that are marked. -/
def keep {α : Type} : List Bool → List α → List α
  | true :: marks, a :: rest => a :: keep marks rest
  | false :: marks, _ :: rest => keep marks rest
  | _, _ => []

/-- Whether the step is a frame on a connection that is not stamped with the origin. -/
def isForeign (o : String) (run : Run σ) : Step → Bool
  | .frame number _ => run.connections[number]?.any fun c => c.origin ≠ some o
  | _ => false

/-- Marks the steps of a run that are no foreign frames. -/
def kept (h : Host Wallet σ) (o : String) (run : Run σ) : List Step → List Bool
  | [] => []
  | step :: rest => (!run.isForeign o step) :: (run.step h step).2.kept h o rest

/-- The binding that a step makes. -/
def binding? (run : Run σ) : Step → Option (String × Int64)
  | .frame number text => run.connections[number]?.bind fun c => frameBinding? c text
  | _ => none

/-- The bindings that a run makes, in order. -/
def records (h : Host Wallet σ) (run : Run σ) : List Step → List (String × Int64)
  | [] => []
  | step :: rest => (run.binding? step).toList ++ (run.step h step).2.records h rest

/-- Two runs have the same connections, and wallets that are alike for the origin. -/
structure AgreeFor (o : String) (run run' : Run σ) : Prop where
  connections : run.connections = run'.connections
  wallet : Wallet.AgreeFor o run.state.wallet run'.state.wallet

theorem step_frame (h : Host Wallet σ) {run : Run σ} {number : Nat} {c : Connection}
    (hc : run.connections[number]? = some c) (text : String) :
    run.step h (.frame number text) =
      (.frame (h.receive c text run.state).1,
        { run with state := (h.receive c text run.state).2 }) := by
  simp only [Run.step, hc]

theorem step_frame_of_none (h : Host Wallet σ) {run : Run σ} {number : Nat}
    (hc : run.connections[number]? = none) (text : String) :
    run.step h (.frame number text) = (.none, run) := by
  simp only [Run.step, hc]

section Steps

variable (cfg : Settings) (session : Session.Store σ) {o : String} {run run' : Run σ}

/-- A foreign frame leaves what the origin sees of the host as it was. -/
theorem step_foreign (hagree : AgreeFor o run run') {step : Step}
    (hforeign : run.isForeign o step = true) :
    AgreeFor o (run.step (inMemory cfg session) step).2 run' := by
  cases step with
  | frame number text =>
    obtain ⟨c, hc, horigin⟩ := (Option.any_eq_true _ _).1 hforeign
    have hother : c.origin ≠ some o := by simpa using horigin
    rw [step_frame _ hc]
    exact ⟨hagree.connections, receive_foreign cfg session hother text hagree.wallet⟩
  | _ => exact absurd hforeign (by simp [isForeign])

/-- Any other step is answered alike on the port, and leaves the two runs alike. -/
theorem step_kept (hagree : AgreeFor o run run') {step : Step}
    (hkept : run.isForeign o step = false) :
    (run.step (inMemory cfg session) step).1.onPort =
        (run'.step (inMemory cfg session) step).1.onPort ∧
      AgreeFor o (run.step (inMemory cfg session) step).2
        (run'.step (inMemory cfg session) step).2 := by
  cases step with
  | opens now port =>
    -- The port alone decides the answer, and the snapshot leaves a wallet in memory as it is.
    have hopening := accept_opening (inMemory cfg session) now port run.state run'.state
    have hwallet (state : State Wallet σ) :=
      accept_wallet (h := inMemory cfg session) (fun _ _ => rfl) now port state
    simp only [Run.step]
    refine ⟨by rw [hopening], ⟨?_, ?_⟩⟩
    · rw [hopening, hagree.connections]
    · rw [hwallet, hwallet]
      exact hagree.wallet
  | frame number text =>
    cases hc : run.connections[number]? with
    | none =>
      have hc' : run'.connections[number]? = none := by rw [← hagree.connections, hc]
      rw [step_frame_of_none _ hc, step_frame_of_none _ hc']
      exact ⟨rfl, hagree⟩
    | some c =>
      -- The connection is stamped with the origin, for otherwise the frame would be foreign.
      have hc' : run'.connections[number]? = some c := by rw [← hagree.connections, hc]
      have horigin : c.origin = some o := by simpa [isForeign, hc] using hkept
      obtain ⟨hreply, hafter⟩ := receive_own cfg session horigin text hagree.wallet
      rw [step_frame _ hc, step_frame _ hc', hreply]
      exact ⟨rfl, ⟨hagree.connections, hafter⟩⟩
  | change c => exact ⟨rfl, ⟨hagree.connections, hagree.wallet.apply c⟩⟩
  | request r => exact ⟨rfl, hagree⟩

/-- The run without its foreign frames gets the replies that the whole run gives to the other steps,
and ends alike. -/
theorem steps_kept (hagree : AgreeFor o run run') (steps : List Step) :
    (run'.steps (inMemory cfg session) (keep (run.kept (inMemory cfg session) o steps) steps)).1.map
        Reply.onPort =
      (keep (run.kept (inMemory cfg session) o steps)
        (run.steps (inMemory cfg session) steps).1).map Reply.onPort ∧
    AgreeFor o (run.steps (inMemory cfg session) steps).2
      (run'.steps (inMemory cfg session)
        (keep (run.kept (inMemory cfg session) o steps) steps)).2 := by
  -- Induction on the steps: a foreign frame moves the whole run alone, any other step moves both.
  induction steps generalizing run run' with
  | nil => exact ⟨rfl, hagree⟩
  | cons step rest ih =>
    cases hforeign : run.isForeign o step with
    | true =>
      obtain ⟨hreplies, hend⟩ := ih (step_foreign cfg session hagree hforeign)
      simp only [kept, hforeign, keep, steps, Bool.not_true]
      exact ⟨hreplies, hend⟩
    | false =>
      obtain ⟨hreply, hnext⟩ := step_kept cfg session hagree hforeign
      obtain ⟨hreplies, hend⟩ := ih hnext
      simp only [kept, hforeign, keep, steps, Bool.not_false, List.map_cons]
      exact ⟨by rw [hreply, hreplies], hend⟩

end Steps

/-! ## The bindings of a run -/

section Bindings

variable (h : Host Wallet σ) {o : String} {run run' : Run σ}

/-- The requests of every page of the run carry the origin that its port was classified by. -/
def Stamped (run : Run σ) : Prop :=
  ∀ c ∈ run.connections, ∀ tab origin, c.kind = .external tab origin → c.origin = some origin

/-- An opening adds the connection of its port. -/
theorem step_connections (run : Run σ) (now : String) (port : Port) :
    (run.step h (.opens now port)).2.connections =
      run.connections ++ [Connection.ofPort h.policy port] := by
  rw [← accept_connection h now port run.state]
  rfl

theorem step_stamped (hstamped : run.Stamped) (step : Step) : (run.step h step).2.Stamped := by
  cases step with
  | opens now port =>
    -- A new connection is stamped by its class; the older ones are those that were there.
    intro c hc tab origin hkind
    rw [step_connections] at hc
    rcases List.mem_append.1 hc with hold | hnew
    · exact hstamped c hold tab origin hkind
    · rw [List.mem_singleton.1 hnew] at hkind ⊢
      exact origin_of_external hkind
  | frame number text =>
    cases hc : run.connections[number]? with
    | none =>
      rw [step_frame_of_none h hc]
      exact hstamped
    | some c =>
      rw [step_frame h hc]
      exact hstamped
  | change c => exact hstamped
  | request r => exact hstamped

theorem step_bindings (run : Run σ) (step : Step) :
    (run.step h step).2.state.bindings =
      run.state.bindings.recordAll (run.binding? step).toList := by
  cases step with
  | opens now port => exact accept_bindings h now port run.state
  | frame number text =>
    cases hc : run.connections[number]? with
    | none =>
      rw [step_frame_of_none h hc]
      simp [binding?, hc]
    | some c =>
      rw [step_frame h hc]
      simp only [binding?, hc, Option.bind_some]
      exact bindings_receive h c text run.state
  | change c => rfl
  | request r => rfl

theorem steps_bindings (run : Run σ) (steps : List Step) :
    (run.steps h steps).2.state.bindings = run.state.bindings.recordAll (run.records h steps) := by
  induction steps generalizing run with
  | nil => rfl
  | cons step rest ih =>
    have hrest := ih (run.step h step).2
    rw [step_bindings, ← Port.Bindings.recordAll_append] at hrest
    exact hrest

/-- A foreign frame makes no binding for the origin. -/
theorem binding?_of_foreign (hstamped : run.Stamped) {step : Step}
    (hforeign : run.isForeign o step = true) {r : String × Int64}
    (hr : run.binding? step = some r) :
    r.1 ≠ o := by
  cases step with
  | frame number text =>
    obtain ⟨c, hc, horigin⟩ := (Option.any_eq_true _ _).1 hforeign
    simp only [binding?, hc, Option.bind_some] at hr
    have hstamp : c.origin = some r.1 :=
      hstamped c (List.mem_of_getElem? hc) r.2 r.1 (frameBinding?_eq_some hr)
    have hother : c.origin ≠ some o := by simpa using horigin
    intro heq
    exact hother (by rw [hstamp, heq])
  | _ => exact absurd hforeign (by simp [isForeign])

theorem binding?_congr (hconnections : run.connections = run'.connections) (step : Step) :
    run.binding? step = run'.binding? step := by
  cases step with
  | frame number text => simp only [binding?, hconnections]
  | _ => rfl

end Bindings

/-- Without the foreign frames a run makes the same bindings for the origin, and no new ones for
others. -/
theorem records_kept (cfg : Settings) (session : Session.Store σ) {o : String} {run run' : Run σ}
    (hagree : AgreeFor o run run') (hstamped : run.Stamped) (steps : List Step) :
    ((run'.records (inMemory cfg session)
        (keep (run.kept (inMemory cfg session) o steps) steps)).filter fun r => r.1 = o) =
      ((run.records (inMemory cfg session) steps).filter fun r => r.1 = o) ∧
    (run'.records (inMemory cfg session)
        (keep (run.kept (inMemory cfg session) o steps) steps)).Sublist
      (run.records (inMemory cfg session) steps) := by
  -- The induction follows the purge, with the invariant that both runs agree for the origin and
  -- that every page is stamped.
  induction steps generalizing run run' with
  | nil => exact ⟨rfl, List.Sublist.refl _⟩
  | cons step rest ih =>
    have hnext := step_stamped (inMemory cfg session) hstamped step
    cases hforeign : run.isForeign o step with
    | true =>
      obtain ⟨hsame, hsub⟩ := ih (step_foreign cfg session hagree hforeign) hnext
      -- A foreign frame may bind, but never the origin.
      have hnone : ((run.binding? step).toList.filter fun r => r.1 = o) = [] := by
        refine List.filter_eq_nil_iff.2 fun r hr => ?_
        simpa using binding?_of_foreign hstamped hforeign (Option.mem_toList.1 hr)
      simp only [kept, hforeign, keep, records, Bool.not_true, List.filter_append, hnone,
        List.nil_append]
      exact ⟨hsame, hsub.trans (List.sublist_append_right _ _)⟩
    | false =>
      obtain ⟨_, hagree'⟩ := step_kept cfg session hagree hforeign
      obtain ⟨hsame, hsub⟩ := ih hagree' hnext
      simp only [kept, hforeign, keep, records, Bool.not_false, List.filter_append,
        ← binding?_congr hagree.connections step]
      exact ⟨by rw [hsame], (List.Sublist.refl _).append hsub⟩

/-- For any run of a host over the wallet in memory and any origin: without the frames on
connections that are not stamped with the origin, every other step is answered as before, the origin
has the same report and the same note, and it is bound to the same tab if no more origins were
recorded than bindings are kept. -/
theorem steps_isolated (cfg : Settings) (session : Session.Store σ) (w : Wallet) (initial : σ)
    (o : String) (steps : List Step) :
    let h := inMemory cfg session
    let start := Run.start (State.start cfg w initial)
    let marks := start.kept h o steps
    let full := start.steps h steps
    let purged := start.steps h (keep marks steps)
    purged.1.map Reply.onPort = (keep marks full.1).map Reply.onPort ∧
      purged.2.state.wallet.subject? o = full.2.state.wallet.subject? o ∧
      purged.2.state.wallet.shims.find? o = full.2.state.wallet.shims.find? o ∧
      (((start.records h steps).map (·.1)).toFinset.card ≤ max cfg.capacity 1 →
        purged.2.state.bindings.tab? o = full.2.state.bindings.tab? o) := by
  intro h start marks full purged
  have hagree : AgreeFor o start start := ⟨rfl, .refl o w⟩
  have hstamped : start.Stamped := by
    intro c hc
    exact absurd hc (by simp [start, Run.start])
  obtain ⟨hreplies, hend⟩ := steps_kept cfg session hagree steps
  refine ⟨hreplies, hend.wallet.subject.symm, hend.wallet.shim.symm, fun hroom => ?_⟩
  obtain ⟨hsame, hsub⟩ := records_kept cfg session hagree hstamped steps
  -- The shorter run records no origin that the whole run does not, so it has room as well.
  have hroom' : ((start.records h (keep marks steps)).map (·.1)).toFinset.card ≤
      max cfg.capacity 1 := by
    refine (Finset.card_le_card fun origin horigin => ?_).trans hroom
    exact List.mem_toFinset.2 ((hsub.map (·.1)).subset (List.mem_toFinset.1 horigin))
  -- Both stores are those of their records, and with room for all a look-up sees the last record of
  -- the origin, which is the same.
  have hfull : full.2.state.bindings = (Port.Bindings.empty cfg.capacity).recordAll _ :=
    steps_bindings h start steps
  have hpurged : purged.2.state.bindings = (Port.Bindings.empty cfg.capacity).recordAll _ :=
    steps_bindings h start (keep marks steps)
  rw [hfull, hpurged, Port.Bindings.tab?_recordAll_of_card_le hroom,
    Port.Bindings.tab?_recordAll_of_card_le hroom', hsame]

end Run

end Host

end WalletGate
