import WalletGate.Proofs.Admission
import WalletGate.Proofs.Isolation
import WalletGate.Proofs.Listener
import WalletGate.Proofs.Queries
/-!
# Looking bindings up

A page makes a binding under the origin of its URL as the port was classified; a request looks one
up under the text of its query. The two meet in the written form of origins.

* `Url.ReadsBack`: what is expected of the origin of a page's URL;
* `step_canonical`, `steps_canonical`: every origin on a port and every origin that is bound is the
  written form of itself;
* `respond_lookup`: the response to a look-up, by the text that is looked up;
* `isLookup_lookupRequest`: any text can be looked up;
* `lookups_meet_bindings`: what is answered after any run, and what requests leave behind.
-/

namespace WalletGate

/-! ## Origins -/

namespace Url

/-- The origin of the URL, if it has one, is the origin of its own written form. -/
def ReadsBack (s : String) : Prop :=
  ∀ o, (parse s).toOption.bind origin? = some o → (parse o.text).toOption.bind origin? = some o

theorem isOrigin_iff {s : String} : isOrigin s = true ↔ originOf? s = some s := beq_iff_eq

theorem ReadsBack.isOrigin {s origin : String} (h : ReadsBack s)
    (horigin : originOf? s = some origin) : isOrigin origin = true := by
  obtain ⟨o, ho, htext⟩ := Option.map_eq_some_iff.1 horigin
  have hback : originOf? o.text = some o.text := congrArg (Option.map Origin.text) (h o ho)
  rw [isOrigin_iff, ← htext]
  exact hback

end Url

namespace Port

/-- A port is classified as a page's by the origin of its URL. -/
theorem Policy.exists_url_of_external {p : Policy} {port : Port} {tab : Int64} {origin : String}
    (hclass : p.classOf port = .external tab origin) :
    ∃ url, port.sender.bind (·.url) = some url ∧ Url.originOf? url = some origin := by
  have hpage : p.pageClass port = .external tab origin := by
    unfold classOf at hclass
    split at hclass
    · cases hclass
    · split at hclass
      · cases hclass
      · exact hclass
  obtain ⟨stated, url, hsender, hurl, _⟩ :=
    (Host.pageClass_eq_external_iff p port tab origin).1 hpage
  exact ⟨url, by rw [hsender]; rfl, hurl⟩

namespace Bindings

variable {b : Bindings}

/-- A record adds no origin but its own. -/
theorem mem_record {origin : String} {tab : Int64} {r : String × Int64}
    (hr : r ∈ (b.record origin tab).entries) : r.1 = origin ∨ r ∈ b.entries := by
  rcases List.mem_cons.1 (List.mem_of_mem_take hr) with rfl | hold
  · exact .inl rfl
  · exact .inr (List.mem_filter.1 hold).1

end Bindings

end Port

namespace Host

variable {β σ : Type}

/-! ## Runs -/

/-- The step opens no port, or one whose URL has an origin that reads back. -/
def Step.ReadsBack : Step → Prop
  | .opens _ port => ∀ url, port.sender.bind (·.url) = some url → Url.ReadsBack url
  | _ => True

/-- Whether the step is a plain request. -/
def Step.isRequest : Step → Bool
  | .request _ => true
  | _ => false

namespace Run

/-- The origins of the pages and of the bindings are the written forms of themselves. -/
structure Canonical (run : Run σ) : Prop where
  pages : ∀ c ∈ run.connections, ∀ tab origin, c.kind = .external tab origin →
    Url.isOrigin origin = true
  keys : ∀ r ∈ run.state.bindings.entries, Url.isOrigin r.1 = true

theorem start_canonical (cfg : Settings) (w : Wallet) (initial : σ) :
    (start (State.start cfg w initial)).Canonical where
  pages c hc := by simp [start] at hc
  keys r hr := by simp [start, State.start, Port.Bindings.empty] at hr

variable (h : Host Wallet σ)

theorem step_canonical {run : Run σ} (hrun : run.Canonical) {step : Step} (hstep : step.ReadsBack) :
    (run.step h step).2.Canonical := by
  cases step with
  | opens now port =>
    refine ⟨fun c hc tab origin hkind => ?_, fun r hr => hrun.keys r ?_⟩
    · -- The new connection has the origin of its URL; the others are as they were.
      rw [step_connections] at hc
      rcases List.mem_append.1 hc with hold | hnew
      · exact hrun.pages c hold tab origin hkind
      · rw [List.mem_singleton.1 hnew] at hkind
        obtain ⟨url, hurl, horigin⟩ := Port.Policy.exists_url_of_external hkind
        exact (hstep url hurl).isOrigin horigin
    · have hsame := accept_bindings h now port run.state
      rw [← hsame]
      exact hr
  | frame number text =>
    cases hc : run.connections[number]? with
    | none =>
      rw [step_frame_of_none h hc]
      exact hrun
    | some c =>
      -- A frame opens no connection, and the origin that it may bind is that of the page it comes
      -- from.
      refine ⟨?_, fun r hr => ?_⟩
      · rw [step_frame h hc]
        exact hrun.pages
      · rw [step_bindings] at hr
        simp only [binding?, hc, Option.bind_some] at hr
        cases hbinding : frameBinding? c text with
        | none =>
          rw [hbinding] at hr
          exact hrun.keys r hr
        | some made =>
          rw [hbinding] at hr
          rcases Port.Bindings.mem_record hr with hnew | hold
          · rw [hnew]
            exact hrun.pages c (List.mem_of_getElem? hc) made.2 made.1
              (frameBinding?_eq_some hbinding)
          · exact hrun.keys r hold
  | change c => exact ⟨hrun.pages, hrun.keys⟩
  | request r => exact hrun

theorem steps_canonical {run : Run σ} (hrun : run.Canonical) {steps : List Step}
    (hsteps : ∀ s ∈ steps, s.ReadsBack) : (run.steps h steps).2.Canonical := by
  induction steps generalizing run with
  | nil => exact hrun
  | cons step rest ih =>
    have hfirst := step_canonical h hrun (hsteps step List.mem_cons_self)
    exact ih hfirst fun s hs => hsteps s (List.mem_cons_of_mem _ hs)

/-- A run ends as it would without its requests. -/
theorem steps_without_requests (run : Run σ) (steps : List Step) :
    (run.steps h (steps.filter fun s => !s.isRequest)).2 = (run.steps h steps).2 := by
  induction steps generalizing run with
  | nil => rfl
  | cons step rest ih =>
    cases step with
    | request r => exact ih run
    | opens now port => exact ih _
    | frame number text => exact ih _
    | change c => exact ih _

end Run

/-! ## Look-ups -/

/-- The request looks up the tab of the origin that a text says. -/
structure IsLookup (r : Http.Request) (raw : String) : Prop where
  method : r.method = "GET"
  path : r.path = "/v1/request-accounts"
  field : Http.requiredField? "origin" (Http.formFields r.query) = some raw

/-- A request that looks up a text. -/
def lookupRequest (raw : String) : Http.Request where
  method := "GET"
  target := "/v1/request-accounts?origin=" ++ String.ofList (Text.escaped raw)
  headers := []
  body := ""

/-- Any text can be looked up. -/
theorem isLookup_lookupRequest (raw : String) : IsLookup (lookupRequest raw) raw := by
  -- The request says what it asks for in its query, and there the text is escaped.
  have htarget : (lookupRequest raw).target.toList =
      "/v1/request-accounts".toList ++ '?' :: ("origin".toList ++ '=' :: Text.escaped raw) := by
    simp [lookupRequest]
  have hquery : ∀ c ∈ "origin".toList ++ '=' :: Text.escaped raw, c ≠ '#' := by
    intro c hc
    rcases List.mem_append.1 hc with hkey | hvalue
    · rintro rfl
      exact absurd hkey (by decide)
    · rcases List.mem_cons.1 hvalue with rfl | hescaped
      · decide
      · exact Text.ne_of_mem_escaped hescaped (by decide) (by decide)
  have hmarks : "/v1/request-accounts".toList.all (fun c => c != '?' && c != '#') = true := by
    decide +kernel
  have hplain : ∀ c ∈ "/v1/request-accounts".toList, c ≠ '?' ∧ c ≠ '#' := by
    intro c hc
    simpa using List.all_eq_true.1 hmarks c hc
  obtain ⟨hpath, hfields⟩ := Http.Request.path_query_of_target htarget hplain hquery
  have hone := Http.formFields_field "origin".toList (List.all_eq_true.1 (by decide +kernel))
    (by decide +kernel) raw
  refine ⟨rfl, hpath.trans (by decide), ?_⟩
  rw [hfields, hone]
  rfl

/-- The response to a look-up, by the text that is looked up. -/
theorem respond_lookup (h : Host β σ) {r : Http.Request} {raw : String} (hr : IsLookup r raw)
    (s : State β σ) :
    h.respond r s =
      match lookup s.bindings raw with
      | .ok tab =>
        ⟨200, some (Json.object [("origin", .text raw), ("tab_id", .int tab)]).written,
          r.header? "x-request-id"⟩
      | .error fault =>
        ⟨fault.status, some (Json.object [("error", .text fault.message)]).written,
          r.header? "x-request-id"⟩ := by
  -- By its path and method the request is shown a binding, and its only field is the text.
  have hroute : h.route r s = showBinding r s := by
    unfold route reading
    rw [hr.path]
    simp only [hr.method, true_or, if_true]
  have hmethod : r.method ≠ "HEAD" := by simp [hr.method]
  unfold respond
  simp only [hroute, showBinding, hr.field, hmethod, if_false]
  cases lookup s.bindings raw with
  | ok tab => rfl
  | error fault => rfl

theorem asOrigin_of_isOrigin {raw : String} (hraw : Url.isOrigin raw = true) :
    asOrigin raw = .ok raw := by
  unfold asOrigin
  rw [if_pos hraw]

theorem lookup_of_not_origin (b : Port.Bindings) {raw : String}
    (hraw : Url.originOf? raw ≠ some raw) : lookup b raw = .error (.notOrigin raw) := by
  have hnot : ¬Url.isOrigin raw = true := mt Url.isOrigin_iff.1 hraw
  simp only [lookup, asOrigin, if_neg hnot]
  rfl

theorem lookup_of_origin (b : Port.Bindings) {raw : String} (hraw : Url.originOf? raw = some raw) :
    lookup b raw =
      match b.tab? raw with
      | some tab => .ok tab
      | none => .error .unbound := by
  simp only [lookup, asOrigin_of_isOrigin (Url.isOrigin_iff.2 hraw)]
  rfl

/-- What is bound is shown with its tab. -/
theorem respond_of_bound (h : Host β σ) {r : Http.Request} {origin : String}
    (hr : IsLookup r origin) {s : State β σ} {tab : Int64}
    (horigin : Url.originOf? origin = some origin) (htab : s.bindings.tab? origin = some tab) :
    h.respond r s =
      ⟨200, some (Json.object [("origin", .text origin), ("tab_id", .int tab)]).written,
        r.header? "x-request-id"⟩ := by
  have hfound : lookup s.bindings origin = .ok tab := by
    rw [lookup_of_origin _ horigin, htab]
  rw [respond_lookup h hr, hfound]

/-- What is looked up is refused unless it is the written form of its own origin; if it is, it is
found exactly if it is bound. -/
theorem status_lookup (h : Host β σ) {r : Http.Request} {raw : String} (hr : IsLookup r raw)
    (s : State β σ) :
    ((h.respond r s).status = 400 ↔ Url.originOf? raw ≠ some raw) ∧
    ((h.respond r s).status = 404 ↔
      Url.originOf? raw = some raw ∧ s.bindings.tab? raw = none) ∧
    ((h.respond r s).status = 200 ↔
      Url.originOf? raw = some raw ∧ ∃ tab, s.bindings.tab? raw = some tab) := by
  rw [respond_lookup h hr]
  by_cases hraw : Url.originOf? raw = some raw
  · rw [lookup_of_origin _ hraw]
    cases s.bindings.tab? raw with
    | none => simp [hraw, LookupFault.status]
    | some tab => simp [hraw]
  · rw [lookup_of_not_origin _ hraw]
    simp [hraw, LookupFault.status]

/-! ## The rule as a whole -/

/-- Look-ups and bindings meet in the written form of origins. After any run of the host, in which
the origins of the pages' URLs read back, every origin that is bound is accepted as it stands, and
looking it up shows it with its tab; under any other spelling it is refused. Whatever text is
looked up, and any can be, it is refused unless it is the written form of its own origin; if it is,
it is found exactly if it is bound. The requests of the run leave nothing behind: without them it
ends in the same state, the order of the bindings included. -/
theorem lookups_meet_bindings (cfg : Settings) (wallet : Wallet.Service Wallet)
    (session : Session.Store σ) (w : Wallet) (initial : σ) (steps : List Step)
    (hreads : ∀ step ∈ steps, step.ReadsBack) :
    let h := assemble cfg wallet session
    let start := Run.start (State.start cfg w initial)
    let run := (start.steps h steps).2
    let bindings := run.state.bindings
    (∀ origin tab, (origin, tab) ∈ bindings.entries →
      asOrigin origin = .ok origin ∧ bindings.tab? origin = some tab ∧
      (∀ r, IsLookup r origin → h.respond r run.state =
        ⟨200, some (Json.object [("origin", .text origin), ("tab_id", .int tab)]).written,
          r.header? "x-request-id"⟩) ∧
      (∀ r raw, IsLookup r raw → Url.originOf? raw = some origin → raw ≠ origin →
        (h.respond r run.state).status = 400)) ∧
    (∀ r raw, IsLookup r raw →
      ((h.respond r run.state).status = 400 ↔ Url.originOf? raw ≠ some raw) ∧
      ((h.respond r run.state).status = 404 ↔
        Url.originOf? raw = some raw ∧ bindings.tab? raw = none) ∧
      ((h.respond r run.state).status = 200 ↔
        Url.originOf? raw = some raw ∧ ∃ tab, bindings.tab? raw = some tab)) ∧
    (∀ raw, IsLookup (lookupRequest raw) raw) ∧
    (start.steps h (steps.filter fun s => !s.isRequest)).2 = run := by
  intro h start run bindings
  -- The bound origins are canonical in every state that the run reaches, and no two are the same.
  have hcanonical : run.Canonical :=
    Run.steps_canonical h (Run.start_canonical cfg w initial) hreads
  have hdistinct : bindings.entries.Pairwise fun x y => x.1 ≠ y.1 := by
    have hrecords : bindings = (Port.Bindings.empty cfg.capacity).recordAll _ :=
      Run.steps_bindings h start steps
    rw [hrecords]
    exact Port.Bindings.pairwise_entries_recordAll _ _
  refine ⟨?_, fun r raw hr => status_lookup h hr run.state, isLookup_lookupRequest,
    Run.steps_without_requests h start steps⟩
  intro origin tab hentry
  have horigin : Url.isOrigin origin = true := hcanonical.keys (origin, tab) hentry
  have htab : bindings.tab? origin = some tab := Port.Bindings.tab?_of_mem hdistinct hentry
  -- A canonical origin is looked up as it stands; another text for it is refused, though it names
  -- the same origin.
  refine ⟨asOrigin_of_isOrigin horigin, htab, fun r hr => ?_, fun r raw hr hraw hne => ?_⟩
  · exact respond_of_bound h hr (Url.isOrigin_iff.1 horigin) htab
  · refine (status_lookup h hr run.state).1.2 ?_
    rw [hraw]
    exact fun heq => hne (Option.some.inj heq).symm

/-- A page whose URL is written at length asks for accounts in the tab 3. -/
def longhandSteps : List Step :=
  [.opens "t" ⟨"contentscript",
      some ⟨some "https://dapp.example", some 3, some "HTTPS://DApp.Example:443/a?b#c"⟩⟩,
    .frame 0 objectFrame]

theorem longhandSteps_readBack : ∀ step ∈ longhandSteps, step.ReadsBack := by
  let site : Url.Origin := ⟨"https", .name "dapp.example".toList, 443⟩
  have hparsed : (Url.parse "HTTPS://DApp.Example:443/a?b#c").toOption.bind Url.origin? =
      some site := by decide +kernel
  have hagain : (Url.parse site.text).toOption.bind Url.origin? = some site := by decide +kernel
  intro step hstep
  simp only [longhandSteps, List.mem_cons, List.not_mem_nil, or_false] at hstep
  rcases hstep with rfl | rfl
  · intro url hurl o ho
    rw [← Option.some.inj hurl] at ho
    rw [← Option.some.inj (hparsed.symm.trans ho)]
    exact hagain
  · trivial

/-- The run of these steps. -/
def longhandRun : Run (Dict Json) :=
  ((Run.start (State.start chromeSettings .empty ∅)).steps
    (assemble chromeSettings Wallet.service Session.memory) longhandSteps).2

theorem entries_longhandRun :
    longhandRun.state.bindings.entries = [("https://dapp.example", 3)] := by decide +kernel

/-- Its tab is found under the written form of its origin and not as its URL has it. -/
theorem lookups_longhandSteps :
    (∀ step ∈ longhandSteps, step.ReadsBack) ∧
      (chromeHost.respond (lookupRequest "https://dapp.example") longhandRun.state).body =
        some (Json.object [("origin", .text "https://dapp.example"), ("tab_id", .int 3)]).written ∧
      (chromeHost.respond (lookupRequest "HTTPS://DApp.Example:443") longhandRun.state).status =
        400 := by
  refine ⟨longhandSteps_readBack, ?_⟩
  have hrule := lookups_meet_bindings chromeSettings Wallet.service Session.memory
    .empty ∅ longhandSteps longhandSteps_readBack
  simp only at hrule
  rw [← longhandRun, ← chromeHost] at hrule
  have hentries := entries_longhandRun
  -- From here on it does not matter which run it is.
  generalize longhandRun = run at hrule hentries ⊢
  obtain ⟨hbound, -, hany, -⟩ := hrule
  rw [hentries] at hbound
  have horigin : Url.originOf? "HTTPS://DApp.Example:443" = some "https://dapp.example" := by
    decide +kernel
  obtain ⟨-, -, hfound, hrefused⟩ :=
    hbound "https://dapp.example" 3 (List.mem_singleton_self _)
  constructor
  · rw [hfound (lookupRequest "https://dapp.example") (hany _)]
  · exact hrefused (lookupRequest "HTTPS://DApp.Example:443") "HTTPS://DApp.Example:443" (hany _)
      horigin (by decide)

end Host

end WalletGate
