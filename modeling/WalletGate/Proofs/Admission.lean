import WalletGate.Host.Handshake
import WalletGate.Proofs.Openings
import WalletGate.Proofs.Origins
/-!
# Admission of handshakes

What a handshake is to an assembled host, in terms of what the caller chose and of the origin that
the browser stated. The caller chooses the name, the tab and the URL of a handshake, yet none of
them can put an origin on the requests of a page that the browser did not state for it:

* `handshake_admission`: the class and the origin of every handshake, case by case; one without a
  stated origin is never open, the stated origin alone fixes the origin of the requests, and no page
  shares an origin with the wallet's own windows.
-/

namespace WalletGate.Host

open Port (Policy)

variable {β σ : Type}

/-! ## Handshakes -/

namespace Handshake

/-- The handshake is one of the wallet's own windows: the browser states the extension's origin, and
where windows are told by name it has the name of one. -/
def IsWindow (s : Settings) (x : Handshake) (stated : Option String) : Prop :=
  s.extensionId ≠ "" ∧ stated = some (s.platform.scheme ++ "://" ++ s.extensionId) ∧
    (s.platform = .firefox → x.name ∈ Port.windowNames)

/-- The handshake is a page of an origin in a tab: the browser states the origin of the page's URL.
-/
def IsPage (x : Handshake) (stated : Option String) (tab : Int64) (origin : String) : Prop :=
  x.tab = some tab ∧ ∃ url header, x.url = some url ∧ stated = some header ∧
    Url.originOf? header = some origin ∧ Url.originOf? url = some origin

/-- The connection that a handshake opens on the host of some settings. -/
def connection (s : Settings) (wallet : Wallet.Service β) (session : Session.Store σ) (now : String)
    (state : State β σ) (x : Handshake) (stated : Option String) : Connection :=
  ((assemble s wallet session).accept now (x.port stated) state).1.connection

/-- Nothing in a handshake stands in for the origin that the browser states. -/
theorem stated_port (x : Handshake) (stated : Option String) :
    (x.port stated).sender.bind (·.origin) = stated := by
  unfold port
  simp only
  split
  · rfl
  · cases stated <;> rfl

end Handshake

/-! ## Classes under a policy that requires proof -/

/-- The policy of the host of some settings. -/
def policyOf (s : Settings) : Policy := ⟨s.platform, s.extensionId, s.reservedNames, true⟩

theorem isReserved_iff (s : Settings) (x : Handshake) (stated : Option String) :
    (policyOf s).isReserved (x.port stated).name = true ↔ x.name ∈ s.reservedNames :=
  decide_eq_true_iff

theorem trustsOrigin_iff (s : Settings) (x : Handshake) (stated : Option String) :
    (policyOf s).trustsOrigin (x.port stated) = true ↔
      s.extensionId ≠ "" ∧ stated = some (s.platform.scheme ++ "://" ++ s.extensionId) := by
  unfold Policy.trustsOrigin Policy.extensionOrigin? policyOf
  rw [x.stated_port stated]
  by_cases hid : s.extensionId = ""
  · simp [hid]
  · cases stated with
    | none => simp [hid]
    | some origin => simp [hid]

theorem trusts_iff (s : Settings) (x : Handshake) (stated : Option String) :
    (policyOf s).trusts (x.port stated) = true ↔ x.IsWindow s stated := by
  have horigin := trustsOrigin_iff s x stated
  have hplatform : (policyOf s).platform = s.platform := rfl
  unfold Policy.trusts Policy.rule Port.TrustRule.ofPlatform Handshake.IsWindow
  rw [hplatform]
  -- Only one browser has a rule with a proof; under the other four the same trust is said more
  -- shortly.
  cases hp : s.platform with
  | firefox =>
    have hname : (x.port stated).name = x.name := rfl
    have hproof : (policyOf s).requiresProof = true := rfl
    rw [hp] at horigin
    simp only [hproof, hname, Bool.not_true, Bool.false_or, Bool.and_eq_true, decide_eq_true_eq,
      horigin]
    constructor
    · rintro ⟨hwindow, hid, hstated⟩
      exact ⟨hid, hstated, fun _ => hwindow⟩
    · rintro ⟨hid, hstated, hwindow⟩
      exact ⟨hwindow trivial, hid, hstated⟩
  | chrome | edge | opera | brave =>
    rw [hp] at horigin
    simp [horigin]

/-- A port is a page if its URL has an origin that the browser confirms; where no proof is required,
a browser that says nothing counts as confirming. -/
theorem pageClass_eq_external_iff (p : Policy) (port : Port) (tab : Int64) (origin : String) :
    p.pageClass port = .external tab origin ↔
      ∃ stated url, port.sender = some ⟨stated, some tab, some url⟩ ∧
        Url.originOf? url = some origin ∧
        (∀ header, stated = some header → Url.originOf? header = some origin) ∧
        (stated = none → p.requiresProof = false) := by
  unfold Policy.pageClass
  constructor
  -- The cases of the definition in its own order: a sender, its origin by its address, then the
  -- header.
  · intro h
    split at h
    · rename_i stated t url hsender
      split at h
      · exact absurd h (by simp)
      · rename_i o hurl
        split at h
        · rename_i header
          split at h
          · rename_i hheader
            injection h with htab horigin
            subst htab horigin
            exact ⟨some header, url, hsender, hurl, by simpa using hheader, by simp⟩
          · exact absurd h (by simp)
        · split at h
          · exact absurd h (by simp)
          · rename_i hproof
            injection h with htab horigin
            subst htab horigin
            exact ⟨none, url, hsender, hurl, by simp, by simpa using hproof⟩
    · exact absurd h (by simp)
  · rintro ⟨stated, url, hsender, hurl, hheader, hproof⟩
    cases stated with
    | none => simp [hsender, hurl, hproof rfl]
    | some header => simp [hsender, hurl, hheader header rfl]

theorem pageClass_port_iff (s : Settings) (x : Handshake) (stated : Option String) (tab : Int64)
    (origin : String) :
    (policyOf s).pageClass (x.port stated) = .external tab origin ↔ x.IsPage stated tab origin := by
  -- Every port of a handshake needs a proof, so the case without a header is out.
  have hproof : (policyOf s).requiresProof ≠ false := by simp [policyOf]
  rw [pageClass_eq_external_iff]
  constructor
  · rintro ⟨stated', url, hsender, hurl, hheader, hnone⟩
    have hstated : stated = stated' := by rw [← x.stated_port stated, hsender]; rfl
    subst hstated
    obtain ⟨header, rfl⟩ : ∃ header, stated = some header :=
      Option.ne_none_iff_exists'.1 fun h => hproof (hnone h)
    have hgiven : x.tab = some tab ∧ x.url = some url := by
      unfold Handshake.port at hsender
      simp only at hsender
      split at hsender <;> simp_all
    exact ⟨hgiven.1, url, header, hgiven.2, rfl, hheader header rfl, hurl⟩
  · rintro ⟨htab, url, header, hgiven, rfl, hheader, hurl⟩
    refine ⟨some header, url, ?_, hurl, by simpa using hheader, by simp⟩
    unfold Handshake.port
    rw [htab, hgiven]

theorem pageClass_eq_rejected_or (p : Policy) (port : Port) :
    p.pageClass port = .rejected ∨ ∃ tab origin, p.pageClass port = .external tab origin := by
  unfold Policy.pageClass
  split
  · split
    · exact .inl rfl
    · split <;> split <;> simp
  · exact .inl rfl

/-! ## Connections -/

section Handshakes

variable (s : Settings) (wallet : Wallet.Service β) (session : Session.Store σ)
  (now : String) (state : State β σ) (x : Handshake) (stated : Option String)

theorem connection_eq : x.connection s wallet session now state stated
    = Connection.ofPort (policyOf s) (x.port stated) :=
  accept_connection _ _ _ _

theorem connection_reserved (hname : x.name ∈ s.reservedNames) :
    (x.connection s wallet session now state stated).kind = .blocked ∧
      (x.connection s wallet session now state stated).origin = none := by
  have hkind : (policyOf s).classOf (x.port stated) = .blocked := by
    unfold Policy.classOf
    rw [if_pos ((isReserved_iff s x stated).2 hname)]
  rw [connection_eq]
  simp [Connection.ofPort, hkind]

theorem connection_window (hname : x.name ∉ s.reservedNames) (hwindow : x.IsWindow s stated) :
    (x.connection s wallet session now state stated).kind = .internal ∧
      (x.connection s wallet session now state stated).origin
        = some (s.platform.scheme ++ "://" ++ s.extensionId) := by
  have hkind : (policyOf s).classOf (x.port stated) = .internal := by
    unfold Policy.classOf
    rw [if_neg (mt (isReserved_iff s x stated).1 hname), if_pos ((trusts_iff s x stated).2 hwindow)]
  rw [connection_eq]
  unfold Connection.ofPort
  simp only [hkind, x.stated_port stated]
  exact ⟨trivial, by rw [hwindow.2.1]; rfl⟩

/-- What is neither reserved nor a window has the class of a page. -/
theorem connection_page (hname : x.name ∉ s.reservedNames) (hwindow : ¬ x.IsWindow s stated) :
    (∃ tab origin, x.IsPage stated tab origin ∧
        (x.connection s wallet session now state stated).kind = .external tab origin ∧
        (x.connection s wallet session now state stated).origin = some origin) ∨
      ((∀ tab origin, ¬ x.IsPage stated tab origin) ∧
        (x.connection s wallet session now state stated).kind = .rejected ∧
        (x.connection s wallet session now state stated).origin = none) := by
  -- What is neither reserved nor a window is classed as a page, and that may still fail.
  have hkind : (policyOf s).classOf (x.port stated) = (policyOf s).pageClass (x.port stated) := by
    unfold Policy.classOf
    rw [if_neg (mt (isReserved_iff s x stated).1 hname),
      if_neg (mt (trusts_iff s x stated).1 hwindow)]
  rw [connection_eq]
  rcases pageClass_eq_rejected_or (policyOf s) (x.port stated) with hrejected | ⟨t, o, hpage⟩
  · refine .inr ⟨fun tab origin hpage => ?_, ?_⟩
    · rw [← pageClass_port_iff s, hrejected] at hpage
      exact absurd hpage (by simp)
    · simp [Connection.ofPort, hkind, hrejected]
  · refine .inl ⟨t, o, (pageClass_port_iff s x stated t o).1 hpage, ?_⟩
    simp [Connection.ofPort, hkind, hpage]

/-- An open handshake is a window stamped with the extension's origin, or a page stamped with the
origin that the browser states. -/
theorem connection_open (hopen : (x.connection s wallet session now state stated).isOpen = true) :
    (x.IsWindow s stated ∧ (x.connection s wallet session now state stated).kind = .internal ∧
        (x.connection s wallet session now state stated).origin
          = some (s.platform.scheme ++ "://" ++ s.extensionId)) ∨
      ∃ tab origin, x.IsPage stated tab origin ∧
        (x.connection s wallet session now state stated).kind = .external tab origin ∧
        (x.connection s wallet session now state stated).origin = some origin := by
  unfold Connection.isOpen at hopen
  by_cases hname : x.name ∈ s.reservedNames
  · rw [(connection_reserved s wallet session now state x stated hname).1] at hopen
    exact absurd hopen (by simp [Port.Class.isOpen])
  · by_cases hwindow : x.IsWindow s stated
    · exact .inl ⟨hwindow, connection_window s wallet session now state x stated hname hwindow⟩
    · rcases connection_page s wallet session now state x stated hname hwindow with
        hpage | ⟨_, hrejected, _⟩
      · exact .inr hpage
      · rw [hrejected] at hopen
        exact absurd hopen (by simp [Port.Class.isOpen])

end Handshakes

/-- Two open handshakes for which the browser states one origin are stamped with one origin. A page
cannot be taken for a window here: the extension's own pages have no origin of the web. -/
theorem stamp_eq_of_stated_eq (s : Settings) (wallet : Wallet.Service β)
    (session : Session.Store σ) (now now' : String) (state state' : State β σ) (x y : Handshake)
    (stated : Option String)
    (hx : (x.connection s wallet session now state stated).isOpen = true)
    (hy : (y.connection s wallet session now' state' stated).isOpen = true) :
    (x.connection s wallet session now state stated).origin
      = (y.connection s wallet session now' state' stated).origin := by
  -- A header that names the extension serializes no web origin, so the two kinds of open connection
  -- never share a header.
  have hapart {z : Handshake} {tab : Int64} {origin : String}
      (hstated : stated = some (s.platform.scheme ++ "://" ++ s.extensionId)) :
      ¬ z.IsPage stated tab origin := by
    rintro ⟨_, _, header, _, hheader, horigin, _⟩
    rw [hstated] at hheader
    rw [← Option.some.inj hheader, Url.originOf?_platform] at horigin
    exact absurd horigin (by simp)
  rcases connection_open s wallet session now state x stated hx with
    -- Both connections are open, so each is a window or a page; only equal kinds are left.
    ⟨hwx, _, hox⟩ | ⟨_, o, hpx, _, hox⟩ <;>
  rcases connection_open s wallet session now' state' y stated hy with
    ⟨hwy, _, hoy⟩ | ⟨_, o', hpy, _, hoy⟩
  · rw [hox, hoy]
  · exact absurd hpy (hapart hwx.2.1)
  · exact absurd hpx (hapart hwy.2.1)
  · obtain ⟨_, _, header, _, hheader, horigin, _⟩ := hpx
    obtain ⟨_, _, header', _, hheader', horigin', _⟩ := hpy
    rw [hheader] at hheader'
    rw [← Option.some.inj hheader', horigin] at horigin'
    rw [hox, hoy, horigin']

/-- No page is stamped with the origin of a window. -/
theorem internal_iff_of_stamp_eq (s : Settings) (wallet : Wallet.Service β)
    (session : Session.Store σ) (now now' : String) (state state' : State β σ) (x y : Handshake)
    (stated stated' : Option String)
    (hx : (x.connection s wallet session now state stated).isOpen = true)
    (hy : (y.connection s wallet session now' state' stated').isOpen = true)
    (hstamp : (x.connection s wallet session now state stated).origin
      = (y.connection s wallet session now' state' stated').origin) :
    (x.connection s wallet session now state stated).kind = .internal ↔
      (y.connection s wallet session now' state' stated').kind = .internal := by
  -- Nor does a stamp: no web origin is the extension's own.
  have hapart {z : Handshake} {header : Option String} {tab : Int64} {origin : String}
      (hpage : z.IsPage header tab origin) :
      origin ≠ s.platform.scheme ++ "://" ++ s.extensionId := by
    obtain ⟨_, _, _, _, _, horigin, _⟩ := hpage
    exact Url.originOf?_ne_platform horigin s.platform s.extensionId
  rcases connection_open s wallet session now state x stated hx with
    ⟨_, hkx, hox⟩ | ⟨_, o, hpx, hkx, hox⟩ <;>
  rcases connection_open s wallet session now' state' y stated' hy with
    ⟨_, hky, hoy⟩ | ⟨_, o', hpy, hky, hoy⟩
  · rw [hkx, hky]
  · rw [hox, hoy] at hstamp
    exact absurd (Option.some.inj hstamp).symm (hapart hpy)
  · rw [hox, hoy] at hstamp
    exact absurd (Option.some.inj hstamp) (hapart hpx)
  · rw [hkx, hky]
    simp

/-! ## The rule as a whole -/

/-- Every handshake on an assembled host, whatever the caller puts into it. A reserved name is
blocked. Otherwise the wallet's windows are those for which the browser states the extension's
origin, by name too on Firefox; what is no window is a page exactly if the browser states the origin
of its URL, and is rejected if not. So a handshake without a stated origin is never open, two open
handshakes with one stated origin are stamped alike, and no page is stamped like a window. -/
theorem handshake_admission (s : Settings) (wallet : Wallet.Service β) (session : Session.Store σ)
    (now : String) (state : State β σ) (x : Handshake) (stated : Option String) :
    let c := x.connection s wallet session now state stated
    (x.name ∈ s.reservedNames → c.kind = .blocked ∧ c.origin = none) ∧
    (x.name ∉ s.reservedNames →
      (c.kind = .internal ↔ x.IsWindow s stated) ∧
      (x.IsWindow s stated → c.origin = some (s.platform.scheme ++ "://" ++ s.extensionId)) ∧
      (¬ x.IsWindow s stated →
        (∀ tab origin, c.kind = .external tab origin ∧ c.origin = some origin ↔
          x.IsPage stated tab origin) ∧
        ((∀ tab origin, ¬ x.IsPage stated tab origin) → c.kind = .rejected ∧ c.origin = none))) ∧
    (stated = none → c.isOpen = false) ∧
    (∀ (now' : String) (state' : State β σ) (y : Handshake),
      let c' := y.connection s wallet session now' state' stated
      c.isOpen = true → c'.isOpen = true → c.origin = c'.origin) ∧
    (∀ (now' : String) (state' : State β σ) (y : Handshake) (stated' : Option String),
      let c' := y.connection s wallet session now' state' stated'
      c.isOpen = true → c'.isOpen = true → c.origin = c'.origin →
        (c.kind = .internal ↔ c'.kind = .internal)) := by
  intro c
  refine ⟨connection_reserved s wallet session now state x stated, fun hname => ⟨?_, ?_, ?_⟩,
    ?_, fun now' state' y hx hy => ?_, fun now' state' y stated' hx hy hstamp => ?_⟩
  · -- A window is internal, and what is no window is a page or rejected.
    constructor
    · intro hkind
      apply Classical.byContradiction
      intro hwindow
      rcases connection_page s wallet session now state x stated hname hwindow with
        ⟨_, _, _, hpage, _⟩ | ⟨_, hrejected, _⟩
      · exact absurd (hkind.symm.trans hpage) (by simp)
      · exact absurd (hkind.symm.trans hrejected) (by simp)
    · intro hwindow
      exact (connection_window s wallet session now state x stated hname hwindow).1
  · intro hwindow
    exact (connection_window s wallet session now state x stated hname hwindow).2
  · intro hwindow
    rcases connection_page s wallet session now state x stated hname hwindow with
      ⟨t, o, hpage, hkind, horigin⟩ | ⟨hnone, hkind, horigin⟩
    · refine ⟨fun tab origin => ⟨?_, fun hpage' => ?_⟩, fun hnone => absurd hpage (hnone t o)⟩
      · rintro ⟨hkind', _⟩
        have heq := hkind.symm.trans hkind'
        simp only [Port.Class.external.injEq] at heq
        rw [← heq.1, ← heq.2]
        exact hpage
      · -- The tab and the stated origin leave no choice of a page.
        have htab : t = tab := Option.some.inj (hpage.1.symm.trans hpage'.1)
        have hsame : o = origin := by
          obtain ⟨_, _, header, _, hheader, ho, _⟩ := hpage
          obtain ⟨_, _, header', _, hheader', ho', _⟩ := hpage'
          have hh : header = header' := Option.some.inj (hheader.symm.trans hheader')
          rw [← hh, ho] at ho'
          exact Option.some.inj ho'
        rw [← htab, ← hsame]
        exact ⟨hkind, horigin⟩
    · refine ⟨fun tab origin => ⟨?_, fun hpage => absurd hpage (hnone tab origin)⟩,
        fun _ => ⟨hkind, horigin⟩⟩
      rintro ⟨hkind', _⟩
      exact absurd (hkind.symm.trans hkind') (by simp)
  · intro hstated
    apply Classical.byContradiction
    intro hopen
    -- An open connection has a header, whichever of the two kinds it is.
    rcases connection_open s wallet session now state x stated (by simpa using hopen) with
      ⟨hwindow, _⟩ | ⟨_, _, hpage, _⟩
    · exact absurd (hstated.symm.trans hwindow.2.1) (by simp)
    · obtain ⟨_, _, _, _, hheader, _⟩ := hpage
      exact absurd (hstated.symm.trans hheader) (by simp)
  · exact stamp_eq_of_stated_eq s wallet session now now' state state' x y stated hx hy
  · exact internal_iff_of_stamp_eq s wallet session now now' state state' x y stated stated' hx hy
      hstamp

end WalletGate.Host
