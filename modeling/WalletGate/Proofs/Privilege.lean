import WalletGate.Proofs.Admission
/-!
# Proof of origin and privilege

What a port loses, and that it never gains, when a policy begins to require proof of origin. The
rules are tried in order, so a port that is no longer taken for one of the wallet's windows is tried
as a page; it was more before than a page can be.

* `Class.rank`: which class may do more than which;
* `trusts_withProof_iff`, `pageClass_withProof`: what proof changes in each rule;
* `Lowered`: the class without proof and the class with it, by the rule that settles each, and
  `lowered_classOf`: there are no other cases;
* `classOf_withProof`: all that proof can change in the class of a port.
-/

namespace WalletGate.Port

/-- What a port of the class may do; one that is not served may do nothing. -/
def Class.rank : Class → Nat
  | blocked | rejected => 0
  | external _ _ => 1
  | internal => 2

theorem Class.rank_le_internal (c : Class) : c.rank ≤ internal.rank := by
  cases c with
  | internal => exact Nat.le_refl 2
  | external tab origin => exact Nat.le_succ 1
  | blocked | rejected => exact Nat.zero_le 2

/-- The origin that the browser states for the end that opened a port. -/
def stated? (port : Port) : Option String := port.sender.bind (·.origin)

namespace Policy

/-- The policy with proof of origin required or not. -/
def withProof (p : Policy) (proof : Bool) : Policy := { p with requiresProof := proof }

/-! ## The rule for windows -/

section Windows

variable {p : Policy} {port : Port}

theorem trusts_of_firefox (hplatform : p.platform = .firefox) :
    p.trusts port = true ↔
      port.name ∈ windowNames ∧ (p.requiresProof = true → p.trustsOrigin port = true) := by
  have hrule : p.rule = .name := by rw [rule, hplatform, TrustRule.ofPlatform]
  rw [trusts, hrule, Bool.and_eq_true, decide_eq_true_iff, Bool.or_eq_true, Bool.not_eq_true',
    ← Bool.not_eq_true, ← Decidable.imp_iff_not_or]

/-- Only Firefox tells windows by their name. -/
theorem trusts_of_not_firefox (hplatform : p.platform ≠ .firefox) :
    p.trusts port = p.trustsOrigin port := by
  have hrule : p.rule = .origin := by
    rw [rule]
    cases hp : p.platform with
    | firefox => exact absurd hp hplatform
    | _ => rfl
  rw [trusts, hrule]

/-- What proof asks of a window is the extension's origin, where the name was enough. -/
theorem trusts_withProof_iff (p : Policy) (port : Port) :
    (p.withProof true).trusts port = true ↔
      (p.withProof false).trusts port = true ∧
        (p.platform = .firefox → p.trustsOrigin port = true) := by
  have horigin (proof : Bool) : (p.withProof proof).trustsOrigin port = p.trustsOrigin port := rfl
  by_cases hplatform : p.platform = .firefox
  · rw [trusts_of_firefox (p := p.withProof true) hplatform,
      trusts_of_firefox (p := p.withProof false) hplatform, horigin, horigin]
    simp [withProof, hplatform]
  · rw [trusts_of_not_firefox (p := p.withProof true) hplatform,
      trusts_of_not_firefox (p := p.withProof false) hplatform, horigin, horigin]
    simp [hplatform]

end Windows

/-! ## The rule for pages -/

/-- With proof, a page of which the browser says nothing is rejected; any other page is what it is
without proof. -/
theorem pageClass_withProof (p : Policy) (port : Port) :
    (p.withProof true).pageClass port =
      if (stated? port).isSome then (p.withProof false).pageClass port else .rejected := by
  unfold pageClass stated? withProof
  rcases port with ⟨name, _ | ⟨_ | stated, _ | tab, _ | url⟩⟩ <;> try rfl
  -- A tab and a URL without a stated origin: both outcomes of the URL are rejected.
  cases hurl : Url.originOf? url with
  | none => simp [hurl]
  | some origin => simp [hurl]

/-- A port that is taken for a page is one by the rule for pages. -/
theorem pageClass_of_classOf_external {p : Policy} {port : Port} {tab : Int64} {origin : String}
    (h : p.classOf port = .external tab origin) : p.pageClass port = .external tab origin := by
  unfold classOf at h
  split at h
  · cases h
  · split at h
    · cases h
    · exact h

/-! ## Both rules, without proof and with it -/

/-- The class that a port has without proof, and the one that it has with it. In `byName` alone does
proof make a port fall through from the rule for windows to the rule for pages. -/
inductive Lowered (p : Policy) (port : Port) : Class → Class → Prop where
  | blocked : Lowered p port .blocked .blocked
  | rejected : Lowered p port .rejected .rejected
  | window (hproof : p.platform = .firefox → p.trustsOrigin port = true) :
      Lowered p port .internal .internal
  | byName {c : Class} (hplatform : p.platform = .firefox) (hname : port.name ∈ windowNames)
      (horigin : p.trustsOrigin port = false)
      (hpage : c = .rejected ∨ ∃ tab origin, c = .external tab origin) :
      Lowered p port .internal c
  | page {tab : Int64} {origin : String} (hstated : (stated? port).isSome = true) :
      Lowered p port (.external tab origin) (.external tab origin)
  | unstated {tab : Int64} {origin : String} (hstated : (stated? port).isSome = false) :
      Lowered p port (.external tab origin) .rejected

/-- What proof makes of a port that is neither reserved nor one of the wallet's windows. -/
theorem lowered_pageClass (p : Policy) (port : Port) :
    Lowered p port ((p.withProof false).pageClass port) ((p.withProof true).pageClass port) := by
  rw [pageClass_withProof]
  rcases Host.pageClass_eq_rejected_or (p.withProof false) port with hlax | ⟨tab, origin, hlax⟩
  · rw [hlax, ite_self]
    exact .rejected
  · rw [hlax]
    by_cases hstated : (stated? port).isSome = true
    · rw [if_pos hstated]
      exact .page hstated
    · rw [if_neg hstated]
      exact .unstated (Bool.eq_false_iff.2 hstated)

theorem lowered_classOf (p : Policy) (port : Port) :
    Lowered p port ((p.withProof false).classOf port) ((p.withProof true).classOf port) := by
  have hreserved (proof : Bool) :
      (p.withProof proof).isReserved port.name = p.isReserved port.name := rfl
  unfold classOf
  rw [hreserved, hreserved]
  -- The rules in their order: reserved names first, then the window, then the page. Proof plays no
  -- part in the first.
  by_cases hblocked : p.isReserved port.name = true
  · rw [if_pos hblocked, if_pos hblocked]
    exact .blocked
  · rw [if_neg hblocked, if_neg hblocked]
    by_cases hlax : (p.withProof false).trusts port = true
    · rw [if_pos hlax]
      by_cases hstrict : (p.withProof true).trusts port = true
      · rw [if_pos hstrict]
        exact .window ((trusts_withProof_iff p port).1 hstrict).2
      · -- Proof takes this one for no window, which it can do on Firefox alone.
        have hlost : ¬(p.platform = .firefox → p.trustsOrigin port = true) := fun hproof =>
          hstrict ((trusts_withProof_iff p port).2 ⟨hlax, hproof⟩)
        obtain ⟨hplatform, horigin⟩ := Classical.not_imp.1 hlost
        have hname := ((trusts_of_firefox (p := p.withProof false) hplatform).1 hlax).1
        rw [if_neg hstrict]
        exact .byName hplatform hname (Bool.eq_false_iff.2 horigin)
          (Host.pageClass_eq_rejected_or _ port)
    -- Proof only ever takes the window away, so who is none without it is none with it.
    · have hstrict : ¬(p.withProof true).trusts port = true := fun hstrict =>
        hlax ((trusts_withProof_iff p port).1 hstrict).1
      rw [if_neg hlax, if_neg hstrict]
      exact lowered_pageClass p port

namespace Lowered

variable {p : Policy} {port : Port} {lax strict : Class} (h : Lowered p port lax strict)

include h

theorem rank_le : strict.rank ≤ lax.rank := by
  cases h with
  | byName => exact strict.rank_le_internal
  | unstated => exact Nat.zero_le _
  | _ => exact Nat.le_refl _

theorem blocked_iff : lax = .blocked ↔ strict = .blocked := by
  cases h with
  | byName _ _ _ hpage =>
    rcases hpage with rfl | ⟨tab, origin, rfl⟩
    · simp
    · simp
  | _ => simp

theorem internal_of_internal (hstrict : strict = .internal) : lax = .internal := by
  cases h with
  | byName => rfl
  | unstated => cases hstrict
  | _ => exact hstrict

/-- A window stays one with proof if the browser states the extension's origin, where windows are
told by their name without. -/
theorem internal_iff (hlax : lax = .internal) :
    strict = .internal ↔ (p.platform = .firefox → p.trustsOrigin port = true) := by
  cases h with
  | window hproof => exact iff_of_true rfl hproof
  | byName hplatform _ horigin hpage =>
    refine iff_of_false ?_ fun hproof => absurd (hproof hplatform) (by simp [horigin])
    rcases hpage with rfl | ⟨tab, origin, rfl⟩
    · simp
    · simp
  | _ => cases hlax

theorem of_external {tab : Int64} {origin : String} (hstrict : strict = .external tab origin) :
    lax = .external tab origin ∨
      (lax = .internal ∧ p.platform = .firefox ∧ port.name ∈ windowNames) := by
  cases h with
  | byName hplatform hname => exact .inr ⟨rfl, hplatform, hname⟩
  | page => exact .inl hstrict
  | _ => cases hstrict

theorem rejected_of_rejected (hlax : lax = .rejected) : strict = .rejected := by
  cases h with
  | rejected => rfl
  | _ => cases hlax

theorem eq_of_external {tab : Int64} {origin : String} (hlax : lax = .external tab origin) :
    strict = if (stated? port).isSome then .external tab origin else .rejected := by
  cases h with
  | page hstated => rw [if_pos hstated, hlax]
  | unstated hstated => rw [hstated, if_neg Bool.false_ne_true]
  | _ => cases hlax

end Lowered

/-! ## The rule as a whole -/

/-- In both modes the origin of a page is that of its URL, and the one that the browser states if it
states any. -/
theorem origin_of_external {p : Policy} {port : Port} {tab : Int64} {origin : String}
    (h : p.classOf port = .external tab origin) :
    ∃ stated url, port.sender = some ⟨stated, some tab, some url⟩ ∧
      Url.originOf? url = some origin ∧
      ∀ header, stated = some header → Url.originOf? header = some origin := by
  obtain ⟨stated, url, hsender, hurl, hheader, _⟩ :=
    (Host.pageClass_eq_external_iff p port tab origin).1 (pageClass_of_classOf_external h)
  exact ⟨stated, url, hsender, hurl, hheader⟩

/-- What a policy that requires proof of origin makes of a port, compared with the same policy
without. No port may do more with proof than without. The same ports are blocked. A window with
proof is one without, and one without is one with proof unless it was told by its name, on Firefox,
and the browser does not state the extension's origin for it. A page with proof is the same page
without, or was a window by its name. What is rejected without proof is rejected with it; a page
without proof is the same page with it if the browser states an origin, and is rejected if not. In
both modes the origin of a page is that of its URL, and that which the browser states if it states
one. -/
theorem classOf_withProof (p : Policy) (port : Port) :
    let lax := (p.withProof false).classOf port
    let strict := (p.withProof true).classOf port
    strict.rank ≤ lax.rank ∧
    (lax = .blocked ↔ strict = .blocked) ∧
    (strict = .internal → lax = .internal) ∧
    (p.platform ≠ .firefox → lax = .internal → strict = .internal) ∧
    (lax = .internal →
      (strict = .internal ↔ (p.platform = .firefox → p.trustsOrigin port = true))) ∧
    (∀ tab origin, strict = .external tab origin →
      lax = .external tab origin ∨
        (lax = .internal ∧ p.platform = .firefox ∧ port.name ∈ windowNames)) ∧
    (lax = .rejected → strict = .rejected) ∧
    (∀ tab origin, lax = .external tab origin →
      strict = if (stated? port).isSome then .external tab origin else .rejected) ∧
    (∀ proof tab origin, (p.withProof proof).classOf port = .external tab origin →
      ∃ stated url, port.sender = some ⟨stated, some tab, some url⟩ ∧
        Url.originOf? url = some origin ∧
        ∀ header, stated = some header → Url.originOf? header = some origin) := by
  intro lax strict
  -- The relation says how the two classes can stand to each other, and each clause is read off it.
  have hlowered : Lowered p port lax strict := lowered_classOf p port
  refine ⟨hlowered.rank_le, hlowered.blocked_iff, hlowered.internal_of_internal,
    fun hplatform hlax => ?_, hlowered.internal_iff, fun _ _ => hlowered.of_external,
    hlowered.rejected_of_rejected, fun _ _ => hlowered.eq_of_external,
    fun _ _ _ => origin_of_external⟩
  exact (hlowered.internal_iff hlax).2 fun hfirefox => absurd hfirefox hplatform

/-- On Firefox a page can pass for a window by its name, until proof is required. -/
example :
    let p : Policy := ⟨.firefox, "wallet", [], false⟩
    let port : Port :=
      ⟨"popup", some ⟨some "https://a.example", some 1, some "https://a.example/x"⟩⟩
    p.classOf port = .internal ∧
      (p.withProof true).classOf port = .external 1 "https://a.example" := by
  decide +kernel

end Policy

end WalletGate.Port
