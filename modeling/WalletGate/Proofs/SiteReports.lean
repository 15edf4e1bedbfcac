import WalletGate.Proofs.Faults
import WalletGate.Proofs.Hosting
import WalletGate.Proofs.Requests
/-!
# What sites report about themselves

Which parameters report a name and an icon, and what becomes of a request that reports them: there
are four reasons for which nothing is kept, and they are looked for in a fixed order.

* `Reports`: the parameters that report a name and an icon, said without decoding, and
  `ofParams_eq_ok_iff`: these are the ones that are read;
* `answer_of_noOrigin`, `answer_of_unread`, `answer_of_notGranted`, `answer_of_refused` and
  `answer_of_kept`: the answers, in the order in which they are decided;
* `answer_siteReport`: which of them a request gets, and what is kept, on any host.
-/

namespace WalletGate.Rpc

open Decoder (Layout)
open Wallet (Hook Call Service Refusal)

namespace SiteReport

/-! ## Parameters that report -/

/-- What may stand in the place of an icon: nothing or null for none, or a text. -/
inductive IsIcon : Option Json → Option String → Prop where
  | absent : IsIcon none none
  | null : IsIcon (some .null) none
  | text (icon : String) : IsIcon (some (.text icon)) (some icon)

/-- The parameters report a name and an icon. -/
inductive Reports : Option Json → String → Option String → Prop where
  /-- Two keys of an object count, whatever else it has. -/
  | object {fields : List (String × Json)} {name : String} {icon : Option String}
      (hname : (Json.object fields).field? "name" = some (.text name))
      (hicon : IsIcon ((Json.object fields).field? "icon") icon) :
      Reports (some (.object fields)) name icon
  /-- An array has one item or two. -/
  | array {items : List Json} {name : String} {icon : Option String} (hlength : items.length ≤ 2)
      (hname : items[0]? = some (.text name)) (hicon : IsIcon items[1]? icon) :
      Reports (some (.array items)) name icon

/-- The icon that is read from its place, if one can be. -/
def iconOf? : Option Json → Option (Option String)
  | none | some .null => some none
  | some v => v.text?.map some

theorem iconOf?_eq_some_iff {v : Option Json} {icon : Option String} :
    iconOf? v = some icon ↔ IsIcon v icon := by
  constructor
  · intro h
    match v with
    | none | some .null =>
      cases h
      constructor
    | some (.text s) =>
      cases h
      exact .text s
    | some (.bool _) | some (.number _) | some (.array _) | some (.object _) => cases h
  · intro h
    cases h with
    | absent | null | text icon => rfl

/-! ## Decoding -/

theorem toOption_optional_text (v : Json) :
    ((Decoder.optional .text).ofJson v).toOption = iconOf? (some v) := by
  cases v <;> rfl

theorem find?_name : layout.columns.find? (·.key = "name") =
    some (Decoder.column "name" (.optional .json) Draft.name
      fun v d => { d with name := some v }) := rfl

theorem find?_icon : layout.columns.find? (·.key = "icon") =
    some (Decoder.column "icon" (.optional .text) Draft.icon
      fun v d => { d with icon := some v }) := rfl

/-- The report of a name, which may be any value, and of an icon. -/
def ofParts (name icon : Option Json) : Option SiteReport :=
  (iconOf? icon).map fun icon => ⟨name.bind Json.unlessNull, icon⟩

theorem toOption_ofJson_parts (name icon : Option Json) :
    ((Decoder.record layout).ofJson
      (.object (Json.present [("icon", icon), ("name", name)]))).toOption =
      ofParts name icon := by
  have hkeys : ["icon", "name"].Pairwise (· < ·) := by decide
  refine (Layout.toOption_ofJson_parts layout [("icon", icon), ("name", name)] hkeys).trans ?_
  unfold ofParts
  simp only [Layout.toOption_fillFields_part find?_icon,
    Layout.toOption_fillFields_part find?_name, Decoder.toOption_column,
    Decoder.optional_json_ofJson, toOption_optional_text]
  -- What is left is to compare two computations on which parts there are and whether one is an
  -- icon.
  rcases icon with _ | icon
  · cases name <;> rfl
  · simp only [Option.elim_some]
    cases iconOf? (some icon) <;> cases name <;> rfl

/-- Decoding an object comes to what it has under the two keys. -/
theorem toOption_ofJson_object (fields : List (String × Json)) :
    ((Decoder.record layout).ofJson (.object fields)).toOption =
      ofParts ((Json.object fields).field? "name") ((Json.object fields).field? "icon") := by
  -- The object may be replaced by one that has nothing but the two parts.
  have hcolumns : ∀ c ∈ layout.columns, c.key ∈ ["icon", "name"] := by decide
  exact (congrArg Except.toOption (Layout.ofJson_object_eq_parts layout (by decide) hcolumns
    fields)).trans (toOption_ofJson_parts _ _)

/-- Decoding an array comes to its first items, of which there may be two. -/
theorem toOption_ofJson_array (items : List Json) :
    ((Decoder.record layout).ofJson (.array items)).toOption =
      if items.length ≤ 2 then ofParts items[0]? items[1]? else none := by
  refine (Layout.toOption_ofJson_array layout items).trans ?_
  have hcolumns : layout.columns = [
      Decoder.column "name" (.optional .json) Draft.name fun v d => { d with name := some v },
      Decoder.column "icon" (.optional .text) Draft.icon fun v d => { d with icon := some v }] :=
    rfl
  rw [hcolumns]
  -- By the number of items; those beyond the last column are a fault.
  rcases items with _ | ⟨name, _ | ⟨icon, _ | ⟨extra, rest⟩⟩⟩ <;>
    simp only [Layout.toOption_fillItems_cons, Decoder.toOption_column,
      Decoder.optional_json_ofJson, toOption_optional_text, ofParts,
      List.getElem?_cons_zero, List.getElem?_cons_succ]
  · rfl
  · rfl
  · cases iconOf? (some icon) <;> rfl
  · have hlong : ¬(name :: icon :: extra :: rest).length ≤ 2 := by simp
    rw [if_neg hlong]
    cases iconOf? (some icon) <;> rfl

theorem ofParts_eq_some_iff {name icon : Option Json} {name' : String} {icon' : Option String} :
    ofParts name icon = some ⟨some (.text name'), icon'⟩ ↔
      name = some (.text name') ∧ IsIcon icon icon' := by
  rw [ofParts, Option.map_eq_some_iff]
  simp only [SiteReport.mk.injEq, iconOf?_eq_some_iff]
  constructor
  · rintro ⟨_, hicon, hname, rfl⟩
    obtain ⟨v, rfl, hv⟩ := Option.bind_eq_some_iff.1 hname
    cases v with
    | null => cases hv
    | _ => exact ⟨hv, hicon⟩
  · rintro ⟨rfl, hicon⟩
    exact ⟨icon', hicon, rfl, rfl⟩

/-- Parameters are read if they decode to a report in which the name is a text. -/
theorem ofParams_some_eq_ok_iff {v : Json} {name : String} {icon : Option String} :
    ofParams (some v) = .ok (name, icon) ↔
      ((Decoder.record layout).ofJson v).toOption = some ⟨some (.text name), icon⟩ := by
  unfold ofParams
  simp only
  -- Decoding takes any value for a name; that it is a text is asked afterwards.
  cases (Decoder.record layout).ofJson v with
  | error e => exact iff_of_false (fun h => by cases h) (fun h => by cases h)
  | ok report =>
    obtain ⟨name', icon'⟩ := report
    match name' with
    | some (.text s) =>
      constructor
      · intro h
        cases h
        rfl
      · intro h
        cases h
        rfl
    | none | some .null | some (.bool _) | some (.number _) | some (.array _) | some (.object _) =>
      exact iff_of_false (fun h => by cases h) (fun h => by cases h)

/-- Parameters are read if they report a name and an icon, and as these. -/
theorem ofParams_eq_ok_iff {params : Option Json} {name : String} {icon : Option String} :
    ofParams params = .ok (name, icon) ↔ Reports params name icon := by
  -- The three kinds of value that a record can be read from or not.
  cases params with
  | none => exact iff_of_false (fun h => by cases h) (fun h => by cases h)
  | some v =>
    rw [ofParams_some_eq_ok_iff]
    cases v with
    | object fields =>
      rw [toOption_ofJson_object, ofParts_eq_some_iff]
      constructor
      · rintro ⟨hname, hicon⟩
        exact .object hname hicon
      · intro h
        cases h with
        | object hname hicon => exact ⟨hname, hicon⟩
    | array items =>
      rw [toOption_ofJson_array]
      constructor
      · intro h
        split at h
        · rename_i hlength
          obtain ⟨hname, hicon⟩ := ofParts_eq_some_iff.1 h
          exact .array hlength hname hicon
        · cases h
      · intro h
        cases h with
        | array hlength hname hicon =>
          rw [if_pos hlength]
          exact ofParts_eq_some_iff.2 ⟨hname, hicon⟩
    | _ => exact iff_of_false (fun h => by cases h) (fun h => by cases h)

end SiteReport

/-! ## The answer, step by step -/

section Answer

variable {σ : Type} {b : Service σ} {e : Endpoint} {q : Request} {s s' : σ}
  {origin name : String} {icon : Option String}

/-- A request is answered by what its handler comes to, and the wallet is left so. -/
theorem Endpoint.answer_of_gives {h : Handler} (hfor : e.dispatcher.handlerFor q = some h)
    (out : Except Fault Json × σ)
    (hgives : (h.program q (h.hooks.map (HookSet.inter e.dispatcher.available))).Gives b
      ((h.hooks.map (HookSet.inter e.dispatcher.available)).getD fun _ => false) (.answering q) s
      out) :
    (e.answer b q s).response = .ofVerdict q out.1 ∧ (e.answer b q s).state = out.2 := by
  have hdispatch := Dispatcher.dispatch_eq_handle hfor b s
  unfold Program.Gives at hgives
  simp only [Handler.handle, hgives] at hdispatch
  obtain ⟨verdict, s'⟩ := out
  cases verdict with
  | ok value =>
    rw [answer_of_stops hdispatch rfl]
    exact ⟨rfl, rfl⟩
  | error fault =>
    rw [answer_of_stops hdispatch rfl]
    exact ⟨rfl, rfl⟩

/-- The handler is granted the hook if the host has it. -/
theorem granted_siteMetadata (available : HookSet) :
    ((siteMetadata.hooks.map (HookSet.inter available)).getD fun _ => false) .addSubjectMetadata =
      available .addSubjectMetadata := Bool.and_true _

theorem siteMetadata_program {given : Option HookSet} (horigin : q.origin = some origin)
    (hparams : SiteReport.ofParams q.params = .ok (name, icon)) :
    siteMetadata.program q given =
      .ask (.addSubject ⟨origin, name, icon⟩) fun _ => .reply (.bool true) := by
  simp only [siteMetadata, withOrigin, horigin, hparams]

/-- The origin is looked for first. -/
theorem answer_of_noOrigin (hfor : e.dispatcher.handlerFor q = some siteMetadata)
    (horigin : q.origin = none) :
    (e.answer b q s).response = .ofVerdict q (.error q.originFault) ∧
      (e.answer b q s).state = s := by
  have hprogram (given : Option HookSet) : siteMetadata.program q given = .fail q.originFault := by
    simp only [siteMetadata, withOrigin, horigin]
    rfl
  refine Endpoint.answer_of_gives hfor (.error q.originFault, s) ?_
  rw [hprogram]
  exact .fail _

/-- Then the parameters are read. -/
theorem answer_of_unread (hfor : e.dispatcher.handlerFor q = some siteMetadata)
    (horigin : q.origin = some origin) {fault : Fault}
    (hparams : SiteReport.ofParams q.params = .error fault) :
    (e.answer b q s).response = .ofVerdict q (.error fault) ∧ (e.answer b q s).state = s := by
  have hprogram (given : Option HookSet) : siteMetadata.program q given = .fail fault := by
    simp only [siteMetadata, withOrigin, horigin, hparams]
  refine Endpoint.answer_of_gives hfor (.error fault, s) ?_
  rw [hprogram]
  exact .fail _

/-- Then the hook is needed. -/
theorem answer_of_notGranted (hfor : e.dispatcher.handlerFor q = some siteMetadata)
    (horigin : q.origin = some origin) (hparams : SiteReport.ofParams q.params = .ok (name, icon))
    (hhook : e.dispatcher.available .addSubjectMetadata = false) :
    (e.answer b q s).response = .ofVerdict q (.error (.notGranted .addSubjectMetadata)) ∧
      (e.answer b q s).state = s := by
  refine Endpoint.answer_of_gives hfor (.error (.notGranted .addSubjectMetadata), s) ?_
  rw [siteMetadata_program horigin hparams]
  exact .notGranted ((granted_siteMetadata _).trans hhook)

/-- Then the wallet may refuse. -/
theorem answer_of_refused (hfor : e.dispatcher.handlerFor q = some siteMetadata)
    (horigin : q.origin = some origin) (hparams : SiteReport.ofParams q.params = .ok (name, icon))
    (hhook : e.dispatcher.available .addSubjectMetadata = true) {cause : Refusal}
    (hserve : b.serve (.addSubject ⟨origin, name, icon⟩) s = (.error cause, s')) :
    (e.answer b q s).response = .ofVerdict q (.error (.refused cause)) ∧
      (e.answer b q s).state = s' := by
  refine Endpoint.answer_of_gives hfor (.error (.refused cause), s') ?_
  rw [siteMetadata_program horigin hparams]
  exact .refused ((granted_siteMetadata _).trans hhook) hserve

/-- If it does not, it keeps the report. -/
theorem answer_of_kept (hfor : e.dispatcher.handlerFor q = some siteMetadata)
    (horigin : q.origin = some origin) (hparams : SiteReport.ofParams q.params = .ok (name, icon))
    (hhook : e.dispatcher.available .addSubjectMetadata = true)
    (hserve : b.serve (.addSubject ⟨origin, name, icon⟩) s = (.ok (), s')) :
    (e.answer b q s).response = .ofVerdict q (.ok (.bool true)) ∧ (e.answer b q s).state = s' := by
  refine Endpoint.answer_of_gives hfor (.ok (.bool true), s') ?_
  rw [siteMetadata_program horigin hparams]
  exact .answered ((granted_siteMetadata _).trans hhook) hserve (.reply _)

/-- Parameters that report nothing are refused as such. -/
theorem answer_of_not_reports (hfor : e.dispatcher.handlerFor q = some siteMetadata)
    (horigin : q.origin = some origin)
    (hnone : ¬∃ name icon, SiteReport.Reports q.params name icon) :
    ∃ message, (e.answer b q s).response = .ofVerdict q (.error (.invalidParams message)) ∧
      (e.answer b q s).state = s := by
  cases hparams : SiteReport.ofParams q.params with
  | ok report => exact absurd ⟨_, _, SiteReport.ofParams_eq_ok_iff.1 hparams⟩ hnone
  | error fault =>
    obtain ⟨message, rfl⟩ := SiteReport.fault_of_ofParams hparams
    exact ⟨message, answer_of_unread hfor horigin hparams⟩

/-- Parameters that report nothing are never answered by a result. -/
theorem reports_of_accepted (hfor : e.dispatcher.handlerFor q = some siteMetadata)
    (horigin : q.origin = some origin) {value : Json}
    (haccepted : (e.answer b q s).response = .ofVerdict q (.ok value)) :
    ∃ name icon, SiteReport.Reports q.params name icon := by
  by_cases hreported : ∃ name icon, SiteReport.Reports q.params name icon
  · exact hreported
  · obtain ⟨message, hresponse, _⟩ :=
      answer_of_not_reports (b := b) (s := s) hfor horigin hreported
    have herror := congrArg Response.error (hresponse.symm.trans haccepted)
    exact absurd herror (Option.some_ne_none _)

/-- Neither a request without an origin nor parameters that report nothing are answered by the error
of a missing hook: the one error has other words, the other another code. -/
theorem reports_of_notGranted (hfor : e.dispatcher.handlerFor q = some siteMetadata) {hook : Hook}
    (hfails : (e.answer b q s).response = .ofVerdict q (.error (.notGranted hook))) :
    q.origin ≠ none ∧ ∃ name icon, SiteReport.Reports q.params name icon := by
  -- Errors are told apart by their objects: by the words where the codes are the same, and else by
  -- the codes.
  have herror {fault : Fault}
      (hresponse : (e.answer b q s).response = .ofVerdict q (.error fault)) :
      (Fault.notGranted hook).object = fault.object :=
    Option.some.inj (congrArg Response.error (hfails.symm.trans hresponse))
  have horigin : q.origin ≠ none := by
    intro hnone
    have hobject := herror (answer_of_noOrigin hfor hnone).1
    have hwords : "Hook \"" ++ hook.name ++ "\" was not granted to this handler" =
        q.originFault.message := congrArg ErrorObject.message hobject
    exact absurd (head_of_eq_originFault hwords) (by simp)
  refine ⟨horigin, ?_⟩
  by_cases hreported : ∃ name icon, SiteReport.Reports q.params name icon
  · exact hreported
  · obtain ⟨origin, horigin⟩ := Option.ne_none_iff_exists'.1 horigin
    obtain ⟨message, hresponse, _⟩ := answer_of_not_reports hfor horigin hreported
    have hcode : (-32603 : Int64) = -32602 := congrArg ErrorObject.code (herror hresponse)
    exact absurd hcode (by decide)

theorem handlerFor_siteMetadata (contributed : List (List Handler)) (available : HookSet)
    (hmethod : q.method = "metamask_sendDomainMetadata") :
    (⟨.hosting contributed, available⟩ : Dispatcher).handlerFor q = some siteMetadata := by
  have hallowed : q.method ∉ forbiddenMethods := by
    rw [hmethod]
    decide
  rw [handlerFor_hosting contributed available hallowed, hmethod]
  rfl

end Answer

/-! ## The answer -/

/-- What a site's report is answered, on a host with any contributed groups and hooks, over a wallet
that may refuse. Without an origin it fails; then if the parameters report nothing; then for want of
the hook; and then if the wallet refuses. Nothing is kept in these cases. Otherwise the answer is
true, and what is kept for the origin is what was reported, whatever was kept before. -/
theorem answer_siteReport (contributed : List (List Handler)) (available : HookSet)
    (fallback : Fallback) (calls : Hook → Option Refusal) (snapshot : Option Refusal) (q : Request)
    (w : Wallet) (hmethod : q.method = "metamask_sendDomainMetadata") :
    let e : Endpoint := ⟨⟨.hosting contributed, available⟩, fallback⟩
    let o := e.answer (Wallet.service.failing calls snapshot) q w
    let accepted : Response := ⟨version, q.id, some (.bool true), none⟩
    let refused (code : Int64) (message : String) : Response :=
      ⟨version, q.id, none, some ⟨code, message, none⟩⟩
    let hookMissing :=
      refused (-32603) "Hook \"addSubjectMetadata\" was not granted to this handler"
    (q.origin = none →
      o.response = refused (-32603) ("Request for \"" ++ q.method ++ "\" has no origin") ∧
        o.state = w) ∧
    (∀ origin, q.origin = some origin →
      ((¬∃ name icon, SiteReport.Reports q.params name icon) →
        ∃ message, o.response = refused (-32602) message ∧ o.state = w) ∧
      ∀ name icon, SiteReport.Reports q.params name icon →
        (available .addSubjectMetadata = false → o.response = hookMissing ∧ o.state = w) ∧
        (available .addSubjectMetadata = true →
          (∀ cause, calls .addSubjectMetadata = some cause →
            o.response = refused (-32603) cause.message ∧ o.state = w) ∧
          (calls .addSubjectMetadata = none →
            o.response = accepted ∧
            o.state = { w with subjects := w.subjects.put origin ⟨origin, name, icon⟩ } ∧
            o.state.subject? origin = some ⟨origin, name, icon⟩))) ∧
    (q.origin ≠ none → available .addSubjectMetadata = true → calls .addSubjectMetadata = none →
      (o.response = accepted ↔ ∃ name icon, SiteReport.Reports q.params name icon)) ∧
    (available .addSubjectMetadata = false →
      (o.response = hookMissing ↔
        q.origin ≠ none ∧ ∃ name icon, SiteReport.Reports q.params name icon)) := by
  intro e o accepted refused hookMissing
  -- Nobody can take this method from its own handler, so what is contributed does not matter.
  have hfor : e.dispatcher.handlerFor q = some siteMetadata :=
    handlerFor_siteMetadata contributed available hmethod
  have hread {name icon} (hreports : SiteReport.Reports q.params name icon) :
      SiteReport.ofParams q.params = .ok (name, icon) :=
    SiteReport.ofParams_eq_ok_iff.2 hreports
  have hmissing {origin name icon} (horigin : q.origin = some origin)
      (hreports : SiteReport.Reports q.params name icon)
      (hhook : available .addSubjectMetadata = false) : o.response = hookMissing ∧ o.state = w :=
    answer_of_notGranted hfor horigin (hread hreports) hhook
  have hkept {origin name icon} (horigin : q.origin = some origin)
      (hreports : SiteReport.Reports q.params name icon)
      (hhook : available .addSubjectMetadata = true) (hworks : calls .addSubjectMetadata = none) :
      o.response = accepted ∧
        o.state = { w with subjects := w.subjects.put origin ⟨origin, name, icon⟩ } := by
    refine answer_of_kept hfor horigin (hread hreports) hhook ?_
    simp only [Wallet.Service.failing, Call.hook, hworks]
    rfl
  refine ⟨answer_of_noOrigin hfor, fun origin horigin =>
    ⟨answer_of_not_reports hfor horigin, fun name icon hreports =>
      ⟨hmissing horigin hreports, fun hhook => ⟨fun cause hrefuses => ?_, fun hworks => ?_⟩⟩⟩,
    fun horigin hhook hworks => ?_, fun hhook => ⟨fun hfails => ?_, ?_⟩⟩
  · refine answer_of_refused hfor horigin (hread hreports) hhook ?_
    simp only [Wallet.Service.failing, Call.hook, hrefuses]
  · obtain ⟨hresponse, hstate⟩ := hkept horigin hreports hhook hworks
    refine ⟨hresponse, hstate, ?_⟩
    rw [hstate, Wallet.subject?, Dict.find?_put, if_pos rfl]
  · obtain ⟨origin, horigin⟩ := Option.ne_none_iff_exists'.1 horigin
    refine ⟨reports_of_accepted hfor horigin, ?_⟩
    rintro ⟨name, icon, hreports⟩
    exact (hkept horigin hreports hhook hworks).1
  · have hverdict : hookMissing = .ofVerdict q (.error (.notGranted .addSubjectMetadata)) := rfl
    exact reports_of_notGranted hfor (hfails.trans hverdict)
  · rintro ⟨horigin, name, icon, hreports⟩
    obtain ⟨origin, horigin⟩ := Option.ne_none_iff_exists'.1 horigin
    exact (hmissing horigin hreports hhook).1

/-- A report with null for an icon clears the icon that was kept before. -/
theorem answer_siteReport_clears_icon :
    let site := "https://a.example"
    let q : Request := ⟨version, .null, "metamask_sendDomainMetadata",
      some (.object [("icon", .null), ("name", .text "Swap"), ("theme", .text "dark")]), some site⟩
    let w := { Wallet.empty with subjects := Dict.put ∅ site ⟨site, "Swap", some "a.png"⟩ }
    let o := (⟨⟨.hosting [], .full⟩, refuseUnknown⟩ : Endpoint).answer
      (Wallet.service.failing (fun _ => none) none) q w
    q.method = "metamask_sendDomainMetadata" ∧
      w.subject? site = some ⟨site, "Swap", some "a.png"⟩ ∧
      o.response = ⟨version, .null, some (.bool true), none⟩ ∧
      o.state.subject? site = some ⟨site, "Swap", none⟩ := by
  intro site q w o
  have hreports : SiteReport.Reports q.params "Swap" none := .object rfl .null
  obtain ⟨_, hanswers, _⟩ :=
    answer_siteReport [] .full refuseUnknown (fun _ => none) none q w rfl
  obtain ⟨hresponse, _, hsubject⟩ := (((hanswers site rfl).2 "Swap" none hreports).2 rfl).2 rfl
  exact ⟨rfl, rfl, hresponse, hsubject⟩

end WalletGate.Rpc
