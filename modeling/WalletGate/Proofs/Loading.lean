import WalletGate.Proofs.Addresses
import WalletGate.Proofs.Entries
import WalletGate.Settings
/-!
# Loading settings

What settings are loaded from the variables of a deployment, and which fault is reported if none
are. The variables are read one after the other, and the reading stops at the first that cannot be
read, so everything is said of one variable first: whether it is set, what may stand in it, and what
fault it gives.

* `Unset` and `IsSet`: a variable that is absent or blank, and one that holds a text;
* `Allows`: what may stand in a variable; `Offends`: the fault of a variable;
* `load_eq_error_iff`: no settings are loaded for the first fault in `readOrder`;
* `Loaded` and `load_eq_ok_iff`: which settings are loaded, field by field;
* `load_congr`: only the texts of variables that are set have a part in this;
* `Loaded.joined`: lists are loaded as what they were joined from;
* `load_decides`: all of this together.
-/

namespace WalletGate

namespace Settings

open Page (Denylist Entry EntryFault)

variable {lookup lookup' : String → Option String} {x : Variable} {t : String}
  {fault : SettingsFault}

/-! ## Variables that are set -/

/-- The variable is absent, or empty, or there are blanks alone in it. -/
def Unset (lookup : String → Option String) (x : Variable) : Prop :=
  ∀ t, lookup x.name = some t → ∀ c ∈ t.toList, Text.isBlank c = true

/-- The variable holds a text, in which not all is blank. -/
def IsSet (lookup : String → Option String) (x : Variable) (t : String) : Prop :=
  lookup x.name = some t ∧ ∃ c ∈ t.toList, Text.isBlank c = false

theorem value?_eq_some_iff : value? lookup x = some t ↔ IsSet lookup x t := by
  unfold value? IsSet Text.isVacant
  rw [Option.filter_eq_some_iff, Bool.not_eq_true', List.all_eq_false]
  simp only [Bool.not_eq_true]

theorem value?_eq_none_iff : value? lookup x = none ↔ Unset lookup x := by
  unfold value? Unset Text.isVacant
  rw [Option.filter_eq_none_iff]
  simp only [Bool.not_eq_true', Bool.not_eq_false, List.all_eq_true]

theorem unset_or_isSet (lookup : String → Option String) (x : Variable) :
    Unset lookup x ∨ ∃ t, IsSet lookup x t := by
  cases hvalue : value? lookup x with
  | none => exact .inl (value?_eq_none_iff.1 hvalue)
  | some t => exact .inr ⟨t, value?_eq_some_iff.1 hvalue⟩

theorem Unset.not_isSet (h : Unset lookup x) (t : String) : ¬IsSet lookup x t := by
  rintro ⟨hlookup, c, hc, hstays⟩
  exact absurd (h t hlookup c hc) (by simp [hstays])

theorem IsSet.unique {t' : String} (h : IsSet lookup x t) (h' : IsSet lookup x t') : t = t' :=
  Option.some.inj (h.1.symm.trans h'.1)

/-- What a setting is read from: the text of a variable, or nothing if the variable is unset. -/
def Reads (lookup : String → Option String) (x : Variable) (value : String → Prop)
    (default : Prop) : Prop :=
  (∀ t, IsSet lookup x t → value t) ∧ (Unset lookup x → default)

theorem Reads.of_unset {value : String → Prop} {default : Prop} (h : Unset lookup x) :
    Reads lookup x value default ↔ default :=
  ⟨fun hreads => hreads.2 h, fun hdefault => ⟨fun t hset => absurd hset (h.not_isSet t),
    fun _ => hdefault⟩⟩

theorem Reads.of_isSet {value : String → Prop} {default : Prop} (h : IsSet lookup x t) :
    Reads lookup x value default ↔ value t := by
  constructor
  · intro hreads
    exact hreads.1 t h
  · intro hvalue
    exact ⟨fun t' hset => h.unique hset ▸ hvalue, fun hunset => absurd h (hunset.not_isSet t)⟩

/-! ## What may stand in a variable -/

/-- The text is that of an address, blanks around it aside. -/
def ReadsHost (t : String) (a : Net.Address) : Prop := Net.Address.IsText (Text.trim t).toList a

/-- The text is a numeral of sixteen bits, blanks around it aside. -/
def ReadsPort (t : String) (n : Nat) : Prop :=
  Text.IsNumeral (Text.trim t).toList n ∧ n < 2 ^ 16

/-- The text names the platform, blanks around it and the case of its letters aside. -/
def ReadsPlatform (t : String) (p : Platform) : Prop :=
  Text.lowerText (Text.trim t) = p.name

/-- Every segment of the text is the entry in its place. -/
def ReadsDenylist (t : String) (d : Denylist) : Prop :=
  List.Forall₂ Entry.Reads (Text.segments t) d.entries

/-- The text is a numeral of sixty-four bits, not of zero, blanks around it aside. -/
def ReadsCapacity (t : String) (n : Nat) : Prop :=
  Text.IsNumeral (Text.trim t).toList n ∧ 0 < n ∧ n < 2 ^ 64

/-- The text names the format, blanks around it and the case of its letters aside. -/
def ReadsLogFormat (t : String) (f : LogFormat) : Prop :=
  Text.lowerText (Text.trim t) = f.name ∨ (Text.lowerText (Text.trim t) = "text" ∧ f = .pretty)

/-- What may stand in a variable that is set. -/
def Allows : Variable → String → Prop
  | .host, t => ∃ a, ReadsHost t a
  | .port, t => ∃ n, ReadsPort t n
  | .platform, t => ∃ p, ReadsPlatform t p
  | .denylist, t => ∀ item ∈ Text.segments t, ∃ e, Entry.Reads item e
  | .capacity, t => ∃ n, ReadsCapacity t n
  | .logFormat, t => ∃ f, ReadsLogFormat t f
  | .extensionId, _ | .reservedNames, _ | .runtimeApis, _ | .sessionDirectory, _ => True

theorem readHost?_eq_some_iff {a : Net.Address} : readHost? t = some a ↔ ReadsHost t a :=
  Net.Address.ofText?_eq_some_iff

theorem readPort?_eq_some_iff {n : Nat} : readPort? t = some n ↔ ReadsPort t n := by
  rw [readPort?, Option.filter_eq_some_iff, Text.unsigned?_eq_some_iff, decide_eq_true_iff]
  rfl

theorem readCapacity?_eq_some_iff {n : Nat} : readCapacity? t = some n ↔ ReadsCapacity t n := by
  rw [readCapacity?, Option.filter_eq_some_iff, Text.unsigned?_eq_some_iff, Bool.and_eq_true,
    decide_eq_true_iff, decide_eq_true_iff]
  rfl

theorem platformOfName?_eq_some_iff {p : Platform} :
    Platform.ofName? t = some p ↔ ReadsPlatform t p := by
  have hnames : ∀ e ∈ Platform.names, e.1 = e.2.name := by decide
  unfold Platform.ofName? ReadsPlatform
  constructor
  · intro h
    have hmem := Entries.mem_of_find? h
    exact hnames (_, p) hmem
  · intro h
    rw [h]
    cases p <;> decide

theorem logFormatOfName?_eq_some_iff {f : LogFormat} :
    LogFormat.ofName? t = some f ↔ ReadsLogFormat t f := by
  have hnames : ∀ e ∈ [("json", LogFormat.json), ("pretty", .pretty), ("text", .pretty)],
      e.1 = e.2.name ∨ (e.1 = "text" ∧ e.2 = .pretty) := by decide
  unfold LogFormat.ofName? ReadsLogFormat
  constructor
  · intro h
    have hmem := Entries.mem_of_find? h
    exact hnames (_, f) hmem
  · rintro (h | ⟨h, rfl⟩)
    · rw [h]
      cases f <;> decide
    · rw [h]
      decide

/-! ## Reading one variable -/

theorem value?_eq_iff {o : Option String} :
    value? lookup x = o ↔ Reads lookup x (o = some ·) (o = none) := by
  rcases unset_or_isSet lookup x with hunset | ⟨t, hset⟩
  · rw [Reads.of_unset hunset, value?_eq_none_iff.2 hunset, eq_comm]
  · rw [Reads.of_isSet hset, value?_eq_some_iff.2 hset, eq_comm]

theorem listOr_eq_iff {default items : List String} :
    listOr lookup x default = items ↔
      Reads lookup x (items = Text.segments ·) (items = default) := by
  rcases unset_or_isSet lookup x with hunset | ⟨t, hset⟩
  · rw [Reads.of_unset hunset, listOr, value?_eq_none_iff.2 hunset, eq_comm]
    rfl
  · rw [Reads.of_isSet hset, listOr, value?_eq_some_iff.2 hset, eq_comm, ← Text.items_eq_segments]
    rfl

theorem readOr_of_unset {α : Type} (hunset : Unset lookup x) (default : α)
    (read : String → Option α) : readOr lookup x default read = .ok default := by
  rw [readOr, value?_eq_none_iff.2 hunset]

theorem readOr_of_isSet {α : Type} (hset : IsSet lookup x t) (default : α)
    (read : String → Option α) :
    readOr lookup x default read = (read t).elim (.error (.invalid x t)) .ok := by
  rw [readOr, value?_eq_some_iff.2 hset]
  cases hread : read t with
  | none => simp only [hread, Option.elim_none]
  | some a => simp only [hread, Option.elim_some]

theorem readOr_eq_ok_iff {α : Type} {default a : α} {read : String → Option α}
    {value : String → Prop} (hread : ∀ t, read t = some a ↔ value t) :
    readOr lookup x default read = .ok a ↔ Reads lookup x value (a = default) := by
  rcases unset_or_isSet lookup x with hunset | ⟨t, hset⟩
  · rw [Reads.of_unset hunset, readOr_of_unset hunset, Except.ok.injEq, eq_comm]
  · rw [Reads.of_isSet hset, ← hread t, readOr_of_isSet hset]
    cases read t with
    | none => simp
    | some b => simp

theorem readOr_eq_error_iff {α : Type} {default : α} {read : String → Option α} :
    readOr lookup x default read = .error fault ↔
      ∃ t, IsSet lookup x t ∧ read t = none ∧ fault = .invalid x t := by
  -- Either nothing is set, or one text is, and then it is that text that the reader refuses.
  rcases unset_or_isSet lookup x with hunset | ⟨t, hset⟩
  · rw [readOr_of_unset hunset]
    refine iff_of_false (fun h => by cases h) ?_
    rintro ⟨t, hset, _⟩
    exact hunset.not_isSet t hset
  · rw [readOr_of_isSet hset]
    constructor
    · intro h
      cases hvalue : read t with
      | some a =>
        rw [hvalue] at h
        cases h
      | none =>
        rw [hvalue] at h
        cases h
        exact ⟨t, hset, hvalue, rfl⟩
    · rintro ⟨t', hset', hvalue, rfl⟩
      cases hset.unique hset'
      rw [hvalue, Option.elim_none]

theorem readExtensionId_eq_ok_iff {id : String} :
    readExtensionId lookup = .ok id ↔ Reads lookup .extensionId (id = Text.trim ·) False := by
  rcases unset_or_isSet lookup .extensionId with hunset | ⟨t, hset⟩
  · rw [Reads.of_unset hunset, readExtensionId, value?_eq_none_iff.2 hunset]
    exact iff_of_false (fun h => by cases h) not_false
  · rw [Reads.of_isSet hset, readExtensionId, value?_eq_some_iff.2 hset]
    simp only [Except.ok.injEq, eq_comm]

theorem parse_segments_eq_ok_iff {d : Denylist} : Denylist.parse (Text.segments t) = .ok d ↔
    List.Forall₂ Entry.Reads (Text.segments t) d.entries := by
  rw [Page.Denylist.parse_eq_ok_iff_reads, Text.map_trim_segments]

theorem parse_segments_eq_error_iff {fault : EntryFault} :
    Denylist.parse (Text.segments t) = .error fault ↔
      FirstWith (fun item => ∃ e, Entry.Reads item e) (fun item => Entry.Offends item fault)
        (Text.segments t) := by
  rw [Page.Denylist.parse_eq_error_iff_offends, Text.map_trim_segments]

theorem exists_parse_segments_iff :
    (∃ d, Denylist.parse (Text.segments t) = .ok d) ↔ Allows .denylist t := by
  rw [Page.Denylist.exists_parse_eq_ok_iff]
  refine forall₂_congr fun item hitem => ?_
  simp only [Entry.parse_eq_ok_iff, (Text.isItem_of_mem_segments hitem).trimmed]

theorem readDenylist_of_isSet (hset : IsSet lookup .denylist t) :
    readDenylist lookup = (Denylist.parse (Text.segments t)).mapError .denylist := by
  rw [readDenylist, value?_eq_some_iff.2 hset, ← Text.items_eq_segments]

theorem readDenylist_eq_ok_iff {d : Denylist} :
    readDenylist lookup = .ok d ↔ Reads lookup .denylist (ReadsDenylist · d) (d = .standard) := by
  rcases unset_or_isSet lookup .denylist with hunset | ⟨t, hset⟩
  · rw [Reads.of_unset hunset, readDenylist, value?_eq_none_iff.2 hunset]
    simp only [Except.ok.injEq, eq_comm]
  · rw [Reads.of_isSet hset, readDenylist_of_isSet hset, ReadsDenylist, ← parse_segments_eq_ok_iff]
    cases Denylist.parse (Text.segments t) with
    | error fault => exact iff_of_false (fun h => by cases h) (fun h => by cases h)
    | ok d' => simp [Except.mapError]

/-! ## Faults of one variable -/

/-- The variables that are read with a default, each by a reader of its own. -/
def optionalValues : List Variable := [.host, .port, .platform, .capacity, .logFormat]

/-- The fault of a variable, if nothing can be read from it. -/
inductive Offends (lookup : String → Option String) : Variable → SettingsFault → Prop where
  | missing (hunset : Unset lookup .extensionId) :
      Offends lookup .extensionId (.missing .extensionId)
  /-- The fault holds the text as it stands in the variable, blanks included. -/
  | invalid {x : Variable} {t : String} (hx : x ∈ optionalValues) (hset : IsSet lookup x t)
      (hbad : ¬Allows x t) : Offends lookup x (.invalid x t)
  /-- Entries before the first bad one can be read. -/
  | entry {t : String} {fault : EntryFault} (hset : IsSet lookup .denylist t)
      (hfirst : FirstWith (fun item => ∃ e, Entry.Reads item e)
        (fun item => Entry.Offends item fault) (Text.segments t)) :
      Offends lookup .denylist (.denylist fault)

theorem readOr_offends {α : Type} {default : α} {read : String → Option α}
    (hx : x ∈ optionalValues) (hread : ∀ t, Allows x t ↔ ∃ a, read t = some a)
    (fault : SettingsFault) :
    readOr lookup x default read = .error fault ↔ Offends lookup x fault := by
  have hbad (t : String) : read t = none ↔ ¬Allows x t := by
    rw [hread t, Option.eq_none_iff_forall_ne_some]
    exact not_exists.symm
  rw [readOr_eq_error_iff]
  constructor
  · rintro ⟨t, hset, hnone, rfl⟩
    exact .invalid hx hset ((hbad t).1 hnone)
  · intro h
    cases h with
    -- Of the three kinds of fault, only a text that may not stand there concerns a variable that
    -- may be left out.
    | missing hunset => exact absurd hx (by decide)
    | invalid _ hset hrefused => exact ⟨_, hset, (hbad _).2 hrefused, rfl⟩
    | entry hset hfirst => exact absurd hx (by decide)

theorem readExtensionId_offends (fault : SettingsFault) :
    readExtensionId lookup = .error fault ↔ Offends lookup .extensionId fault := by
  constructor
  · intro h
    unfold readExtensionId at h
    split at h
    · cases h
    · rename_i hnone
      cases h
      exact .missing (value?_eq_none_iff.1 hnone)
  · intro h
    cases h with
    | missing hunset => rw [readExtensionId, value?_eq_none_iff.2 hunset]
    | invalid hx _ _ => exact absurd hx (by decide)

theorem readDenylist_offends (fault : SettingsFault) :
    readDenylist lookup = .error fault ↔ Offends lookup .denylist fault := by
  rcases unset_or_isSet lookup .denylist with hunset | ⟨t, hset⟩
  · rw [readDenylist, value?_eq_none_iff.2 hunset]
    refine iff_of_false (fun h => by cases h) fun h => ?_
    -- A fault of the denylist is that of an entry, and without a text there is none.
    cases h with
    | invalid hx _ _ => exact absurd hx (by decide)
    | entry hset _ => exact hunset.not_isSet _ hset
  · rw [readDenylist_of_isSet hset]
    constructor
    · intro h
      cases hparse : Denylist.parse (Text.segments t) with
      | ok d =>
        rw [hparse] at h
        cases h
      | error bad =>
        rw [hparse] at h
        cases h
        exact .entry hset (parse_segments_eq_error_iff.1 hparse)
    · intro h
      cases h with
      | invalid hx _ _ => exact absurd hx (by decide)
      | entry hset' hfirst =>
        cases hset.unique hset'
        rw [parse_segments_eq_error_iff.2 hfirst]
        rfl

/-- A variable has a fault if it is required and unset, or set to what may not stand in it. -/
theorem exists_offends_iff :
    (∃ fault, Offends lookup x fault) ↔
      (x = .extensionId ∧ Unset lookup x) ∨ ∃ t, IsSet lookup x t ∧ ¬Allows x t := by
  constructor
  · rintro ⟨fault, h⟩
    cases h with
    | missing hunset => exact .inl ⟨rfl, hunset⟩
    | invalid _ hset hbad => exact .inr ⟨_, hset, hbad⟩
    -- Entries that are all read offend nowhere, so a first offence excludes that.
    | @entry t bad hset hfirst =>
      refine .inr ⟨t, hset, fun hall => ?_⟩
      obtain ⟨d, hparse⟩ := exists_parse_segments_iff.2 hall
      rw [parse_segments_eq_error_iff.2 hfirst] at hparse
      cases hparse
  · rintro (⟨rfl, hunset⟩ | ⟨t, hset, hbad⟩)
    · exact ⟨_, .missing hunset⟩
    · by_cases hx : x ∈ optionalValues
      · exact ⟨_, .invalid hx hset hbad⟩
      · -- Of the other variables only the denylist can hold what may not stand in it.
        cases x with
        | host | port | platform | capacity | logFormat => exact absurd (by decide) hx
        | extensionId | reservedNames | runtimeApis | sessionDirectory => exact absurd trivial hbad
        | denylist =>
          cases hparse : Denylist.parse (Text.segments t) with
          | ok d => exact absurd (exists_parse_segments_iff.1 ⟨d, hparse⟩) hbad
          | error bad => exact ⟨_, .entry hset (parse_segments_eq_error_iff.1 hparse)⟩

/-! ## The first fault -/

/-- The order in which variables are read, without those in which anything may stand. -/
def readOrder : List Variable :=
  [.host, .port, .platform, .extensionId, .denylist, .capacity, .logFormat]

/-- The fault is that of the first variable among some that has one. -/
def FirstOffence (lookup : String → Option String) (fault : SettingsFault) :
    List Variable → Prop :=
  FirstWith (fun y => ∀ f, ¬Offends lookup y f) (fun y => Offends lookup y fault)

/-- Reading a variable and going on has the fault of the variable, or else a later one. -/
theorem bind_eq_error_iff {α β : Type} {first : Except SettingsFault α}
    {next : α → Except SettingsFault β} {xs : List Variable}
    (hfirst : ∀ f, first = .error f ↔ Offends lookup x f)
    (hnext : ∀ a, next a = .error fault ↔ FirstOffence lookup fault xs) :
    first >>= next = .error fault ↔ FirstOffence lookup fault (x :: xs) := by
  rw [FirstOffence, firstWith_cons_iff, Except.bind_error_iff, hfirst]
  refine or_congr_right ?_
  cases hread : first with
  | error f =>
    -- The fault is that of this variable, so there is no later one to speak of.
    refine iff_of_false ?_ ?_
    · rintro ⟨a, hok, _⟩
      cases hok
    · rintro ⟨hnone, _⟩
      exact hnone f ((hfirst f).1 hread)
  | ok a =>
    have hnone (f : SettingsFault) : ¬Offends lookup x f := by
      rw [← hfirst f, hread]
      exact fun h => by cases h
    constructor
    · rintro ⟨b, hok, hlater⟩
      exact ⟨hnone, (hnext b).1 hlater⟩
    · rintro ⟨_, hlater⟩
      exact ⟨a, rfl, (hnext a).2 hlater⟩

/-- No settings are loaded for the fault of the first variable that has one. -/
theorem load_eq_error_iff : load lookup = .error fault ↔ FirstOffence lookup fault readOrder := by
  unfold load readOrder
  -- One variable after the other, as they are read; after the last nothing can fail any more.
  refine bind_eq_error_iff (readOr_offends (by decide) fun t =>
    exists_congr fun a => readHost?_eq_some_iff.symm) fun host => ?_
  refine bind_eq_error_iff (readOr_offends (by decide) fun t =>
    exists_congr fun n => readPort?_eq_some_iff.symm) fun port => ?_
  refine bind_eq_error_iff (readOr_offends (by decide) fun t =>
    exists_congr fun p => platformOfName?_eq_some_iff.symm) fun platform => ?_
  refine bind_eq_error_iff readExtensionId_offends fun extensionId => ?_
  refine bind_eq_error_iff readDenylist_offends fun denylist => ?_
  refine bind_eq_error_iff (readOr_offends (by decide) fun t =>
    exists_congr fun n => readCapacity?_eq_some_iff.symm) fun capacity => ?_
  refine bind_eq_error_iff (readOr_offends (by decide) fun t =>
    exists_congr fun f => logFormatOfName?_eq_some_iff.symm) fun logFormat => ?_
  exact iff_of_false (fun h => by cases h) not_firstWith_nil

/-- The variables by name: seven in order, and three in which anything may stand. -/
example : List.map Variable.name (readOrder ++ [.reservedNames, .runtimeApis, .sessionDirectory]) =
    ["HOST", "PORT", "BROWSER_PLATFORM", "EXTENSION_ID", "INJECTION_DENYLIST",
      "REQUEST_ACCOUNT_BINDING_CAPACITY", "LOG_FORMAT", "BLOCKED_PORT_NAMES", "RUNTIME_APIS",
      "SESSION_DIR"] := rfl

/-- Some variable has a fault if there is a first one that does. -/
theorem exists_firstOffence_iff {xs : List Variable} :
    (∃ fault, FirstOffence lookup fault xs) ↔ ∃ y ∈ xs, ∃ fault, Offends lookup y fault := by
  induction xs with
  | nil => exact iff_of_false (fun ⟨_, h⟩ => not_firstWith_nil h) (by simp)
  | cons y ys ih =>
    unfold FirstOffence at ih ⊢
    simp only [firstWith_cons_iff, List.exists_mem_cons_iff]
    by_cases hy : ∃ fault, Offends lookup y fault
    · obtain ⟨fault, h⟩ := hy
      exact iff_of_true ⟨fault, .inl h⟩ (.inl ⟨fault, h⟩)
    · have hnone := not_exists.1 hy
      simp only [hnone, not_false_eq_true, implies_true, true_and, false_or, exists_false]
      exact ih

/-- Settings are loaded if the extension's id is set, and only what may stand in the variables that
are set does. -/
theorem exists_load_eq_ok_iff :
    (∃ s, load lookup = .ok s) ↔
      (∃ t, IsSet lookup .extensionId t) ∧ ∀ y t, IsSet lookup y t → Allows y t := by
  -- A result there is exactly if there is no fault, and that has been decided already.
  have hok : (∃ s, load lookup = .ok s) ↔ ¬∃ fault, load lookup = .error fault := by
    cases load lookup with
    | error fault => simp
    | ok s => simp
  simp only [hok, load_eq_error_iff, exists_firstOffence_iff, exists_offends_iff]
  constructor
  · intro h
    have hnone (y : Variable) (hy : y ∈ readOrder) := not_or.1 fun hoffends => h ⟨y, hy, hoffends⟩
    refine ⟨?_, fun y t hset => ?_⟩
    · have hnotUnset := (hnone .extensionId (by decide)).1
      exact (unset_or_isSet lookup .extensionId).resolve_left fun hunset => hnotUnset ⟨rfl, hunset⟩
    · by_cases hy : y ∈ readOrder
      · by_contra hbad
        exact (hnone y hy).2 ⟨t, hset, hbad⟩
      · -- In the variables that are not in the order anything may stand.
        cases y with
        | reservedNames | runtimeApis | sessionDirectory => trivial
        | _ => exact absurd (by decide) hy
  -- Conversely an offence is a missing id, or a text that may not stand where it does.
  · rintro ⟨⟨id, hid⟩, hall⟩ ⟨y, _, ⟨rfl, hunset⟩ | ⟨t, hset, hbad⟩⟩
    · exact hunset.not_isSet id hid
    · exact hbad (hall y t hset)

/-! ## Settings that are loaded -/

/-- The settings hold what is read from each variable, and the default where one is unset. -/
structure Loaded (lookup : String → Option String) (s : Settings) : Prop where
  host : Reads lookup .host (ReadsHost · s.host) (s.host = .v4 ⟨127, 0, 0, 1⟩)
  port : Reads lookup .port (ReadsPort · s.port) (s.port = 8546)
  platform : Reads lookup .platform (ReadsPlatform · s.platform) (s.platform = .chrome)
  extensionId : Reads lookup .extensionId (s.extensionId = Text.trim ·) False
  reservedNames : Reads lookup .reservedNames (s.reservedNames = Text.segments ·)
    (s.reservedNames = Port.defaultReservedNames)
  runtimeApis : Reads lookup .runtimeApis (s.runtimeApis = Text.segments ·) (s.runtimeApis = [])
  denylist : Reads lookup .denylist (ReadsDenylist · s.denylist) (s.denylist = .standard)
  capacity : Reads lookup .capacity (ReadsCapacity · s.capacity)
    (s.capacity = Port.defaultCapacity)
  /-- The directory alone is not trimmed. -/
  sessionDirectory : Reads lookup .sessionDirectory (s.sessionDirectory = some ·)
    (s.sessionDirectory = none)
  logFormat : Reads lookup .logFormat (ReadsLogFormat · s.logFormat) (s.logFormat = .pretty)

theorem load_eq_ok_iff {s : Settings} : load lookup = .ok s ↔ Loaded lookup s := by
  unfold load
  simp only [Except.bind_ok_iff]
  constructor
  -- Variable by variable, as they are read: each is bound to what its own reader gives.
  · rintro ⟨host, hhost, port, hport, platform, hplatform, id, hid, denylist, hdenylist, capacity,
      hcapacity, logFormat, hlogFormat, hs⟩
    cases hs
    exact {
      host := (readOr_eq_ok_iff fun t => readHost?_eq_some_iff).1 hhost
      port := (readOr_eq_ok_iff fun t => readPort?_eq_some_iff).1 hport
      platform := (readOr_eq_ok_iff fun t => platformOfName?_eq_some_iff).1 hplatform
      extensionId := readExtensionId_eq_ok_iff.1 hid
      reservedNames := listOr_eq_iff.1 rfl
      runtimeApis := listOr_eq_iff.1 rfl
      denylist := readDenylist_eq_ok_iff.1 hdenylist
      capacity := (readOr_eq_ok_iff fun t => readCapacity?_eq_some_iff).1 hcapacity
      sessionDirectory := value?_eq_iff.1 rfl
      logFormat := (readOr_eq_ok_iff fun t => logFormatOfName?_eq_some_iff).1 hlogFormat }
  · intro h
    refine ⟨_, (readOr_eq_ok_iff fun t => readHost?_eq_some_iff).2 h.host,
      _, (readOr_eq_ok_iff fun t => readPort?_eq_some_iff).2 h.port,
      _, (readOr_eq_ok_iff fun t => platformOfName?_eq_some_iff).2 h.platform,
      _, readExtensionId_eq_ok_iff.2 h.extensionId,
      _, readDenylist_eq_ok_iff.2 h.denylist,
      _, (readOr_eq_ok_iff fun t => readCapacity?_eq_some_iff).2 h.capacity,
      _, (readOr_eq_ok_iff fun t => logFormatOfName?_eq_some_iff).2 h.logFormat, ?_⟩
    rw [listOr_eq_iff.2 h.reservedNames, listOr_eq_iff.2 h.runtimeApis,
      value?_eq_iff.2 h.sessionDirectory]

/-- Settings that are loaded name an extension and keep one binding at least. -/
theorem Loaded.wellFormed {s : Settings} (h : Loaded lookup s) :
    s.extensionId ≠ "" ∧ 1 ≤ s.capacity := by
  constructor
  · rcases unset_or_isSet lookup .extensionId with hunset | ⟨t, hset⟩
    · exact ((Reads.of_unset hunset).1 h.extensionId).elim
    · obtain ⟨c, hc, hstays⟩ := hset.2
      rw [(Reads.of_isSet hset).1 h.extensionId, Ne, Text.trim_eq_empty_iff]
      intro hblank
      exact absurd (hblank c hc) (by simp [hstays])
  · rcases unset_or_isSet lookup .capacity with hunset | ⟨t, hset⟩
    · rw [(Reads.of_unset hunset).1 h.capacity]
      decide
    · exact ((Reads.of_isSet hset).1 h.capacity).2.1

/-- Lookups that give each variable the same text, or leave it unset, load the same. -/
theorem load_congr
    (hsame : ∀ y : Variable, lookup' y.name = lookup y.name ∨ (Unset lookup' y ∧ Unset lookup y)) :
    load lookup' = load lookup := by
  have hvalues : value? lookup' = value? lookup := by
    funext y
    rcases hsame y with htext | ⟨hunset', hunset⟩
    · rw [value?, htext, value?]
    · rw [value?_eq_none_iff.2 hunset', value?_eq_none_iff.2 hunset]
  unfold load readOr readExtensionId readDenylist listOr
  rw [hvalues]

/-! ## Lists that were joined -/

/-- A variable that holds items is set. -/
theorem isSet_intercalate {items : List String} (hne : items ≠ [])
    (hitems : ∀ item ∈ items, Text.IsItem item)
    (hlookup : lookup x.name = some (",".intercalate items)) :
    IsSet lookup x (",".intercalate items) := by
  refine ⟨hlookup, ?_⟩
  by_contra hnone
  -- There would be no segments, but these are the items.
  have hblank : ∀ c ∈ (",".intercalate items).toList, Text.isBlank c = true := by
    simpa using hnone
  have hread := Text.segments_intercalate hne hitems
  rw [Text.segments_of_blank hblank] at hread
  exact hne hread.symm

/-- Lists are loaded as the items from which their variables were joined. -/
theorem Loaded.joined {s : Settings} (h : Loaded lookup s) {items : List String} (hne : items ≠ [])
    (hitems : ∀ item ∈ items, Text.IsItem item) :
    (lookup Variable.reservedNames.name = some (",".intercalate items) →
      s.reservedNames = items) ∧
    (lookup Variable.runtimeApis.name = some (",".intercalate items) → s.runtimeApis = items) ∧
    (lookup Variable.denylist.name = some (",".intercalate items) →
      List.Forall₂ Entry.Reads items s.denylist.entries) := by
  -- Items without a comma come apart where they were joined, so each list is read from just these.
  have hread := Text.segments_intercalate hne hitems
  refine ⟨fun hlookup => ?_, fun hlookup => ?_, fun hlookup => ?_⟩
  · have hset := isSet_intercalate (x := .reservedNames) hne hitems hlookup
    exact ((Reads.of_isSet hset).1 h.reservedNames).trans hread
  · have hset := isSet_intercalate (x := .runtimeApis) hne hitems hlookup
    exact ((Reads.of_isSet hset).1 h.runtimeApis).trans hread
  · have hset := isSet_intercalate (x := .denylist) hne hitems hlookup
    have hentries := (Reads.of_isSet hset).1 h.denylist
    rwa [ReadsDenylist, hread] at hentries

/-- What is loaded from a list that is set can be joined again: it is not empty, there are no blanks
at its ends, and there is no comma in it. -/
theorem Loaded.isItem {s : Settings} (h : Loaded lookup s) :
    (∀ t, IsSet lookup .reservedNames t → ∀ item ∈ s.reservedNames, Text.IsItem item) ∧
    ∀ t, IsSet lookup .runtimeApis t → ∀ item ∈ s.runtimeApis, Text.IsItem item := by
  constructor
  · intro t hset item hitem
    rw [(Reads.of_isSet hset).1 h.reservedNames] at hitem
    exact Text.isItem_of_mem_segments hitem
  · intro t hset item hitem
    rw [(Reads.of_isSet hset).1 h.runtimeApis] at hitem
    exact Text.isItem_of_mem_segments hitem

/-- No settings are loaded with a question mark or a number sign in an entry of the denylist. -/
theorem Loaded.no_mark {s : Settings} (h : Loaded lookup s) (hset : IsSet lookup .denylist t) :
    ∀ item ∈ Text.segments t, '?' ∉ item.toList ∧ '#' ∉ item.toList := by
  intro item hitem
  have hload := load_eq_ok_iff.2 h
  obtain ⟨e, hreads⟩ := (exists_load_eq_ok_iff.1 ⟨s, hload⟩).2 .denylist t hset item hitem
  exact hreads.no_mark

/-- Settings are loaded just if the extension's id is set and the variables that are set hold what
they may; if not, the fault is that of the first variable that has one. Nothing but the texts of the
variables that are set decides about it. Settings that are loaded hold what was read; they name an
extension, keep one binding at least, their lists are what their variables were joined from, and no
entry that was given for their denylist has a question mark or a number sign in it. -/
theorem load_decides (lookup : String → Option String) :
    ((∃ s, load lookup = .ok s) ↔
      (∃ t, IsSet lookup .extensionId t) ∧ ∀ y t, IsSet lookup y t → Allows y t) ∧
    (∀ fault, load lookup = .error fault ↔ FirstOffence lookup fault readOrder) ∧
    (∀ lookup' : String → Option String,
      (∀ y : Variable, lookup' y.name = lookup y.name ∨ (Unset lookup' y ∧ Unset lookup y)) →
        load lookup' = load lookup) ∧
    (∀ s, load lookup = .ok s ↔ Loaded lookup s) ∧
    ∀ s, load lookup = .ok s →
      s.extensionId ≠ "" ∧ 1 ≤ s.capacity ∧
      (∀ t, IsSet lookup .reservedNames t → ∀ item ∈ s.reservedNames, Text.IsItem item) ∧
      (∀ t, IsSet lookup .runtimeApis t → ∀ item ∈ s.runtimeApis, Text.IsItem item) ∧
      (∀ t, IsSet lookup .denylist t →
        ∀ item ∈ Text.segments t, '?' ∉ item.toList ∧ '#' ∉ item.toList) ∧
      ∀ items : List String, items ≠ [] → (∀ item ∈ items, Text.IsItem item) →
        (lookup Variable.reservedNames.name = some (",".intercalate items) →
          s.reservedNames = items) ∧
        (lookup Variable.runtimeApis.name = some (",".intercalate items) →
          s.runtimeApis = items) ∧
        (lookup Variable.denylist.name = some (",".intercalate items) →
          List.Forall₂ Entry.Reads items s.denylist.entries) := by
  refine ⟨exists_load_eq_ok_iff, fun fault => load_eq_error_iff, fun lookup' hsame =>
    load_congr hsame, fun s => load_eq_ok_iff, fun s hload => ?_⟩
  have hloaded := load_eq_ok_iff.1 hload
  obtain ⟨hid, hcapacity⟩ := hloaded.wellFormed
  obtain ⟨hnames, hapis⟩ := hloaded.isItem
  exact ⟨hid, hcapacity, hnames, hapis, fun t hset => hloaded.no_mark hset,
    fun items hne hitems => hloaded.joined hne hitems⟩

/-- The port is read before the extension's id, and its text is reported as it stands. -/
example : load (fun name => if name = "PORT" then some " 65536 " else none) =
    .error (.invalid .port " 65536 ") := rfl

/-- An entry with a query or a fragment is not matched loosely but stops the reading. -/
example : load (fun name =>
      if name = "EXTENSION_ID" then some "abc"
      else if name = "INJECTION_DENYLIST" then some "ipfs.io, https://a.example/?q=1#frag"
      else none) =
    .error (.denylist (.queryOrFragment "https://a.example/?q=1#frag")) := by decide +kernel

end Settings
end WalletGate
