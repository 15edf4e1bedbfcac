import WalletGate.Proofs.Persistence
/-!
# What a write leaves in the directory

A value is written in two steps: to the temporary file of its key, and from there to the file of the
key. Each step needs a name that a file can have and that no directory has taken. The first step
changes nothing unless it succeeds. If it succeeds and the second does not, the write is stuck: it
fails, and nobody takes the temporary file away.

* `Writable`: a file can be written under a name; `IsStuck`: the first step can be done and the
  second cannot;
* `setFile_of_not_writable`, `setFile_of_stuck`, `setFile_of_writable`: what becomes of a write
  under a key that names files, whatever else stands in the directory;
* `files_set_outcome`: whether a write fails, and what it leaves behind if it does;
* `files_set_behind_directory`: a write that leaves its temporary file behind.
-/

namespace WalletGate.Session

/-! ## The two steps of a write -/

/-- A file can be written under the name. -/
def Writable (nodes : Dict Node) (name : String) : Prop :=
  Place.isName name = true ∧ nodes.find? name ≠ some .directory

/-- A value can be written to the temporary file of the key but not moved from there. -/
def IsStuck (nodes : Dict Node) (key : String) : Prop :=
  isKey key = true ∧ Writable nodes (temporaryName key) ∧ ¬Writable nodes (fileName key)

section Steps

variable {nodes : Dict Node} {key name : String}

theorem writable_iff :
    (Place.isName name && nodes.find? name ≠ some .directory) = true ↔ Writable nodes name := by
  rw [Bool.and_eq_true_iff, decide_eq_true_iff, Writable]

theorem write?_of_writable (h : Writable nodes name) (text : String) :
    (Place.directory nodes).write? name text = some (.directory (nodes.put name (.file text))) :=
  if_pos (writable_iff.2 h)

theorem write?_of_not_writable (h : ¬Writable nodes name) (text : String) :
    (Place.directory nodes).write? name text = none :=
  if_neg (mt writable_iff.1 h)

theorem find?_put_self (node : Node) : (nodes.put name node).find? name = some node := by
  rw [Dict.find?_put, if_pos rfl]

/-- The temporary file of a key takes no name away from its file. -/
theorem writable_put_temporaryName_iff (text : String) :
    Writable (nodes.put (temporaryName key) (.file text)) (fileName key) ↔
      Writable nodes (fileName key) := by
  unfold Writable
  rw [Dict.find?_put, if_neg (fileName_ne_temporaryName key key)]

/-- The temporary file can be moved if the file could be written. -/
theorem rename?_temporaryName_of_writable (h : Writable nodes (fileName key)) (value : Json) :
    (Place.directory (nodes.put (temporaryName key) (.file value.written))).rename?
        (temporaryName key) (fileName key) = some (.directory (putFile nodes key value)) := by
  simp only [Place.rename?, find?_put_self]
  exact if_pos (writable_iff.2 ((writable_put_temporaryName_iff _).2 h))

theorem rename?_temporaryName_of_not_writable (h : ¬Writable nodes (fileName key)) (text : String) :
    (Place.directory (nodes.put (temporaryName key) (.file text))).rename?
        (temporaryName key) (fileName key) = none := by
  simp only [Place.rename?, find?_put_self]
  exact if_neg fun hboth => h ((writable_put_temporaryName_iff text).1 (writable_iff.1 hboth))

end Steps

/-! ## What becomes of a write -/

section Writes

variable {nodes : Dict Node} {key : String}

theorem setFile_of_not_writable (hkey : isKey key = true)
    (h : ¬Writable nodes (temporaryName key)) (value : Json) :
    setFile key value (.directory nodes) = (.error .storage, .directory nodes) := by
  unfold setFile
  rw [if_pos hkey, write?_of_not_writable h]

/-- A write that is stuck fails, and what it has written so far stays. -/
theorem setFile_of_stuck (h : IsStuck nodes key) (value : Json) :
    setFile key value (.directory nodes) =
      (.error .storage, .directory (nodes.put (temporaryName key) (.file value.written))) := by
  obtain ⟨hkey, htemporary, hfile⟩ := h
  unfold setFile
  rw [if_pos hkey, write?_of_writable htemporary]
  simp only [rename?_temporaryName_of_not_writable hfile]

theorem setFile_of_writable (hkey : isKey key = true)
    (htemporary : Writable nodes (temporaryName key)) (hfile : Writable nodes (fileName key))
    (value : Json) :
    setFile key value (.directory nodes) = (.ok (), .directory (putFile nodes key value)) := by
  unfold setFile
  rw [if_pos hkey, write?_of_writable htemporary]
  simp only [rename?_temporaryName_of_writable hfile]

/-- A write succeeds, or it is stuck, or it fails at once and changes nothing. -/
theorem setFile_outcome (nodes : Dict Node) (key : String) (value : Json) :
    (isKey key = true ∧ Writable nodes (temporaryName key) ∧ Writable nodes (fileName key) ∧
        setFile key value (.directory nodes) = (.ok (), .directory (putFile nodes key value))) ∨
      (IsStuck nodes key ∧ setFile key value (.directory nodes) =
        (.error .storage, .directory (nodes.put (temporaryName key) (.file value.written)))) ∨
      (¬(isKey key = true ∧ Writable nodes (temporaryName key)) ∧
        ∃ fault, setFile key value (.directory nodes) = (.error fault, .directory nodes)) := by
  -- The three things that are needed are tried in this order, and the first that fails decides the
  -- outcome.
  by_cases hkey : isKey key = true
  · by_cases htemporary : Writable nodes (temporaryName key)
    · by_cases hfile : Writable nodes (fileName key)
      · exact .inl ⟨hkey, htemporary, hfile, setFile_of_writable hkey htemporary hfile value⟩
      · have hstuck : IsStuck nodes key := ⟨hkey, htemporary, hfile⟩
        exact .inr (.inl ⟨hstuck, setFile_of_stuck hstuck value⟩)
    · exact .inr (.inr ⟨fun h => htemporary h.2, _, setFile_of_not_writable hkey htemporary value⟩)
  · exact .inr (.inr ⟨fun h => hkey h.1, _,
      setFile_of_not_isKey (Bool.eq_false_iff.2 hkey) value _⟩)

/-- A value that can be read back is found under its key once it is in the directory. -/
theorem getFile_putFile (hname : Place.isName (fileName key) = true) (hkey : isKey key = true)
    {value : Json} (hread : Json.parse? value.written = some value) :
    getFile key (.directory (putFile nodes key value)) = .ok (some value) := by
  have hsize : key.utf8ByteSize ≤ maxKeySize := by
    rw [isName_fileName hkey] at hname
    exact of_decide_eq_true hname
  rw [getFile_directory hkey hsize, find?_putFile, if_pos rfl]
  simp only [hread]

/-- The temporary file of a key is never looked at. -/
theorem getFile_put_temporaryName (key' : String) (text : String) :
    getFile key' (.directory (nodes.put (temporaryName key) (.file text))) =
      getFile key' (.directory nodes) := by
  apply getFile_congr
  rw [Dict.find?_put, if_neg (fileName_ne_temporaryName key' key)]

/-- Writing a file that is there already, with the text that it has, changes nothing. -/
theorem put_eq_self_iff (name : String) (node : Node) :
    nodes.put name node = nodes ↔ nodes.find? name = some node := by
  constructor
  · intro hput
    rw [← hput, find?_put_self]
  · intro hfound
    refine Dict.ext_find? fun name' => ?_
    rw [Dict.find?_put]
    split
    · rename_i hname
      rw [hname, hfound]
    · rfl

end Writes

/-! ## The rule as a whole -/

/-- Writing a value under any key, in a directory with anything in it. The write succeeds if the key
names files and both the temporary file and the file of the key can be written. Then the file of the
key holds the value, which is found there if it can be read back at all, the temporary file is gone,
and nothing else has changed. A write that fails affects no look-up of any key, and it leaves every
name but that of the temporary file as it was. It leaves the whole directory as it was unless it was
stuck; if it was, the temporary file holds the value, and the directory is as before only if the
temporary file held just that value before. -/
theorem files_set_outcome (nodes : Dict Node) (key : String) (value : Json) :
    ∃ answer nodes', files.set key value (.directory nodes) = (answer, .directory nodes') ∧
      (answer = .ok () ↔
        isKey key = true ∧ Writable nodes (temporaryName key) ∧ Writable nodes (fileName key)) ∧
      (answer = .ok () →
        nodes'.find? (fileName key) = some (.file value.written) ∧
        (Json.Plain Json.maxDepth value →
          files.get key (.directory nodes') = .ok (some value)) ∧
        nodes'.find? (temporaryName key) = none ∧
        ∀ name, name ≠ fileName key → name ≠ temporaryName key →
          nodes'.find? name = nodes.find? name) ∧
      (answer ≠ .ok () →
        (∀ key', files.get key' (.directory nodes') = files.get key' (.directory nodes)) ∧
        (∀ name, name ≠ temporaryName key → nodes'.find? name = nodes.find? name) ∧
        (¬IsStuck nodes key → nodes' = nodes) ∧
        (IsStuck nodes key →
          nodes'.find? (temporaryName key) = some (.file value.written) ∧
          (nodes' = nodes ↔
            nodes.find? (temporaryName key) = some (.file value.written)))) := by
  have hfailed (fault : Fault) : (.error fault : Except Fault Unit) ≠ .ok () := by simp
  rcases setFile_outcome nodes key value with
    ⟨hkey, htemporary, hfile, hset⟩ | ⟨hstuck, hset⟩ | ⟨hfirst, fault, hset⟩
  -- All was written: the file holds the value, and the temporary file was renamed away.
  · refine ⟨_, _, hset, iff_of_true rfl ⟨hkey, htemporary, hfile⟩, fun _ => ?_,
      fun hnot => absurd rfl hnot⟩
    refine ⟨?_, fun hplain => getFile_putFile hfile.1 hkey hplain.parse?_written, ?_, ?_⟩
    · rw [find?_putFile, if_pos rfl]
    · rw [find?_putFile, if_neg (fileName_ne_temporaryName key key).symm, if_pos rfl]
    · intro name hne hne'
      rw [find?_putFile, if_neg hne, if_neg hne']
  -- The temporary file was written but could not be renamed. No key is read from a temporary file,
  -- so every look-up is as before.
  · refine ⟨_, _, hset, iff_of_false (hfailed _) fun h => hstuck.2.2 h.2.2,
      fun hok => absurd hok (hfailed _), fun _ => ?_⟩
    refine ⟨fun key' => getFile_put_temporaryName key' _, fun name hne => ?_,
      fun hfree => absurd hstuck hfree, fun _ => ⟨find?_put_self _, put_eq_self_iff _ _⟩⟩
    rw [Dict.find?_put, if_neg hne]
  -- Nothing was written at all.
  · have hfree : ¬IsStuck nodes key := fun hstuck => hfirst ⟨hstuck.1, hstuck.2.1⟩
    refine ⟨_, _, hset, iff_of_false (hfailed _) fun h => hfirst ⟨h.1, h.2.1⟩,
      fun hok => absurd hok (hfailed _), fun _ => ?_⟩
    exact ⟨fun _ => rfl, fun _ _ => rfl, fun _ => rfl, fun hstuck => absurd hstuck hfree⟩

/-- A directory in which another directory has the name of a file. -/
def crossedNodes : Dict Node := (∅ : Dict Node).put "state.json" .directory

/-- Where a directory stands in the way of the file, the write fails and a temporary file is left
that was not there before. -/
theorem files_set_behind_directory :
    ∃ nodes', files.set "state" (.whole 1) (.directory crossedNodes) =
        (.error .storage, .directory nodes') ∧
      crossedNodes.find? "state.tmp" = none ∧ nodes'.find? "state.tmp" = some (.file "1") ∧
      nodes' ≠ crossedNodes := by
  have hstuck : IsStuck crossedNodes "state" := by
    refine ⟨by decide, ⟨by decide, by decide⟩, fun hfile => hfile.2 (by decide)⟩
  have hbefore : crossedNodes.find? "state.tmp" = none := by decide
  have hafter : (crossedNodes.put "state.tmp" (.file "1")).find? "state.tmp" =
      some (.file "1") := find?_put_self _
  refine ⟨_, setFile_of_stuck hstuck (.whole 1), hbefore, hafter, fun hsame => ?_⟩
  have hfound := congrArg (·.find? "state.tmp") hsame
  simp [temporaryName, hbefore] at hfound

end WalletGate.Session
