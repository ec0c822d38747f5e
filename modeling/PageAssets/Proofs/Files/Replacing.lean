import PageAssets.Proofs.Files.Directories
import PageAssets.Proofs.Files.Entries
import PageAssets.Proofs.Files.Faults
import PageAssets.Proofs.Text.Encoding

/-! Replacing a file. The staged file has a name of its own and is gone in the end, so a replacement
either changes nothing or gives one location its new content. -/

namespace PageAssets.Files.FileSystem

variable {files before after : FileSystem} {base : FilePath} {name : String} {site location : Location}

section Staging

theorem byteSize_le_namesLength {rows : List (Name × Entry)} {row : Name × Entry} (member : row ∈ rows) :
    row.1.byteSize ≤ namesLength rows := by
  induction rows with
  | nil => cases member
  | cons first rest ih =>
    rw [namesLength]
    rcases List.mem_cons.mp member with rfl | later
    · exact Nat.le_add_right _ _
    · exact Nat.le_add_left_of_le (ih later)

theorem byteSize_freshName (files : FileSystem) (location : Location) (path : FilePath) :
    (files.freshName location path).byteSize =
      4 + namesLength (files.children location) + path.text.utf8ByteSize := by
  have filling (count : Nat) : (String.ofList (List.replicate count 'x')).utf8ByteSize = count := by
    rw [Text.utf8ByteSize_ofList]
    induction count with
    | zero => rfl
    | succ count ih =>
      rw [List.replicate_succ, Text.byteSize_cons, ih, Nat.add_comm]
      rfl
  rw [freshName, Name.byteSize, String.utf8ByteSize_append, filling, Nat.add_assoc]
  rfl

theorem get?_freshName (files : FileSystem) (location : Location) (path : FilePath) :
    files.get? (location ++ [files.freshName location path]) = none := by
  rw [Option.eq_none_iff_forall_not_mem]
  intro entry found
  have fits := byteSize_le_namesLength (mem_children_iff.mpr found)
  have long := byteSize_freshName files location path
  dsimp only at fits
  omega

/-- A path is too short to end in the name that is staged for it. -/
theorem freshName_ne {path : FilePath} {name : Name} (short : name.byteSize ≤ path.text.utf8ByteSize) :
    name ≠ files.freshName location path := by
  rintro rfl
  have long := byteSize_freshName files location path
  omega

theorem byteSize_le_join (base : FilePath) (name : String) :
    name.utf8ByteSize ≤ (base.join name).text.utf8ByteSize := by
  rw [FilePath.join]
  split
  next => exact Nat.le_refl _
  next =>
    split <;> simp only [String.utf8ByteSize_append]
    all_goals exact Nat.le_add_left _ _

/-- Why nothing can be staged beside a path, whatever stands there. -/
def stagingFault? (files : FileSystem) (path : FilePath) : Option Cause :=
  let directory := stagingDirectory path
  if directory.hasNul then some .nulInPath
  else if maxPathLength < files.stagedPathSize directory then some .nameTooLong
  else none

theorem stagingFault?_congr (working : before.working = after.working) (path : FilePath) :
    before.stagingFault? path = after.stagingFault? path := by
  unfold stagingFault? stagedPathSize
  rw [working]

theorem isEmpty_stagingDirectory (path : FilePath) : (stagingDirectory path).isEmpty = false := by
  rw [stagingDirectory]
  split
  next parent _ =>
    split
    next => rfl
    next some => exact Bool.eq_false_iff.mpr some
  next => rfl

theorem fault?_stagingDirectory {path : FilePath} (fine : files.stagingFault? path = none) :
    (stagingDirectory path).fault? = none := by
  rw [stagingFault?] at fine
  split at fine
  next => cases fine
  next clean =>
    split at fine
    next => cases fine
    next fits =>
      have short : (stagingDirectory path).byteSize ≤ files.stagedPathSize (stagingDirectory path) := by
        rw [stagedPathSize]
        omega
      have short : ¬ maxPathLength < (stagingDirectory path).byteSize := by omega
      simp [FilePath.fault?, clean, isEmpty_stagingDirectory, short]

theorem LeadsTo.find_stagingDirectory (led : files.LeadsTo base site) (named : IsName name)
    (fine : files.stagingFault? (base.join name) = none) :
    ∃ mode, files.find (stagingDirectory (base.join name)) = .ok (site, .directory mode) := by
  obtain ⟨steps, idle, extra, front, beside⟩ := FilePath.steps_stagingDirectory base named
  obtain ⟨last, way⟩ := led.way
  rw [front] at way
  obtain ⟨left, place, first, second⟩ := way.split
  obtain ⟨rfl, rfl⟩ := second.of_idle
  have staged : files.LeadsTo (stagingDirectory (base.join name)) site :=
    .of_way (beside ▸ first.append (.idle extra led.directory)) led.directory
  exact staged.exists_find (fault?_stagingDirectory fine)

theorem LeadsTo.stage_join (led : files.LeadsTo base site) (named : IsName name) (content : ByteArray) :
    files.stage (base.join name) content =
      match files.stagingFault? (base.join name) with
      | some cause => .error cause
      | none =>
        let staged := site ++ [files.freshName site (base.join name)]
        .ok (staged, files.put staged (.file content stagedMode)) := by
  have found := led.find_stagingDirectory named
  rw [stage]
  unfold stagingFault? at found ⊢
  dsimp only at found ⊢
  split
  next => rfl
  next clean =>
    split
    next => rfl
    next fits =>
      rw [if_neg clean, if_neg fits] at found
      obtain ⟨mode, there⟩ := found rfl
      rw [there]
      rfl

/-- Wherever a file is staged, nothing has been there. -/
theorem stage_ok {path : FilePath} {content : ByteArray} {staged : FileSystem}
    (made : files.stage path content = .ok (location, staged)) :
    files.get? location = none ∧ staged = files.put location (.file content stagedMode) := by
  rw [stage] at made
  dsimp only at made
  split at made
  next => cases made
  next =>
    split at made
    next => cases made
    next =>
      cases found : files.find (stagingDirectory path) with
      | error cause =>
        rw [found] at made
        cases made
      | ok place =>
        obtain ⟨directory, entry⟩ := place
        rw [found] at made
        cases entry with
        | directory mode =>
          cases made
          exact ⟨get?_freshName _ _ _, rfl⟩
        | file content mode | link target => cases made

end Staging

def modeAt (files : FileSystem) (location : Location) : Nat :=
  match files.get? location with
  | some (.file _ mode) => mode
  | _ => defaultMode

theorem modeAt_of_get? {content : ByteArray} {mode : Nat} (found : files.get? location = some (.file content mode)) :
    files.modeAt location = mode := by
  rw [modeAt, found]

/-- One location holds a file with new content; it held a file before, or nothing. -/
structure Rewrites (before after : FileSystem) (location : Location) (content : ByteArray) : Prop where
  working : after.working = before.working
  replaced : ∀ entry, before.get? location = some entry → ∃ old mode, entry = .file old mode
  written : after.get? location = some (.file content (before.modeAt location))
  others : ∀ other, other ≠ location → after.get? other = before.get? other

/-- One location holds a file with new content, whatever has had its name. A link there is gone, and where it
pointed to nothing has changed. -/
structure Supersedes (before after : FileSystem) (location : Location) (content : ByteArray) (mode : Nat) : Prop where
  working : after.working = before.working
  free : before.isDirectoryAt location = false
  written : after.get? location = some (.file content mode)
  others : ∀ other, other ≠ location → after.get? other = before.get? other

theorem Supersedes.rewrites {content : ByteArray}
    (supersedes : Supersedes before after location content (before.modeAt location))
    (plain : before.NoLinkAt location) : Rewrites before after location content := by
  refine ⟨supersedes.working, ?_, supersedes.written, supersedes.others⟩
  intro entry found
  cases entry with
  | file old mode => exact ⟨old, mode, rfl⟩
  | directory mode =>
    cases supersedes.free.symm.trans (isDirectoryAt_iff.mpr ⟨mode, found⟩)
  | link target => exact absurd found (plain target)

def renameFault? (base : FilePath) (name : String) (entry : Option Entry) : Option Cause :=
  match base.joinFault? name with
  | some .nulInPath => some .invalidArgument
  | some cause => some cause
  | none => if entry.any Entry.isDirectory then some .isADirectory else none

theorem renameFault?_eq_none_iff {entry : Option Entry} :
    renameFault? base name entry = none ↔ base.joinFault? name = none ∧ entry.any Entry.isDirectory = false := by
  unfold renameFault?
  split
  next fault => simp [fault]
  next fault => simp [fault]
  next fine => simp [fine]

theorem LeadsTo.rename_join {source : Location} {entry : Entry} (led : files.LeadsTo base site) (named : IsName name)
    (found : files.get? source = some entry) :
    files.rename source (base.join name) =
      match renameFault? base name (files.get? (site ++ [.text name])) with
      | some cause => .error cause
      | none => .ok ((files.erase source).put (site ++ [.text name]) entry) := by
  unfold rename renameFault? FilePath.joinFault?
  rw [led.lastStep_join named]
  cases fault : (base.join name).fault? with
  | some cause => cases cause <;> rfl
  | none =>
    by_cases long : maxNameLength < name.utf8ByteSize
    · simp [long, bind, Except.bind]
    · simp only [long, ↓reduceIte, bind, Except.bind, FilePath.endsInSlash_join named, Bool.false_eq_true, found]
      split
      next occupied => simp [occupied, Entry.isDirectory]
      next other some free =>
        have clear : ¬ (files.get? (site ++ [.text name])).any Entry.isDirectory = true := by
          intro directory
          obtain ⟨mode, there⟩ := isDirectoryAt_iff.mp directory
          exact free mode there
        cases some
        rw [if_neg clear]
      next => simp_all

/-- What a staged file becomes a part of: the files as they were, with one more at a free location. -/
theorem get?_setMode_put {source : Location} (below : source ≠ []) (content : ByteArray) (first mode : Nat)
    (other : Location) :
    ((files.put source (.file content first)).setMode source mode).get? other =
      if other = source then some (.file content mode) else files.get? other := by
  rw [setMode, get?_put_self below]
  dsimp only
  split
  next same => rw [same, get?_put_self below]
  next differs => rw [get?_put_of_ne differs, get?_put_of_ne differs]

/-- A staged file makes no difference anywhere else. -/
theorem get?_staged_of_ne {source other : Location} (absent : files.get? source = none) (apart : other ≠ source)
    (content : ByteArray) (first mode : Nat) :
    ((files.put source (.file content first)).setMode source mode).get? other = files.get? other := by
  rw [get?_setMode_put (ne_nil_of_absent absent), if_neg apart]

theorem working_setMode (files : FileSystem) (location : Location) (mode : Nat) :
    (files.setMode location mode).working = files.working := by
  rw [setMode]
  split <;> rfl

theorem LeadsTo.modeFor_join (led : files.LeadsTo base site) (named : IsName name)
    (plain : files.NoLinkAt (site ++ [.text name])) (fine : base.joinFault? name = none)
    (free : files.isDirectoryAt (site ++ [.text name]) = false) :
    files.modeFor (base.join name) = files.modeAt (site ++ [.text name]) := by
  rw [modeFor, led.find_join named plain, fine, modeAt]
  cases found : files.get? (site ++ [.text name]) with
  | none => rfl
  | some entry =>
    cases entry with
    | file content mode => rfl
    | directory mode => cases free.symm.trans (isDirectoryAt_iff.mpr ⟨mode, found⟩)
    | link target => exact absurd found (plain target)

/-- A staged file takes the name that it is renamed to, also from a link. -/
theorem LeadsTo.rename_staged {source : Location} (led : files.LeadsTo base site) (named : IsName name)
    (absent : files.get? source = none) (away : site ++ [.text name] ≠ source) (content : ByteArray) (mode : Nat) :
    let staged := (files.put source (.file content stagedMode)).setMode source mode
    match renameFault? base name (files.get? (site ++ [.text name])) with
    | some cause => staged.rename source (base.join name) = .error cause
    | none => ∃ renamed, staged.rename source (base.join name) = .ok renamed ∧
        Supersedes files renamed (site ++ [.text name]) content mode := by
  intro staged
  have below : source ≠ [] := ne_nil_of_absent absent
  have others (other : Location) (apart : other ≠ source) : staged.get? other = files.get? other :=
    get?_staged_of_ne absent apart content _ _
  have working : staged.working = files.working := working_setMode _ _ _
  have ways : KeepsWays files staged := by
    refine KeepsWays.of_others others ?_
    intro entry found
    rw [absent] at found
    cases found
  have renamed := (led.keep ways working).rename_join named ((get?_setMode_put below content _ _ source).trans (if_pos rfl))
  rw [others _ away] at renamed
  cases fault : renameFault? base name (files.get? (site ++ [.text name])) with
  | some cause =>
    rw [fault] at renamed
    exact renamed
  | none =>
    rw [fault] at renamed
    refine ⟨_, renamed, working, (renameFault?_eq_none_iff.mp fault).2, get?_put_self (by simp), ?_⟩
    intro other apart
    rw [get?_put_of_ne apart]
    by_cases same : other = source
    · rw [same, get?_erase_self below, absent]
    · rw [get?_erase_of_ne same, others other same]

end FileSystem

namespace Faults
open FileSystem

/-- Why a name that is joined to a path cannot get new content, given what has the name. -/
def replaceFault? (faults : Faults) (files : FileSystem) (base : FilePath) (name : String) (entry : Option Entry) :
    Option Cause :=
  (faults.staging (base.join name)).or <| (files.stagingFault? (base.join name)).or <|
    (faults.finishing (base.join name)).or <| renameFault? base name entry

variable {faults : Faults} {files after : FileSystem} {base : FilePath} {name : String} {site : Location}

/-- A replacement that fails leaves nothing behind. -/
theorem replace_error {path : FilePath} {content : ByteArray} {cause : Cause}
    (failed : faults.replace files path content = (.error cause, after)) : after = files := by
  rw [replace] at failed
  split at failed
  next =>
    cases failed
    rfl
  next =>
    split at failed
    next =>
      cases failed
      rfl
    next location staged made =>
      obtain ⟨absent, rfl⟩ := stage_ok made
      dsimp only at failed
      split at failed
      next =>
        cases failed
        exact erase_put_of_absent absent _
      next => cases failed

/-- What has a name in a directory that is led to gets new content, or all is as it was. -/
theorem replace_named (faults : Faults) (led : files.LeadsTo base site) (named : IsName name) (content : ByteArray) :
    match faults.replaceFault? files base name (files.get? (site ++ [.text name])) with
    | some cause => faults.replace files (base.join name) content = (.error cause, files)
    | .none => ∃ after, faults.replace files (base.join name) content = (.ok (), after) ∧
        Supersedes files after (site ++ [.text name]) content (files.modeFor (base.join name)) := by
  have absent := get?_freshName files site (base.join name)
  have fresh : (.text name : Name) ≠ files.freshName site (base.join name) := freshName_ne (byteSize_le_join base name)
  rw [replace, replaceFault?, led.stage_join named]
  cases faults.staging (base.join name) with
  | some cause => rfl
  | none =>
    cases files.stagingFault? (base.join name) with
    | some cause => rfl
    | none =>
      dsimp only [Option.or]
      generalize files.freshName site (base.join name) = stagedName at absent fresh
      have away : site ++ [.text name] ≠ site ++ [stagedName] := by simpa using fresh
      cases faults.finishing (base.join name) with
      | some cause => simp [erase_put_of_absent absent]
      | none =>
        have renamed := led.rename_staged named absent away content (files.modeFor (base.join name))
        dsimp only [Option.or] at renamed ⊢
        cases fault : renameFault? base name (files.get? (site ++ [.text name])) with
        | some cause =>
          rw [fault] at renamed
          simp [renamed, erase_put_of_absent absent]
        | none =>
          rw [fault] at renamed
          obtain ⟨after, done, supersedes⟩ := renamed
          exact ⟨after, by rw [done], supersedes⟩

theorem renameFault?_of_replaceFault? {entry : Option Entry}
    (fine : faults.replaceFault? files base name entry = .none) : renameFault? base name entry = .none := by
  simp only [replaceFault?, Option.or_eq_none_iff] at fine
  exact fine.2.2.2

theorem replace_join (faults : Faults) (led : files.LeadsTo base site) (named : IsName name)
    (plain : files.NoLinkAt (site ++ [.text name])) (content : ByteArray) :
    match faults.replaceFault? files base name (files.get? (site ++ [.text name])) with
    | some cause => faults.replace files (base.join name) content = (.error cause, files)
    | .none => ∃ after, faults.replace files (base.join name) content = (.ok (), after) ∧
        Rewrites files after (site ++ [.text name]) content := by
  have replaced := faults.replace_named led named content
  cases fault : faults.replaceFault? files base name (files.get? (site ++ [.text name])) with
  | some cause =>
    rw [fault] at replaced
    exact replaced
  | none =>
    rw [fault] at replaced
    obtain ⟨after, done, supersedes⟩ := replaced
    obtain ⟨fine, free⟩ := renameFault?_eq_none_iff.mp (renameFault?_of_replaceFault? fault)
    rw [led.modeFor_join named plain fine free] at supersedes
    exact ⟨after, done, supersedes.rewrites plain⟩

end Faults
end PageAssets.Files
