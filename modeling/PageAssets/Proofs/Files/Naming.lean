import PageAssets.Proofs.Files.Making
import PageAssets.Proofs.Files.Replacing

/-! What a path names: an entry of the directory that the rest of the path leads to. A link with the last
name is named itself and is not followed. Main statement: a replacement is made exactly where nothing stands
in its way, and then the entry that the path names is the new file; otherwise all is as it was. -/

namespace PageAssets.Files
open FileSystem

namespace FilePath
variable {path base : FilePath} {part : List Char} {others : List (List Char)} {front : List Step} {name : Name}

theorem exists_step (some : part ≠ []) : ∃ step, Step.ofPart? part = .some step := by
  unfold Step.ofPart?
  split
  next => exact absurd rfl some
  next => exact ⟨_, rfl⟩
  next => exact ⟨_, rfl⟩
  next => exact ⟨_, rfl⟩

/-- A step that enters a name comes from a part that counts as one step down. -/
theorem isName_of_ofPart? (slashless : '/' ∉ part) (entered : Step.ofPart? part = some (.enter name)) :
    IsName (String.ofList part) ∧ name = .text (String.ofList part) := by
  unfold Step.ofPart? at entered
  split at entered
  next => cases entered
  next => cases entered
  next => cases entered
  next some notHere notUp =>
    cases entered
    refine ⟨?_, rfl⟩
    constructor <;> simpa using ‹_›

/-- The last part of a path is its last step, unless it is empty. -/
theorem ofPart?_of_steps (split : slashParts path.text.toList = others ++ [part]) (some : part ≠ [])
    (steps : path.steps = front ++ [.enter name]) : Step.ofPart? part = .some (.enter name) := by
  obtain ⟨step, last⟩ := exists_step some
  rw [steps_eq, split, List.filterMap_append, List.filterMap_cons, last, List.filterMap_nil, ← List.append_assoc] at steps
  have same := (List.append_inj' steps rfl).2
  rw [last, List.cons.inj same |>.1]

theorem exists_last_slash {text : List Char} (slashed : '/' ∈ text) :
    ∃ front part, text = front ++ '/' :: part ∧ '/' ∉ part := by
  obtain ⟨behind, before, split, plain⟩ := List.eq_append_cons_of_mem (List.mem_reverse.mpr slashed)
  refine ⟨before.reverse, behind.reverse, ?_, by simpa using plain⟩
  have whole := congrArg List.reverse split
  simpa using whole

/-- A path that enters a name at its end is that name joined to another path. -/
theorem exists_join (steps : path.steps = front ++ [.enter name]) (slashless : path.endsInSlash = false) :
    ∃ base part, IsName part ∧ path = join base part ∧ name = .text part := by
  by_cases slashed : '/' ∈ path.text.toList
  · obtain ⟨before, part, written, plain⟩ := exists_last_slash slashed
    have some : part ≠ [] := by
      rintro rfl
      rw [endsInSlash, written] at slashless
      simp at slashless
    have split : slashParts path.text.toList = slashParts before ++ [part] := by
      rw [written, slashParts_append, slashParts_of_slashless plain]
    obtain ⟨named, same⟩ := isName_of_ofPart? plain (ofPart?_of_steps split some steps)
    refine ⟨⟨String.ofList (before ++ ['/'])⟩, String.ofList part, named, ?_, same⟩
    have relative := isAbsolute_of_slashless named.slashless
    have joined : join ⟨String.ofList (before ++ ['/'])⟩ (String.ofList part) =
        ⟨String.ofList (before ++ ['/']) ++ String.ofList part⟩ := by
      rw [join, relative]
      simp [isEmpty, endsInSlash]
    rw [joined, ← String.ofList_append, List.append_assoc, List.singleton_append, ← written, String.ofList_toList]
  · have split : slashParts path.text.toList = [] ++ [path.text.toList] := slashParts_of_slashless slashed
    have some : path.text.toList ≠ [] := by
      intro empty
      have nothing : (slashParts []).filterMap Step.ofPart? = [] := rfl
      rw [steps_eq, isAbsolute, empty, nothing] at steps
      simp at steps
    obtain ⟨named, same⟩ := isName_of_ofPart? slashed (ofPart?_of_steps split some steps)
    refine ⟨⟨""⟩, String.ofList path.text.toList, named, ?_, same⟩
    rw [join, isEmpty]
    simp

end FilePath

namespace FileSystem

/-- All steps of a path but the last lead to a directory, and the last one enters a name there. -/
structure Names (files : FileSystem) (path : FilePath) (directory : Location) (name : Name) : Prop where
  way : ∃ front left, path.steps = front ++ [.enter name] ∧ Way files maxLinks files.working front left directory
  there : files.isDirectoryAt directory = true

variable {files before after : FileSystem} {path base : FilePath} {part : String} {directory : Location} {name : Name}

/-- What is named by a name joined to a path has that name, in the directory that the path leads to. -/
theorem names_join_iff (named : IsName part) :
    files.Names (base.join part) directory name ↔ files.LeadsTo base directory ∧ name = .text part := by
  constructor
  · intro names
    obtain ⟨front, left, steps, way⟩ := names.way
    rw [FilePath.steps_join named] at steps
    obtain ⟨rfl, last⟩ := List.append_inj' steps rfl
    cases last
    exact ⟨.of_way way names.there, rfl⟩
  · rintro ⟨led, rfl⟩
    obtain ⟨left, way⟩ := led.way
    exact ⟨⟨_, left, FilePath.steps_join named, way⟩, led.directory⟩

namespace Names

theorem exists_join (names : files.Names path directory name) (slashless : path.endsInSlash = false) :
    ∃ base part, IsName part ∧ path = base.join part ∧ name = .text part ∧ files.LeadsTo base directory := by
  obtain ⟨front, left, steps, -⟩ := names.way
  obtain ⟨base, part, named, rfl, rfl⟩ := FilePath.exists_join steps slashless
  exact ⟨base, part, named, rfl, rfl, ((names_join_iff named).mp names).1⟩

/-- A path names no more than one entry. -/
theorem unique {other : Location} {second : Name} (one : files.Names path directory name)
    (again : files.Names path other second) : directory = other ∧ name = second := by
  obtain ⟨front, left, steps, way⟩ := one.way
  obtain ⟨_, _, same, further⟩ := again.way
  rw [steps] at same
  obtain ⟨rfl, last⟩ := List.append_inj' same rfl
  have walked := (way.walk_eq false one.there).symm.trans (further.walk_eq false again.there)
  cases walked
  cases last
  exact ⟨rfl, rfl⟩

/-- The path names the same entry wherever the directories and links on its way have stayed. -/
theorem keep (names : before.Names path directory name) (kept : KeepsWays before after)
    (working : after.working = before.working) : after.Names path directory name := by
  obtain ⟨front, left, steps, way⟩ := names.way
  have moved := kept.way way names.there
  rw [← working] at moved
  exact ⟨⟨front, left, steps, moved⟩, kept.isDirectoryAt names.there⟩

theorem of_lastStep (last : files.lastStep path.steps = .ok (directory, some (.enter name))) :
    files.Names path directory name := by
  obtain ⟨walked, there, steps, -⟩ := lastStep_ok last
  obtain ⟨left, way⟩ := way_of_walk walked
  exact ⟨⟨_, left, steps, way⟩, there⟩

end Names

theorem rename_ok {source : Location} (renamed : files.rename source path = .ok after) :
    path.endsInSlash = false ∧ ∃ directory name, files.Names path directory name := by
  rw [rename] at renamed
  split at renamed
  next => cases renamed
  next => cases renamed
  next =>
    cases last : files.lastStep path.steps with
    | error cause =>
      rw [last] at renamed
      cases renamed
    | ok both =>
      obtain ⟨directory, step⟩ := both
      simp only [last, bind, Except.bind] at renamed
      split at renamed
      next place name same =>
        cases same
        split at renamed
        next => cases renamed
        next slashless => exact ⟨Bool.eq_false_iff.mpr slashless, _, name, .of_lastStep last⟩
      next => cases renamed

end FileSystem

/-- The entry that a path names has become a file with new content. It has the permissions of what the path
resolved to, or those of a new file. The path leads to it, unless the way there led through the very link that
has been replaced. -/
structure Replaced (before after : FileSystem) (path : FilePath) (content : ByteArray) (directory : Location)
    (name : Name) (mode : Nat) : Prop where
  names : before.Names path directory name
  kept : ∀ place entry, before.find path = .ok (place, entry) → mode = entry.permissions
  new : (∀ found, before.find path ≠ .ok found) → mode = defaultMode
  supersedes : Supersedes before after (directory ++ [name]) content mode
  found : (before.erase (directory ++ [name])).Names path directory name →
    after.find path = .ok (directory ++ [name], .file content mode)

/-- Nothing is in the way of replacing what a path names. -/
structure Replaceable (faults : Faults) (files : FileSystem) (path : FilePath) : Prop where
  staging : faults.staging path = none
  finishing : faults.finishing path = none
  room : files.stagingFault? path = none
  fine : path.fault? = none
  slashless : path.endsInSlash = false
  named : ∃ directory name, files.Names path directory name ∧ name.byteSize ≤ maxNameLength ∧
    files.isDirectoryAt (directory ++ [name]) = false

/-- What comes of replacing what a path names, all of it or nothing. -/
inductive Replacement (faults : Faults) (before : FileSystem) (path : FilePath) (content : ByteArray) :
    Except Cause Unit × FileSystem → Prop where
  | refused (cause : Cause) (hindered : ¬ Replaceable faults before path) :
      Replacement faults before path content (.error cause, before)
  | done {after : FileSystem} {directory : Location} {name : Name} {mode : Nat}
      (replaceable : Replaceable faults before path)
      (replaced : Replaced before after path content directory name mode) :
      Replacement faults before path content (.ok (), after)

section Replacing
variable {faults : Faults} {files before after : FileSystem} {path base : FilePath} {part : String} {site : Location}
  {content : ByteArray}

theorem FilePath.joinFault?_eq_none_iff :
    base.joinFault? part = none ↔ (base.join part).fault? = none ∧ part.utf8ByteSize ≤ maxNameLength := by
  rw [joinFault?]
  cases (base.join part).fault? <;> simp

theorem modeFor_of_find {found : Location × Entry} (shown : files.find path = .ok found) :
    files.modeFor path = found.2.permissions := by
  rw [modeFor, shown]

theorem modeFor_of_not_found (missing : ∀ found, files.find path ≠ .ok found) : files.modeFor path = defaultMode := by
  rw [modeFor]
  cases shown : files.find path with
  | error cause => rfl
  | ok found => exact absurd shown (missing found)

theorem replaceable_join_iff (led : files.LeadsTo base site) (named : IsName part) :
    Replaceable faults files (base.join part) ↔
      faults.replaceFault? files base part (files.get? (site ++ [.text part])) = none := by
  simp only [Faults.replaceFault?, Option.or_eq_none_iff, renameFault?_eq_none_iff, FilePath.joinFault?_eq_none_iff]
  constructor
  · intro replaceable
    obtain ⟨directory, name, names, short, free⟩ := replaceable.named
    obtain ⟨again, rfl⟩ := (names_join_iff named).mp names
    obtain rfl := again.unique led
    exact ⟨replaceable.staging, replaceable.room, replaceable.finishing, ⟨replaceable.fine, short⟩, free⟩
  · rintro ⟨staging, room, finishing, ⟨fine, short⟩, free⟩
    exact ⟨staging, finishing, room, fine, FilePath.endsInSlash_join named, site, .text part,
      (names_join_iff named).mpr ⟨led, rfl⟩, short, free⟩

/-- A staged file is on no way. -/
theorem keepsWays_of_staged {source : Location} (absent : files.get? source = none) (content : ByteArray)
    (first mode : Nat) : KeepsWays ((files.put source (.file content first)).setMode source mode) files := by
  refine KeepsWays.of_others (fun _ apart => (get?_staged_of_ne absent apart content first mode).symm) ?_
  intro entry there
  rw [get?_setMode_put (ne_nil_of_absent absent), if_pos rfl] at there
  cases there
  exact ⟨content, mode, rfl⟩

/-- What has been replaced is named by the path as the files were. -/
theorem names_of_replace_ok (done : faults.replace files path content = (.ok (), after)) :
    path.endsInSlash = false ∧ ∃ directory name, files.Names path directory name := by
  rw [Faults.replace] at done
  split at done
  next => cases done
  next =>
    split at done
    next => cases done
    next source staged made =>
      obtain ⟨absent, rfl⟩ := stage_ok made
      dsimp only at done
      split at done
      next => cases done
      next renamed finished =>
        split at finished
        next => cases finished
        next =>
          obtain ⟨slashless, directory, name, names⟩ := rename_ok finished
          have working : ((files.put source (.file content stagedMode)).setMode source (files.modeFor path)).working =
              files.working := working_setMode _ _ _
          exact ⟨slashless, directory, name, names.keep (keepsWays_of_staged absent content _ _) working.symm⟩

theorem replaced_join (led : before.LeadsTo base site) (named : IsName part) (fine : base.joinFault? part = none)
    (supersedes : Supersedes before after (site ++ [.text part]) content (before.modeFor (base.join part))) :
    Replaced before after (base.join part) content site (.text part) (before.modeFor (base.join part)) := by
  refine ⟨(names_join_iff named).mpr ⟨led, rfl⟩, ?_, modeFor_of_not_found, supersedes, ?_⟩
  · intro place entry found
    exact modeFor_of_find found
  · intro names
    have ways : KeepsWays (before.erase (site ++ [.text part])) after := by
      intro place entry there _
      by_cases same : place = site ++ [.text part]
      · rw [same, get?_erase_self (by simp)] at there
        cases there
      · rw [supersedes.others place same, ← there, get?_erase_of_ne same]
    have standing := ((names_join_iff named).mp names).1.keep ways supersedes.working
    rw [standing.find_join named (noLinkAt_of_get? supersedes.written rfl), fine, supersedes.written]

/-- Replacing what a path names is all or nothing, and it is done exactly where nothing is in the way. -/
theorem Faults.replace_cases (faults : Faults) (files : FileSystem) (path : FilePath) (content : ByteArray) :
    Replacement faults files path content (faults.replace files path content) := by
  rcases replaced : faults.replace files path content with ⟨cause | value, after⟩
  · obtain rfl := replace_error replaced
    refine .refused cause fun replaceable => ?_
    obtain ⟨directory, name, names, -⟩ := replaceable.named
    obtain ⟨base, part, named, rfl, rfl, led⟩ := names.exists_join replaceable.slashless
    have outcome := faults.replace_named led named content
    rw [(replaceable_join_iff led named).mp replaceable, replaced] at outcome
    obtain ⟨_, impossible, -⟩ := outcome
    cases impossible
  · obtain ⟨slashless, directory, name, names⟩ := names_of_replace_ok replaced
    obtain ⟨base, part, named, rfl, rfl, led⟩ := names.exists_join slashless
    have outcome := faults.replace_named led named content
    rw [replaced] at outcome
    cases fault : faults.replaceFault? files base part (files.get? (directory ++ [.text part])) with
    | some cause =>
      rw [fault] at outcome
      cases outcome
    | none =>
      rw [fault] at outcome
      obtain ⟨_, same, supersedes⟩ := outcome
      cases same
      have fine := (renameFault?_eq_none_iff.mp (renameFault?_of_replaceFault? fault)).1
      exact .done ((replaceable_join_iff led named).mpr fault) (replaced_join led named fine supersedes)

end Replacing
end PageAssets.Files
