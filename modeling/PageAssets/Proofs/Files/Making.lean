import PageAssets.Proofs.Files.Directories

/-! Making directories. A directory that is asked for is there afterwards, and nothing that was
there is lost. -/

namespace PageAssets.Files
namespace FileSystem

variable {files other : FileSystem} {base : FilePath} {name : String} {site : Location}

theorem LeadsTo.makeDirectory_join (led : files.LeadsTo base site) (named : IsName name) :
    files.makeDirectory (base.join name).steps =
      if maxNameLength < name.utf8ByteSize then .error .nameTooLong
      else
        match files.get? (site ++ [.text name]) with
        | none => .ok (files.put (site ++ [.text name]) (.directory directoryMode))
        | some _ => .error .alreadyExists := by
  rw [makeDirectory, led.lastStep_join named]
  split <;> rfl

/-- Of the directories that a joined name asks for, only the last one can be missing. -/
theorem LeadsTo.makeDirectories_join (led : files.LeadsTo base site) (named : IsName name)
    (plain : files.NoLinkAt (site ++ [.text name])) :
    files.makeDirectories (base.join name) =
      match base.joinFault? name with
      | some cause => (.error cause, files)
      | none =>
        match files.get? (site ++ [.text name]) with
        | none => (.ok (), files.put (site ++ [.text name]) (.directory directoryMode))
        | some entry => (if entry.isDirectory then .ok () else .error .alreadyExists, files) := by
  have made := led.makeDirectory_join named
  have walked := led.walk_join named plain
  rw [makeDirectories, FilePath.isEmpty_join named, FilePath.joinFault?]
  cases (base.join name).fault? with
  | some cause => rfl
  | none =>
    by_cases long : maxNameLength < name.utf8ByteSize
    · simp [ensureDirectories, ensureDirectory, leadsToDirectory, made, walked, long]
    · cases found : files.get? (site ++ [.text name]) <;>
        simp [ensureDirectories, ensureDirectory, leadsToDirectory, made, walked, long, found, isDirectoryAt]

theorem leadsToDirectory_iff {steps : List Step} :
    files.leadsToDirectory steps = true ↔
      ∃ site, files.walk .find maxLinks files.working false steps = .ok (.present site) ∧
        files.isDirectoryAt site = true := by
  rw [leadsToDirectory]
  constructor
  · intro leads
    split at leads
    next site walked => exact ⟨site, walked, leads⟩
    next => cases leads
  · rintro ⟨site, walked, there⟩
    rw [walked]
    exact there

theorem lastStep_ok {steps : List Step} {location : Location} {entered : Name}
    (last : files.lastStep steps = .ok (location, some (.enter entered))) :
    files.walk .find maxLinks files.working false steps.dropLast = .ok (.present location) ∧
      files.isDirectoryAt location = true ∧ steps = steps.dropLast ++ [.enter entered] ∧
      entered.byteSize ≤ maxNameLength := by
  rw [lastStep] at last
  cases walked : files.walk .find maxLinks files.working false steps.dropLast with
  | error cause =>
    rw [walked] at last
    cases last
  | ok place =>
    rw [walked] at last
    cases place with
    | absent place => cases last
    | present place =>
      simp only [bind, Except.bind] at last
      split at last
      next => cases last
      next directory =>
        split at last
        next name ends =>
          split at last
          next => cases last
          next short =>
            cases last
            obtain ⟨front, rfl⟩ := List.getLast?_eq_some_iff.mp ends
            exact ⟨rfl, by simpa using directory, by simp, Nat.not_lt.mp short⟩
        next nothing =>
          obtain ⟨-, same⟩ := Prod.mk.inj (Except.ok.inj last)
          exact absurd same (nothing entered)

/-- Directories are made for some steps: where they are done, the steps lead to a directory. All that has
changed are directories that were missing on the way. -/
structure MakesWay (before after : FileSystem) (steps : List Step) (done : Prop) : Prop where
  working : after.working = before.working
  made : ∀ location, after.get? location ≠ before.get? location →
    before.get? location = none ∧ after.get? location = some (.directory directoryMode) ∧
      ∃ front left, front <+: steps ∧ Way after maxLinks after.working front left location
  leads : done → after.leadsToDirectory steps = true

namespace MakesWay
variable {before between after : FileSystem} {steps front : List Step} {done further : Prop}

theorem ways (makes : MakesWay before after steps done) : KeepsWays before after := by
  intro location entry found _
  by_contra changed
  rw [← found] at changed
  rw [(makes.made location changed).1] at found
  cases found

theorem of_same (leads : done → files.leadsToDirectory steps = true) : MakesWay files files steps done :=
  ⟨rfl, fun _ changed => absurd rfl changed, leads⟩

/-- Directories on the first part of a way are made, and then those on all of it. -/
theorem trans (first : MakesWay before between front done) (second : MakesWay between after steps further)
    (part : front <+: steps) : MakesWay before after steps further := by
  refine ⟨second.working.trans first.working, ?_, second.leads⟩
  intro location changed
  by_cases kept : after.get? location = between.get? location
  · obtain ⟨free, there, way, left, early, led⟩ := first.made location (kept ▸ changed)
    refine ⟨free, kept.trans there, way, left, early.trans part, ?_⟩
    rw [second.working]
    exact second.ways.way led (isDirectoryAt_iff.mpr ⟨_, there⟩)
  · obtain ⟨free, there, way⟩ := second.made location kept
    refine ⟨?_, there, way⟩
    by_contra occupied
    have moved : between.get? location ≠ before.get? location := by
      rw [free]
      exact Ne.symm occupied
    rw [(first.made location moved).2.1] at free
    cases free

end MakesWay

/-- A directory is made at a free name, in the directory that the steps before it lead to. -/
theorem makeDirectory_ok {steps : List Step} (made : files.makeDirectory steps = .ok other) :
    ∃ front location entered, steps = front ++ [.enter entered] ∧
      files.walk .find maxLinks files.working false front = .ok (.present location) ∧
      files.isDirectoryAt location = true ∧ entered.byteSize ≤ maxNameLength ∧
      files.get? (location ++ [entered]) = none ∧
      other = files.put (location ++ [entered]) (.directory directoryMode) := by
  rw [makeDirectory] at made
  cases last : files.lastStep steps with
  | error cause =>
    rw [last] at made
    cases made
  | ok both =>
    obtain ⟨location, step⟩ := both
    simp only [last, bind, Except.bind] at made
    split at made
    next place entered same =>
      cases same
      split at made
      next absent =>
        cases made
        obtain ⟨walked, directory, split, short⟩ := lastStep_ok last
        exact ⟨_, _, _, split, walked, directory, short, absent, rfl⟩
      next => cases made
    next => cases made

/-- A directory that is made at the end of a way prolongs it. -/
theorem Way.make {links left : Nat} {start location : Location} {steps : List Step} {entered : Name}
    (way : Way files links start steps left location) (directory : files.isDirectoryAt location = true)
    (short : entered.byteSize ≤ maxNameLength) (free : files.get? (location ++ [entered]) = none) :
    Way (files.put (location ++ [entered]) (.directory directoryMode)) links start (steps ++ [.enter entered]) left
      (location ++ [entered]) := by
  have ways := KeepsWays.put_of_absent free (.directory directoryMode)
  have found : (files.put (location ++ [entered]) (.directory directoryMode)).get? (location ++ [entered]) =
      some (.directory directoryMode) := get?_put_self (by simp)
  exact (ways.way way directory).append (.enter (ways.isDirectoryAt directory) short found rfl .stay)

theorem makeDirectory_makesWay {steps : List Step} (made : files.makeDirectory steps = .ok other) :
    MakesWay files other steps True := by
  obtain ⟨front, location, entered, rfl, walked, directory, short, absent, rfl⟩ := makeDirectory_ok made
  obtain ⟨left, way⟩ := way_of_walk walked
  have reached := way.make directory short absent
  have found : (files.put (location ++ [entered]) (.directory directoryMode)).get? (location ++ [entered]) =
      some (.directory directoryMode) := get?_put_self (by simp)
  refine ⟨rfl, ?_, ?_⟩
  · intro changed differs
    obtain rfl : changed = location ++ [entered] := by
      by_contra apart
      exact differs (get?_put_of_ne apart)
    exact ⟨absent, found, _, left, List.prefix_rfl, reached⟩
  · intro _
    have there := isDirectoryAt_iff.mpr ⟨_, found⟩
    exact leadsToDirectory_iff.mpr ⟨_, reached.walk_eq false there, there⟩

theorem ensureDirectory_makesWay (files : FileSystem) (steps : List Step) :
    MakesWay files (files.ensureDirectory steps).2 steps ((files.ensureDirectory steps).1 = .ok ()) := by
  rw [ensureDirectory]
  cases made : files.makeDirectory steps with
  | ok other =>
    have way := makeDirectory_makesWay made
    exact ⟨way.working, way.made, fun _ => way.leads trivial⟩
  | error cause =>
    refine .of_same ?_
    intro done
    dsimp only at done
    split at done
    next leads => exact leads
    next => cases done

theorem ensureDirectories_makesWay (files : FileSystem) (steps : List Step) :
    MakesWay files (files.ensureDirectories steps).2 steps ((files.ensureDirectories steps).1 = .ok ()) := by
  fun_induction files.ensureDirectories steps with
  | case1 => exact .of_same nofun
  | case2 steps _ _ cause after failed ih =>
    rw [failed] at ih
    exact ih.trans (.of_same nofun) (List.dropLast_prefix steps)
  | case3 steps _ _ after done ih =>
    rw [done] at ih
    exact ih.trans (ensureDirectory_makesWay after steps) (List.dropLast_prefix steps)
  | case4 steps => exact ensureDirectory_makesWay files steps

/-- A location holds a directory, which was there before or has been made. -/
structure Provides (before after : FileSystem) (location : Location) : Prop where
  working : after.working = before.working
  free : ∀ entry, before.get? location = some entry → entry.isDirectory = true
  there : after.get? location = some ((before.get? location).getD (.directory directoryMode))
  others : ∀ other, other ≠ location → after.get? other = before.get? other

theorem Provides.made (provides : Provides files other site) (free : files.get? site = none) :
    other.get? site = some (.directory directoryMode) := by
  rw [provides.there, free]
  rfl

theorem Provides.kept {entry : Entry} (provides : Provides files other site) (found : files.get? site = some entry) :
    other.get? site = some entry := by
  rw [provides.there, found]
  rfl

theorem Provides.directory (provides : Provides files other site) : other.isDirectoryAt site = true := by
  cases found : files.get? site with
  | none => exact isDirectoryAt_iff.mpr ⟨_, provides.made found⟩
  | some entry =>
    rw [isDirectoryAt, provides.kept found]
    exact provides.free entry found

end FileSystem

namespace Faults
open FileSystem

variable {faults : Faults} {files : FileSystem} {base : FilePath} {name : String} {site : Location}

theorem makeDirectories_join (faults : Faults) (led : files.LeadsTo base site) (named : IsName name)
    (plain : files.NoLinkAt (site ++ [.text name])) :
    (∃ cause, faults.makeDirectories files (base.join name) = (.error cause, files)) ∨
      ∃ after, faults.makeDirectories files (base.join name) = (.ok (), after) ∧
        Provides files after (site ++ [.text name]) := by
  rw [makeDirectories, led.makeDirectories_join named plain]
  cases faults.making (base.join name) with
  | some cause => exact .inl ⟨cause, rfl⟩
  | none =>
    cases base.joinFault? name with
    | some cause => exact .inl ⟨cause, rfl⟩
    | none =>
      cases found : files.get? (site ++ [.text name]) with
      | none =>
        refine .inr ⟨_, rfl, rfl, by simp [found], ?_, fun other apart => get?_put_of_ne apart⟩
        rw [found]
        exact get?_put_self (by simp)
      | some entry =>
        cases directory : entry.isDirectory with
        | true => exact .inr ⟨files, by simp [directory], rfl, by simp [found, directory], by simp [found], fun _ _ => rfl⟩
        | false => exact .inl ⟨.alreadyExists, by simp [directory]⟩

/-- Whatever comes of making a path's directories, nothing else has changed. The empty path asks for none. -/
theorem makeDirectories_makesWay (faults : Faults) (files : FileSystem) (path : FilePath) :
    MakesWay files (faults.makeDirectories files path).2 path.steps
      ((faults.makeDirectories files path).1 = .ok () ∧ path.isEmpty = false) := by
  rw [makeDirectories]
  cases faults.making path with
  | some cause => exact .of_same nofun
  | none =>
    dsimp only
    rw [FileSystem.makeDirectories]
    cases path.isEmpty with
    | true => exact .of_same nofun
    | false =>
      cases path.fault? with
      | some cause => exact .of_same nofun
      | none =>
        have way := ensureDirectories_makesWay files path.steps
        exact ⟨way.working, way.made, fun done => way.leads done.1⟩

/-- After a path's directories have been made, the path leads to one. -/
theorem makeDirectories_ok {path : FilePath} {after : FileSystem} (written : path.isEmpty = false)
    (made : faults.makeDirectories files path = (.ok (), after)) :
    after.working = files.working ∧ KeepsWays files after ∧ ∃ site, after.LeadsTo path site := by
  have way := faults.makeDirectories_makesWay files path
  rw [made] at way
  obtain ⟨site, walked, there⟩ := leadsToDirectory_iff.mp (way.leads ⟨rfl, written⟩)
  exact ⟨way.working, way.ways, site, walked, there⟩

/-- Nothing is made where a directory is there already. -/
theorem makeDirectories_of_directory (faults : Faults) (led : files.LeadsTo base site) (named : IsName name)
    (directory : files.isDirectoryAt (site ++ [.text name]) = true) :
    faults.makeDirectories files (base.join name) =
      match (faults.making (base.join name)).or (base.joinFault? name) with
      | some cause => (.error cause, files)
      | .none => (.ok (), files) := by
  obtain ⟨mode, there⟩ := isDirectoryAt_iff.mp directory
  rw [makeDirectories, led.makeDirectories_join named (noLinkAt_of_isDirectoryAt directory), there]
  cases faults.making (base.join name) <;> cases base.joinFault? name <;> rfl

end Faults
end PageAssets.Files
