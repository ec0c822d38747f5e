import PageAssets.Proofs.Batch.Listing
import PageAssets.Proofs.Batch.Turns

/-! Pages of a batch do not meet. Each keeps to itself and its assets, which no other page of the
batch has; so each is processed as if it were alone, in whatever order. -/

namespace PageAssets.Batch
open Files FileSystem Page

/-- Two pages have no location in common. -/
theorem disjoint_slotsOf {site : Location} {first second : String} (page : isPageName first = true)
    (other : isPageName second = true) (apart : first ≠ second) :
    (slotsOf site first).Disjoint (slotsOf site second) := by
  intro location inside again
  rcases List.mem_cons.mp inside with rfl | asset
  · rcases List.mem_cons.mp again with same | asset
    · exact apart (by simpa [pageAt] using same)
    · obtain ⟨kind, -, same⟩ := List.mem_map.mp asset
      exact AssetKind.assetAt_ne_pageAt same
  · obtain ⟨kind, -, rfl⟩ := List.mem_map.mp asset
    rcases List.mem_cons.mp again with same | asset
    · exact AssetKind.assetAt_ne_pageAt same
    · obtain ⟨_, -, same⟩ := List.mem_map.mp asset
      exact apart (baseName_inj page other (AssetKind.assetAt_inj.mp same).2.symm)

section Batch
variable (faults : Faults) (webDir : FilePath) {site : Location} {start now : FileSystem} {names : List String}

def runEach (names : List String) (files : FileSystem) : List (Outcome ExtractionReport) × FileSystem :=
  (extractEach webDir names : FaultyDisk faults _) files

theorem runEach_cons (fileName : String) (rest : List String) (files : FileSystem) :
    runEach faults webDir (fileName :: rest) files =
      let first := faults.attempt (extractDocument webDir fileName) files
      let others := runEach faults webDir rest first.2
      (⟨fileName, first.1⟩ :: others.1, others.2) := by
  rfl

def alone (start : FileSystem) (fileName : String) : Except Failure ExtractionReport × FileSystem :=
  faults.attempt (extractDocument webDir fileName) start

/-- The batch has come to every page what comes to it alone, and to nothing else. -/
structure Isolated (site : Location) (start now : FileSystem) (names : List String)
    (outcome : List (Outcome ExtractionReport) × FileSystem) : Prop where
  results : outcome.1 = names.map fun fileName => ⟨fileName, (alone faults webDir start fileName).1⟩
  slots : ∀ fileName ∈ names, ∀ location ∈ slotsOf site fileName,
    outcome.2.get? location = (alone faults webDir start fileName).2.get? location
  others : ∀ location, (∀ fileName ∈ names, location ∉ slotsOf site fileName) →
    outcome.2.get? location = now.get? location

theorem runEach_eq_inTurn (names : List String) (files : FileSystem) :
    runEach faults webDir names files = inTurn (extractDocument (m := FaultyDisk faults) webDir) names files := by
  induction names generalizing files with
  | nil => rfl
  | cons fileName rest ih => rw [runEach_cons, inTurn, ← ih]

theorem runEach_isolated (prepared : Prepared webDir site now) (first : Prepared webDir site start)
    (plain : ∀ fileName ∈ names, ∀ location ∈ slotsOf site fileName, start.NoLinkAt location)
    (agree : ∀ fileName ∈ names, Agree (slotsOf site fileName) now start)
    (apart : names.Pairwise fun one other => (slotsOf site one).Disjoint (slotsOf site other)) :
    Isolated faults webDir site start now names (runEach faults webDir names now) := by
  have undisturbed := inTurn_undisturbed (fun fileName _ => local_extractDocument faults webDir site fileName)
    first prepared plain agree apart
  rw [runEach_eq_inTurn]
  exact ⟨undisturbed.results, undisturbed.slots, undisturbed.others⟩

theorem attempt_runExtraction {ready listed : FileSystem} {silent : Bool}
    (made : faults.attempt (ensureAssetDirectories webDir) start = (.ok (), ready))
    (shown : faults.attempt (listDocuments webDir) ready = (.ok names, listed)) :
    faults.attempt (runExtraction webDir silent) start =
      (.ok (summarize (runEach faults webDir names listed).1,
        .hushed silent (narrateExtractions webDir (runEach faults webDir names listed).1)),
        (runEach faults webDir names listed).2) := by
  simp only [runExtraction, Faults.attempt_bind, made, shown]
  rfl

theorem makeAssetDirectories_ok {kinds : List AssetKind} {ready : FileSystem}
    (made : faults.attempt (makeAssetDirectories webDir kinds) start = (.ok (), ready)) :
    ready.working = start.working ∧ KeepsWays start ready ∧
      ∀ kind ∈ kinds, ∃ place, ready.LeadsTo (kind.directory webDir) place := by
  induction kinds generalizing start with
  | nil =>
    cases made
    exact ⟨rfl, .refl _, nofun⟩
  | cons kind rest ih =>
    rw [makeAssetDirectories, Faults.attempt_bind] at made
    rcases done : faults.makeDirectories start (kind.directory webDir) with ⟨cause | value, between⟩
    · rw [attempt_makeDirectories done] at made
      cases made
    · rw [attempt_makeDirectories done] at made
      obtain ⟨working, ways, place, led⟩ := Faults.makeDirectories_ok (FilePath.isEmpty_join kind.isName_extension) done
      obtain ⟨same, further, others⟩ := ih made
      refine ⟨same.trans working, ways.trans further, ?_⟩
      intro other member
      rcases List.mem_cons.mp member with rfl | later
      · exact ⟨place, led.keep further same⟩
      · exact others other later

/-- When the directories for the assets have been made, they are there. -/
theorem prepared_of_made {ready : FileSystem}
    (made : faults.attempt (ensureAssetDirectories webDir) start = (.ok (), ready)) (led : ready.LeadsTo webDir site)
    (plain : ∀ kind : AssetKind, ready.NoLinkAt (kind.directoryAt site)) : Prepared webDir site ready := by
  obtain ⟨-, -, there⟩ := makeAssetDirectories_ok faults webDir made
  refine ⟨led, ?_⟩
  intro kind
  obtain ⟨place, joined⟩ := there kind kind.mem_all
  exact led.isDirectoryAt_of_join kind.isName_extension (plain kind) joined

/-- Where the directories for the assets are there already, nothing is made. -/
theorem attempt_ensureAssetDirectories (prepared : Prepared webDir site start)
    (free : ∀ kind : AssetKind, (faults.making (kind.directory webDir)).or (webDir.joinFault? kind.extension) = none) :
    faults.attempt (ensureAssetDirectories webDir) start = (.ok (), start) := by
  have made (kind : AssetKind) : faults.makeDirectories start (kind.directory webDir) = (.ok (), start) := by
    have nothing := faults.makeDirectories_of_directory prepared.led kind.isName_extension (prepared.directory kind)
    rw [← AssetKind.directory, free kind] at nothing
    exact nothing
  simp only [ensureAssetDirectories, AssetKind.all, makeAssetDirectories, Faults.attempt_bind,
    attempt_makeDirectories (made _), Except.mapError]
  rfl

theorem succeeded_add_failures (outcomes : List (Outcome ExtractionReport)) :
    (summarize outcomes).succeeded + (summarize outcomes).failures.length = (summarize outcomes).total := by
  simp only [summarize, List.length_filterMap_eq_countP]
  rw [List.length_eq_countP_add_countP fun outcome : Outcome ExtractionReport => outcome.failed?.isNone]
  congr 2
  funext outcome
  cases outcome.failed? <;> rfl

/-- A batch is isolated page by page. The listing names every page of the directory once, in the
order of the bytes; each page comes to what it comes to alone, whatever becomes of the others and in
whatever order they are taken, and nothing else is changed. -/
theorem runExtraction_isolated {ready listed : FileSystem} {silent : Bool}
    (made : faults.attempt (ensureAssetDirectories webDir) start = (.ok (), ready))
    (shown : faults.attempt (listDocuments webDir) ready = (.ok names, listed))
    (plain : ∀ site, ready.LeadsTo webDir site → ∀ name, ready.NoLinkAt (site ++ [name]) ∧
      ∀ kind : AssetKind, ready.NoLinkAt (kind.directoryAt site ++ [name])) :
    ∃ site, ready.LeadsTo webDir site ∧ Lists ready site names ∧
      ∃ outcomes narration after,
        faults.attempt (runExtraction webDir silent) start = (.ok (summarize outcomes, narration), after) ∧
        (summarize outcomes).total = names.length ∧
        (summarize outcomes).succeeded + (summarize outcomes).failures.length = names.length ∧
        (summarize outcomes).failures = names.filterMap (fun fileName =>
          (⟨fileName, (alone faults webDir ready fileName).1⟩ : Outcome ExtractionReport).failed?) ∧
        Isolated faults webDir site ready ready names (outcomes, after) ∧
        ∀ order, order.Perm names →
          Isolated faults webDir site ready ready order (runEach faults webDir order ready) ∧
            ∀ location, (runEach faults webDir order ready).2.get? location = after.get? location := by
  obtain ⟨rfl, site, led, lists⟩ := listDocuments_ok shown
  have prepared := prepared_of_made faults webDir made led fun kind => (plain site led (.text kind.extension)).1
  have unlinked (fileName : String) : ∀ location ∈ slotsOf site fileName, listed.NoLinkAt location := by
    intro location inside
    rcases List.mem_cons.mp inside with rfl | asset
    · exact (plain site led (.text fileName)).1
    · obtain ⟨kind, -, rfl⟩ := List.mem_map.mp asset
      exact (plain site led _).2 kind
  have isolated (order : List String) (same : order.Perm names) :
      Isolated faults webDir site listed listed order (runEach faults webDir order listed) := by
    refine runEach_isolated faults webDir prepared prepared (fun fileName _ => unlinked fileName)
      (fun _ _ => ⟨rfl, fun _ _ => rfl⟩) ?_
    have distinct : order.Nodup := same.nodup_iff.mpr (lists.sorted.imp fun before same => by
      subst same
      exact List.lt_irrefl _ before)
    refine List.Pairwise.imp_of_mem ?_ distinct
    intro first second member other apart
    exact disjoint_slotsOf ((lists.mem first).mp (same.subset member)).1 ((lists.mem second).mp (same.subset other)).1
      apart
  have whole := isolated names (.refl names)
  have count : (summarize (runEach faults webDir names listed).1).total = names.length := by
    rw [summarize, whole.results, List.length_map]
  refine ⟨site, led, lists, _, _, _, attempt_runExtraction faults webDir made shown, count,
    (succeeded_add_failures _).trans count, ?_, whole, ?_⟩
  · rw [summarize, whole.results, List.filterMap_map]
    rfl
  · intro order same
    refine ⟨isolated order same, ?_⟩
    intro location
    by_cases inside : ∃ fileName ∈ names, location ∈ slotsOf site fileName
    · obtain ⟨fileName, member, own⟩ := inside
      rw [whole.slots fileName member location own,
        (isolated order same).slots fileName (same.symm.subset member) location own]
    · have outside : ∀ fileName ∈ names, location ∉ slotsOf site fileName :=
        fun fileName member own => inside ⟨fileName, member, own⟩
      rw [whole.others location outside,
        (isolated order same).others location fun fileName member => outside fileName (same.subset member)]

end Batch

/-- A page to take a style from, and one that is no text. -/
def twoPages : FileSystem where
  working := []
  entries := [([.text "q.html"], .file ⟨#[0xff]⟩ 0o644), ([.text "p.html"], .file "<style>a</style>".toUTF8 0o644),
    ([.text "css"], .directory 0o755), ([.text "js"], .directory 0o755)]
  distinct := by decide

theorem made_twoPages : Faults.none.attempt (ensureAssetDirectories .current) twoPages = (.ok (), twoPages) := by
  have prepared : Prepared .current [] twoPages := ⟨.current rfl, fun kind => by cases kind <;> rfl⟩
  apply attempt_ensureAssetDirectories .none .current prepared
  intro kind
  cases kind <;> decide

theorem listed_twoPages : ∃ names, Faults.none.attempt (listDocuments .current) twoPages = (.ok names, twoPages) := by
  have led : twoPages.LeadsTo .current [] := .current rfl
  have shown : Faults.none.fileNames twoPages .current = .ok ["q.html", "p.html"] := by
    obtain ⟨mode, found⟩ := led.exists_find (by decide)
    rw [Faults.fileNames, FileSystem.fileNames, found]
    rfl
  have listed := attempt_listDocuments .none .current twoPages
  rw [shown] at listed
  exact ⟨_, listed⟩

theorem runExtraction_isolated_twoPages :
    ∃ names outcomes narration after, Lists twoPages [] names ∧
      Faults.none.attempt (runExtraction .current false) twoPages = (.ok (summarize outcomes, narration), after) ∧
      Isolated .none .current [] twoPages twoPages names (outcomes, after) := by
  obtain ⟨names, shown⟩ := listed_twoPages
  have plain (location : Location) : twoPages.NoLinkAt location := noLinkAt_of_entries (by decide) location
  obtain ⟨site, led, lists, outcomes, narration, after, done, -, -, -, isolated, -⟩ :=
    runExtraction_isolated Faults.none .current made_twoPages shown fun _ _ _ => ⟨plain _, fun _ => plain _⟩
  obtain rfl : site = [] := led.unique (.current rfl)
  exact ⟨names, outcomes, narration, after, lists, done, isolated⟩

end PageAssets.Batch
