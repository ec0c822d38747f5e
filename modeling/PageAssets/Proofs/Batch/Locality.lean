import PageAssets.Proofs.Batch.Attempts

/-! Actions that keep to some locations. Where their directories are there, they read and write at
these locations only: what they do does not depend on anything else, and nothing else is changed. So
does extracting a page once the directories for its assets are there. -/

namespace PageAssets.Batch
open Files FileSystem Page

/-- The directory of the pages is there, and the directories for the assets are. -/
structure Prepared (webDir : FilePath) (site : Location) (files : FileSystem) : Prop where
  led : files.LeadsTo webDir site
  directory : ∀ kind : AssetKind, files.isDirectoryAt (kind.directoryAt site) = true

theorem Prepared.keep {webDir : FilePath} {site : Location} {before after : FileSystem}
    (prepared : Prepared webDir site before) (ways : KeepsWays before after)
    (working : after.working = before.working) :
    Prepared webDir site after where
  led := prepared.led.keep ways working
  directory kind := ways.isDirectoryAt (prepared.directory kind)

/-- What actions may rely on for good: it lasts as long as the directories and the links stay. -/
structure Footing where
  holds : FileSystem → Prop
  lasts : ∀ {before after : FileSystem}, holds before → KeepsWays before after → after.working = before.working →
    holds after

namespace Footing

def led (base : FilePath) (place : Location) : Footing := ⟨fun files => files.LeadsTo base place, LeadsTo.keep⟩

def prepared (webDir : FilePath) (site : Location) : Footing := ⟨Prepared webDir site, Prepared.keep⟩

end Footing

/-- Only some locations may differ, and where they do a file has been written over a file or nothing. -/
structure Touches (slots : List Location) (before after : FileSystem) : Prop where
  working : after.working = before.working
  entry : ∀ location, after.get? location = before.get? location ∨
    location ∈ slots ∧ (∀ entry, before.get? location = some entry → ∃ content mode, entry = .file content mode) ∧
      ∃ content mode, after.get? location = some (.file content mode)

namespace Touches
variable {slots : List Location} {before now after : FileSystem} {location : Location}

theorem refl (slots : List Location) (files : FileSystem) : Touches slots files files := ⟨rfl, fun _ => .inl rfl⟩

theorem trans (first : Touches slots before now) (second : Touches slots now after) : Touches slots before after := by
  refine ⟨second.working.trans first.working, ?_⟩
  intro location
  rcases second.entry location with same | ⟨inside, free, written⟩
  · rw [same]
    exact first.entry location
  · rcases first.entry location with same | ⟨-, free, -⟩
    · exact .inr ⟨inside, same ▸ free, written⟩
    · exact .inr ⟨inside, free, written⟩

theorem of_rewrites {content : ByteArray} (inside : location ∈ slots)
    (rewrites : Rewrites before after location content) : Touches slots before after := by
  refine ⟨rewrites.working, ?_⟩
  intro other
  by_cases same : other = location
  · subst same
    exact .inr ⟨inside, rewrites.replaced, _, _, rewrites.written⟩
  · exact .inl (rewrites.others other same)

theorem others (touches : Touches slots before after) (outside : location ∉ slots) :
    after.get? location = before.get? location :=
  (touches.entry location).resolve_right fun written => outside written.1

theorem ways (touches : Touches slots before after) : KeepsWays before after :=
  .of_files fun location => (touches.entry location).imp_right fun written => written.2.1

theorem noLinkAt (touches : Touches slots before after) (plain : before.NoLinkAt location) :
    after.NoLinkAt location := by
  intro target
  rcases touches.entry location with same | ⟨-, -, content, mode, written⟩
  · rw [same]
    exact plain target
  · rw [written]
    nofun

end Touches

/-- Two file systems cannot be told apart at some locations. -/
structure Agree (slots : List Location) (first second : FileSystem) : Prop where
  working : first.working = second.working
  entry : ∀ location ∈ slots, first.get? location = second.get? location

/-- The footing holds, and no link stands in for what is looked for at the locations. -/
structure Ready (footing : Footing) (slots : List Location) (files : FileSystem) : Prop where
  stands : footing.holds files
  plain : ∀ location ∈ slots, files.NoLinkAt location

theorem Ready.touch {footing : Footing} {slots : List Location} {before after : FileSystem}
    (ready : Ready footing slots before) (touches : Touches slots before after) : Ready footing slots after where
  stands := footing.lasts ready.stands touches.ways touches.working
  plain location inside := touches.noLinkAt (ready.plain location inside)

/-- An action that writes to some locations only, and that nothing else makes a difference to. -/
structure Local (faults : Faults) (footing : Footing) (slots : List Location) {α : Type}
    (action : ExceptT Failure (FaultyDisk faults) α) : Prop where
  touches : ∀ files, Ready footing slots files → Touches slots files (faults.attempt action files).2
  agrees : ∀ first second, Ready footing slots first → Ready footing slots second → Agree slots first second →
    (faults.attempt action first).1 = (faults.attempt action second).1 ∧
      Agree slots (faults.attempt action first).2 (faults.attempt action second).2

namespace Local
variable {faults : Faults} {footing : Footing} {slots : List Location} {α β : Type}

theorem of_result {action : ExceptT Failure (FaultyDisk faults) α} (result : Except Failure α)
    (same : ∀ files, Ready footing slots files → faults.attempt action files = (result, files)) :
    Local faults footing slots action := by
  constructor
  · intro files ready
    rw [same files ready]
    exact .refl slots files
  · intro first second before other agree
    rw [same first before, same second other]
    exact ⟨rfl, agree⟩

theorem pure (value : α) : Local faults footing slots (Pure.pure value) := of_result (.ok value) fun _ _ => rfl

/-- What comes after an action has to keep to the locations for the outcomes of that action only. -/
theorem bind {action : ExceptT Failure (FaultyDisk faults) α} {next : α → ExceptT Failure (FaultyDisk faults) β}
    (first : Local faults footing slots action)
    (second : ∀ value files after, faults.attempt action files = (.ok value, after) →
      Local faults footing slots (next value)) :
    Local faults footing slots (action >>= next) := by
  constructor
  · intro files ready
    have touched := first.touches files ready
    rw [Faults.attempt_bind]
    rcases done : faults.attempt action files with ⟨failure | value, after⟩ <;> rw [done] at touched
    · exact touched
    · exact touched.trans ((second value files after done).touches after (ready.touch touched))
  · intro one other before ready agree
    have touched := first.touches one before
    have along := first.touches other ready
    have same := first.agrees one other before ready agree
    rw [Faults.attempt_bind, Faults.attempt_bind]
    rcases done : faults.attempt action one with ⟨result, after⟩
    rcases again : faults.attempt action other with ⟨_, behind⟩
    rw [done] at touched same
    rw [again] at along same
    obtain ⟨rfl, agree⟩ := same
    cases result with
    | error failure => exact ⟨rfl, agree⟩
    | ok value =>
      exact (second value one after done).agrees after behind (before.touch touched) (ready.touch along) agree

end Local

section Actions
variable {faults : Faults} {footing : Footing} {slots : List Location} {base : FilePath} {place : Location}
  {name : String}

/-- Reading what has a name in a directory that is led to keeps to that name. -/
theorem local_readDocument (led : ∀ files, footing.holds files → files.LeadsTo base place) (named : IsName name)
    (inside : place ++ [.text name] ∈ slots) : Local faults footing slots (readDocument (base.join name)) := by
  constructor
  · intro files ready
    rw [attempt_readDocument]
    exact .refl slots files
  · intro first second before after agree
    have same : faults.read first (base.join name) = faults.read second (base.join name) := by
      rw [Faults.read, Faults.read, (led first before.stands).read_join named (before.plain _ inside),
        (led second after.stands).read_join named (after.plain _ inside), agree.entry _ inside]
    rw [attempt_readDocument, attempt_readDocument, same]
    exact ⟨rfl, agree⟩

/-- Writing to a name in a directory that is led to keeps to that name. -/
theorem local_writeDocument (led : ∀ files, footing.holds files → files.LeadsTo base place) (named : IsName name)
    (inside : place ++ [.text name] ∈ slots) (content : String) :
    Local faults footing slots (writeDocument (base.join name) content) := by
  constructor
  · intro files ready
    have replaced := faults.replace_join (led files ready.stands) named (ready.plain _ inside) content.toUTF8
    split at replaced
    next =>
      rw [attempt_writeDocument replaced]
      exact .refl slots files
    next =>
      obtain ⟨after, done, rewrites⟩ := replaced
      rw [attempt_writeDocument done]
      exact .of_rewrites inside rewrites
  · intro first second before after agree
    have entry := agree.entry _ inside
    have same : faults.replaceFault? second base name (second.get? (place ++ [.text name])) =
        faults.replaceFault? first base name (first.get? (place ++ [.text name])) := by
      rw [Faults.replaceFault?, Faults.replaceFault?, stagingFault?_congr agree.working, entry]
    have replaced := faults.replace_join (led first before.stands) named (before.plain _ inside) content.toUTF8
    have again := faults.replace_join (led second after.stands) named (after.plain _ inside) content.toUTF8
    rw [same] at again
    cases fault : faults.replaceFault? first base name (first.get? (place ++ [.text name])) with
    | some cause =>
      rw [fault] at replaced again
      rw [attempt_writeDocument replaced, attempt_writeDocument again]
      exact ⟨rfl, agree⟩
    | none =>
      rw [fault] at replaced again
      obtain ⟨one, done, rewrites⟩ := replaced
      obtain ⟨other, finished, writes⟩ := again
      rw [attempt_writeDocument done, attempt_writeDocument finished]
      refine ⟨rfl, ?_, ?_⟩
      · exact rewrites.working.trans (agree.working.trans writes.working.symm)
      · intro location member
        by_cases here : location = place ++ [.text name]
        · rw [here, rewrites.written, writes.written, modeAt, modeAt, entry]
        · rw [rewrites.others _ here, writes.others _ here, agree.entry _ member]

end Actions

section Extraction
variable {faults : Faults} {webDir : FilePath} {site : Location} {slots : List Location} {identity : String}

/-- Nothing is made where the directories are there already. -/
theorem local_makeDirectories (kind : AssetKind) :
    Local faults (.prepared webDir site) slots
      (failingWith (.unwritable (kind.directory webDir)) (FileAccess.makeDirectories (kind.directory webDir))) := by
  have made (files : FileSystem) (ready : Ready (.prepared webDir site) slots files) :=
    faults.makeDirectories_of_directory ready.stands.led kind.isName_extension (ready.stands.directory kind)
  cases fault : (faults.making (kind.directory webDir)).or (webDir.joinFault? kind.extension) with
  | some cause =>
    refine .of_result (.error (.unwritable (kind.directory webDir) cause)) fun files ready => ?_
    have failed := made files ready
    rw [← AssetKind.directory, fault] at failed
    exact attempt_makeDirectories failed
  | none =>
    refine .of_result (.ok ()) fun files ready => ?_
    have done := made files ready
    rw [← AssetKind.directory, fault] at done
    exact attempt_makeDirectories done

theorem local_writeExtracted (valid : isIdentity identity = true) (kind : AssetKind)
    (inside : kind.assetAt site identity ∈ slots) (content : Option (List Char)) :
    Local faults (.prepared webDir site) slots (writeExtracted webDir identity kind content) := by
  cases content with
  | none => exact .pure none
  | some text =>
    refine .bind ?_ fun _ _ _ _ => .pure _
    by_cases blank : Text.isBlank text = true
    · refine .of_result (.ok false) fun files _ => ?_
      rw [writeAsset, String.toList_ofList, if_pos blank]
      rfl
    · rw [writeAsset_of_visible valid (Bool.eq_false_iff.mpr blank)]
      refine .bind (local_makeDirectories kind) fun _ _ _ _ => .bind ?_ fun _ _ _ _ => .pure true
      refine local_writeDocument (fun files prepared => ?_) (kind.isName_asset valid) inside _
      exact prepared.led.join kind.isName_extension kind.short_extension (prepared.directory kind)

def slotsOf (site : Location) (fileName : String) : List Location :=
  pageAt site fileName :: AssetKind.all.map fun kind => kind.assetAt site (baseName fileName)

theorem assetAt_mem_slotsOf (site : Location) (fileName : String) (kind : AssetKind) :
    kind.assetAt site (baseName fileName) ∈ slotsOf site fileName :=
  List.mem_cons_of_mem _ (List.mem_map_of_mem kind.mem_all)

theorem local_extractDocument (faults : Faults) (webDir : FilePath) (site : Location) (fileName : String) :
    Local faults (.prepared webDir site) (slotsOf site fileName) (extractDocument webDir fileName) := by
  refine .bind (.of_result (identityOfFile fileName) fun _ _ => rfl) ?_
  intro identity _ _ accepted
  have accepted : identityOfFile fileName = .ok identity := congrArg Prod.fst accepted
  have stores (kind : AssetKind) (content : Option (List Char)) :
      Local faults (.prepared webDir site) (slotsOf site fileName) (writeExtracted webDir identity kind content) := by
    obtain ⟨valid, rfl⟩ := identityOfFile_eq_ok_iff.mp accepted
    exact local_writeExtracted valid kind (assetAt_mem_slotsOf site fileName kind) content
  have led (files : FileSystem) (prepared : Prepared webDir site files) := prepared.led
  refine .bind (local_readDocument led (isName_file accepted) List.mem_cons_self) fun content _ _ _ => ?_
  refine .bind (stores .css _) fun css _ _ _ => .bind (stores .js _) fun js _ _ _ => ?_
  refine .bind ?_ fun changed _ _ _ => .pure _
  rw [writeRewritten]
  split
  next => exact .pure false
  next =>
    refine .bind ?_ fun _ _ _ _ => .pure true
    exact local_writeDocument led (isName_file accepted) List.mem_cons_self _

end Extraction
end PageAssets.Batch
