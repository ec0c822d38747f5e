import PageAssets.Proofs.Batch.Attempts
import PageAssets.Proofs.Page.Difference

/-! What taking the assets out of a page does to the files. The assets are stored first, one after
the other, and the page comes last, so a failure on the way loses nothing. -/

namespace PageAssets.Batch
open Files FileSystem Page Markup

/-- What stands where an asset belongs once it is stored: the whole content, under the permissions
that were there. What a page does not have leaves its place alone. -/
def storedEntry (before : FileSystem) (location : Location) : Option (List Char) → Option Entry
  | none => before.get? location
  | some text => some (.file (String.ofList text).toUTF8 (before.modeAt location))

/-- Some of the assets of a page are stored; the page and everything else is as before, but for
directories that were missing. -/
structure Stored (extraction : Extraction) (site : Location) (fileName : String) (done : List AssetKind)
    (before after : FileSystem) : Prop where
  working : after.working = before.working
  ways : KeepsWays before after
  page : after.get? (pageAt site fileName) = before.get? (pageAt site fileName)
  asset : ∀ kind : AssetKind, after.get? (kind.assetAt site (baseName fileName)) =
    if kind ∈ done then storedEntry before (kind.assetAt site (baseName fileName)) (extraction.content? kind)
    else before.get? (kind.assetAt site (baseName fileName))
  others : ∀ location, (∀ kind : AssetKind, location ≠ kind.assetAt site (baseName fileName)) →
    after.get? location = before.get? location ∨
      ∃ kind : AssetKind, location = kind.directoryAt site ∧ (extraction.content? kind).isSome = true ∧
        before.get? location = none ∧ after.get? location = some (.directory directoryMode)

namespace Stored
variable {extraction : Extraction} {site : Location} {fileName : String} {done : List AssetKind}
  {before now after : FileSystem} {kind : AssetKind}

theorem refl : Stored extraction site fileName [] before before where
  working := rfl
  ways := .refl before
  page := rfl
  asset _ := by simp
  others _ _ := .inl rfl

theorem unlinked (stored : Stored extraction site fileName done before now) (plain : Unlinked before site fileName) :
    Unlinked now site fileName := by
  constructor
  · intro target
    rw [stored.page]
    exact plain.page target
  · intro kind target
    rcases stored.others _ fun other => AssetKind.assetAt_ne_directoryAt.symm with same | ⟨-, -, -, -, made⟩
    · rw [same]
      exact plain.directory kind target
    · rw [made]
      nofun
  · intro kind target
    rw [stored.asset kind]
    have old := plain.asset kind target
    split
    next =>
      cases extraction.content? kind with
      | none => exact old
      | some text => nofun
    next => exact old

/-- A page that is there is no directory, whatever its name is. -/
theorem provides (stored : Stored extraction site fileName done before now) {content : ByteArray} {mode : Nat}
    (page : before.get? (pageAt site fileName) = some (.file content mode))
    (wanted : (extraction.content? kind).isSome = true) (provides : Provides now after (kind.directoryAt site)) :
    Stored extraction site fileName done before after := by
  have apart : pageAt site fileName ≠ kind.directoryAt site := by
    intro same
    rw [← stored.page, same] at page
    cases provides.free _ page
  constructor
  · exact provides.working.trans stored.working
  · exact stored.ways.trans provides.keepsWays
  · rw [provides.others _ apart, stored.page]
  · intro other
    rw [provides.others _ AssetKind.assetAt_ne_directoryAt, stored.asset]
  · intro location away
    by_cases here : location = kind.directoryAt site
    · subst here
      rcases stored.others _ away with same | ⟨other, place, content, missing, made⟩
      · cases found : now.get? (kind.directoryAt site) with
        | none => exact .inr ⟨kind, rfl, wanted, same ▸ found, provides.made found⟩
        | some entry => exact .inl ((provides.kept found).trans (found.symm.trans same))
      · exact .inr ⟨other, place, content, missing, provides.kept made⟩
    · rw [provides.others _ here]
      exact stored.others location away

theorem rewrites (stored : Stored extraction site fileName done before now) (fresh : kind ∉ done) {text : List Char}
    (content : extraction.content? kind = some text)
    (rewrites : Rewrites now after (kind.assetAt site (baseName fileName)) (String.ofList text).toUTF8) :
    Stored extraction site fileName (done ++ [kind]) before after := by
  constructor
  · exact rewrites.working.trans stored.working
  · exact stored.ways.trans rewrites.keepsWays
  · rw [rewrites.others _ AssetKind.assetAt_ne_pageAt.symm, stored.page]
  · intro other
    by_cases same : other = kind
    · subst same
      have kept := stored.asset other
      rw [if_neg fresh] at kept
      rw [rewrites.written, if_pos List.mem_concat_self, content, storedEntry, modeAt, modeAt, kept]
    · have apart : other.assetAt site (baseName fileName) ≠ kind.assetAt site (baseName fileName) :=
        fun equal => same (AssetKind.assetAt_inj.mp equal).1
      rw [rewrites.others _ apart, stored.asset]
      simp [same]
  · intro location away
    rw [rewrites.others _ (away kind)]
    exact stored.others location away

theorem skip (stored : Stored extraction site fileName done before now) (fresh : kind ∉ done)
    (content : extraction.content? kind = none) : Stored extraction site fileName (done ++ [kind]) before now := by
  refine { stored with asset := ?_ }
  intro other
  rw [stored.asset]
  by_cases same : other = kind
  · subst same
    rw [if_neg fresh, if_pos List.mem_concat_self, content, storedEntry]
  · simp [same]

end Stored

def earlier : AssetKind → List AssetKind
  | .css => []
  | .js => [.css]

/-- The page that an extraction starts from, and where. -/
structure Start (webDir : FilePath) (fileName : String) (site : Location) (text : String) (mode : Nat)
    (before : FileSystem) : Prop where
  led : before.LeadsTo webDir site
  accepted : identityOfFile fileName = .ok (baseName fileName)
  page : before.get? (pageAt site fileName) = some (.file text.toUTF8 mode)

/-- How an extraction that fails leaves the files: what was stored before it failed is there in full,
and nothing of what should have come after. -/
inductive Abandoned (webDir : FilePath) (fileName : String) (before : FileSystem) : Failure → FileSystem → Prop where
  | refused {failure : Failure} (identity : identityOfFile fileName = .error failure) :
      Abandoned webDir fileName before failure before
  | reading (cause : Cause) : Abandoned webDir fileName before (readFailure (webDir.join fileName) cause) before
  | storing {site : Location} {text : String} {mode : Nat} {path : FilePath} {after : FileSystem} (kind : AssetKind)
      (cause : Cause) (start : Start webDir fileName site text mode before)
      (place : path = kind.directory webDir ∨ path = kind.path webDir (baseName fileName))
      (stored : Stored (extract text.toList (baseName fileName)) site fileName (earlier kind) before after) :
      Abandoned webDir fileName before (.unwritable path cause) after
  | rewriting {site : Location} {text : String} {mode : Nat} {after : FileSystem} (cause : Cause)
      (start : Start webDir fileName site text mode before)
      (stored : Stored (extract text.toList (baseName fileName)) site fileName AssetKind.all before after) :
      Abandoned webDir fileName before (.unwritable (webDir.join fileName) cause) after

def ExtractionReport.written (report : ExtractionReport) : AssetKind → Option FilePath
  | .css => report.cssWritten
  | .js => report.jsWritten

/-- What an extraction that succeeds has done, by its report. -/
structure Performed (webDir : FilePath) (fileName : String) (site : Location) (text : String) (mode : Nat)
    (before : FileSystem) (report : ExtractionReport) (after : FileSystem) : Prop where
  start : Start webDir fileName site text mode before
  identity : report.identity = baseName fileName
  written : ∀ kind : AssetKind, report.written kind =
    ((extract text.toList (baseName fileName)).content? kind).map fun _ => kind.path webDir (baseName fileName)
  changed : report.documentChanged = true ↔ ∃ kind, (report.written kind).isSome = true
  working : after.working = before.working
  page : after.get? (pageAt site fileName) =
    some (.file (String.ofList (extract text.toList (baseName fileName)).document).toUTF8 mode)
  asset : ∀ kind : AssetKind, after.get? (kind.assetAt site (baseName fileName)) =
    storedEntry before (kind.assetAt site (baseName fileName)) ((extract text.toList (baseName fileName)).content? kind)
  others : ∀ location, location ≠ pageAt site fileName →
    (∀ kind : AssetKind, location ≠ kind.assetAt site (baseName fileName)) →
    after.get? location = before.get? location ∨
      ∃ kind : AssetKind, location = kind.directoryAt site ∧ (report.written kind).isSome = true ∧
        before.get? location = none ∧ after.get? location = some (.directory directoryMode)

section Attempt
variable {faults : Faults} {webDir : FilePath} {fileName : String} {site : Location} {text : String} {mode : Nat}
  {before now after : FileSystem}

theorem exists_start {identity : String} (accepted : identityOfFile fileName = .ok identity)
    (unlinked : ∀ site, before.LeadsTo webDir site → before.NoLinkAt (pageAt site fileName))
    (found : faults.read before (webDir.join fileName) = .ok text) :
    ∃ site mode, Start webDir fileName site text mode before := by
  have named := isName_file accepted
  obtain ⟨site, led⟩ := Faults.exists_leadsTo_of_read named found
  obtain ⟨mode, page⟩ := led.get?_of_read named (unlinked site led) (Faults.read_ok found)
  obtain ⟨-, rfl⟩ := identityOfFile_eq_ok_iff.mp accepted
  exact ⟨site, mode, led, accepted, page⟩

/-- One asset after the other is stored, or the extraction ends there. -/
theorem attempt_store (faults : Faults) (kind : AssetKind) (start : Start webDir fileName site text mode before)
    (unlinked : Unlinked before site fileName)
    (stored : Stored (extract text.toList (baseName fileName)) site fileName (earlier kind) before now) :
    let content := (extract text.toList (baseName fileName)).content? kind
    let result := faults.attempt (writeExtracted webDir (baseName fileName) kind content) now
    (∃ path cause after, result = (.error (.unwritable path cause), after) ∧
      (path = kind.directory webDir ∨ path = kind.path webDir (baseName fileName)) ∧
      Stored (extract text.toList (baseName fileName)) site fileName (earlier kind) before after) ∨
    ∃ after, result = (.ok (content.map fun _ => kind.path webDir (baseName fileName)), after) ∧
      Stored (extract text.toList (baseName fileName)) site fileName (earlier kind ++ [kind]) before after := by
  intro content result
  have fresh : kind ∉ earlier kind := by cases kind <;> decide
  have valid := (identityOfFile_eq_ok_iff.mp start.accepted).1
  have plain := stored.unlinked unlinked
  have attempted : AssetAttempt webDir site kind (baseName fileName) now content result :=
    attempt_writeExtracted (start.led.keep stored.ways stored.working) valid (plain.directory kind) (plain.asset kind)
      fun _ => content?_visible
  cases held : content with
  | none =>
    rw [held] at attempted
    generalize result = outcome at attempted
    cases attempted
    exact .inr ⟨now, rfl, stored.skip fresh held⟩
  | some text =>
    rw [held] at attempted
    have wanted : content.isSome = true := by
      rw [held]
      rfl
    generalize result = outcome at attempted
    cases attempted with
    | directory cause => exact .inl ⟨_, cause, now, rfl, .inl rfl, stored⟩
    | file cause provides => exact .inl ⟨_, cause, _, rfl, .inr rfl, stored.provides start.page wanted provides⟩
    | written provides rewrites =>
      exact .inr ⟨_, rfl, (stored.provides start.page wanted provides).rewrites fresh held rewrites⟩

/-- The page is written last, and only if its text is another one. -/
theorem attempt_rewrite (faults : Faults) (start : Start webDir fileName site text mode before)
    (led : now.LeadsTo webDir site)
    (kept : now.get? (pageAt site fileName) = before.get? (pageAt site fileName)) (new : String) :
    let result := faults.attempt (writeRewritten (webDir.join fileName) text new) now
    (∃ cause, result = (.error (.unwritable (webDir.join fileName) cause), now)) ∨
    ∃ after, result = (.ok (!decide (new = text)), after) ∧ after.working = now.working ∧
      after.get? (pageAt site fileName) = some (.file new.toUTF8 mode) ∧
      ∀ other, other ≠ pageAt site fileName → after.get? other = now.get? other := by
  intro result
  have page := kept.trans start.page
  have plain : now.NoLinkAt (pageAt site fileName) := noLinkAt_of_get? page rfl
  by_cases same : new = text
  · subst same
    have unchanged : result = (.ok false, now) := by
      simp only [result, writeRewritten, ↓reduceIte]
      rfl
    refine .inr ⟨now, ?_, rfl, page, fun _ _ => rfl⟩
    rw [unchanged, decide_eq_true rfl, Bool.not_true]
  · have replaced := faults.replace_join led (isName_file start.accepted) plain new.toUTF8
    simp only [result, writeRewritten, same, ↓reduceIte, Faults.attempt_bind]
    split at replaced
    next cause _ =>
      rw [attempt_writeDocument replaced]
      exact .inl ⟨cause, rfl⟩
    next =>
      obtain ⟨after, finished, rewrites⟩ := replaced
      rw [attempt_writeDocument finished]
      refine .inr ⟨after, by simp [Except.mapError, Faults.attempt_pure], rewrites.working, ?_, rewrites.others⟩
      have written : after.get? (pageAt site fileName) = some (.file new.toUTF8 (now.modeAt (pageAt site fileName))) :=
        rewrites.written
      rw [written, modeAt_of_get? page]

/-- Once the assets are stored and the page is written, everything has been done that the report says. -/
theorem performed (start : Start webDir fileName site text mode before)
    (stored : Stored (extract text.toList (baseName fileName)) site fileName AssetKind.all before now)
    (working : after.working = now.working)
    (page : after.get? (pageAt site fileName) =
      some (.file (String.ofList (extract text.toList (baseName fileName)).document).toUTF8 mode))
    (others : ∀ other, other ≠ pageAt site fileName → after.get? other = now.get? other) :
    Performed webDir fileName site text mode before
      { identity := baseName fileName
        cssWritten := ((extract text.toList (baseName fileName)).content? .css).map fun _ =>
          AssetKind.css.path webDir (baseName fileName)
        jsWritten := ((extract text.toList (baseName fileName)).content? .js).map fun _ =>
          AssetKind.js.path webDir (baseName fileName)
        documentChanged := !decide (String.ofList (extract text.toList (baseName fileName)).document = text) }
      after := by
  have valid := (identityOfFile_eq_ok_iff.mp start.accepted).1
  refine ⟨start, rfl, ?_, ?_, working.trans stored.working, page, ?_, ?_⟩
  · intro kind
    cases kind <;> rfl
  · have same : String.ofList (extract text.toList (baseName fileName)).document = text ↔
        (extract text.toList (baseName fileName)).document = text.toList := by
      rw [← String.toList_inj, String.toList_ofList]
    rw [Bool.not_eq_true', decide_eq_false_iff_not]
    refine (not_congr same).trans ((document_ne_iff text.toList _).trans (exists_congr fun kind => ?_))
    cases kind <;> simp [ExtractionReport.written]
  · intro kind
    rw [others _ AssetKind.assetAt_ne_pageAt, stored.asset, if_pos kind.mem_all]
  · intro location elsewhere away
    rw [others location elsewhere]
    rcases stored.others location away with same | ⟨kind, place, content, missing, made⟩
    · exact .inl same
    · refine .inr ⟨kind, place, ?_, missing, made⟩
      cases kind <;> simpa [ExtractionReport.written] using content

theorem attempt_extractDocument (faults : Faults)
    (unlinked : ∀ site, before.LeadsTo webDir site → Unlinked before site fileName) :
    (∃ failure after, faults.attempt (extractDocument webDir fileName) before = (.error failure, after) ∧
        Abandoned webDir fileName before failure after) ∨
      ∃ site text mode report after, faults.attempt (extractDocument webDir fileName) before = (.ok report, after) ∧
        Performed webDir fileName site text mode before report after := by
  simp only [extractDocument, Faults.attempt_bind, Faults.attempt_mk]
  cases accepted : identityOfFile fileName with
  | error failure => exact .inl ⟨failure, before, rfl, .refused accepted⟩
  | ok identity =>
    obtain ⟨valid, rfl⟩ := identityOfFile_eq_ok_iff.mp accepted
    simp only [attempt_readDocument]
    cases read : faults.read before (webDir.join fileName) with
    | error cause => exact .inl ⟨_, before, rfl, .reading cause⟩
    | ok text =>
      obtain ⟨site, mode, start⟩ := exists_start accepted (fun site led => (unlinked site led).page) read
      have plain := unlinked site start.led
      rcases attempt_store faults .css start plain .refl with
        ⟨path, cause, after, failed, place, stored⟩ | ⟨styled, done, stored⟩
      · simp only [Extraction.content?] at failed
        simp only [Except.mapError, failed]
        exact .inl ⟨_, after, rfl, .storing .css cause start place stored⟩
      · simp only [Extraction.content?] at done
        simp only [Except.mapError, done]
        rcases attempt_store faults .js start plain stored with
          ⟨path, cause, after, failed, place, stored⟩ | ⟨scripted, done, stored⟩
        · simp only [Extraction.content?] at failed
          simp only [failed]
          exact .inl ⟨_, after, rfl, .storing .js cause start place stored⟩
        · simp only [Extraction.content?] at done
          simp only [done]
          rcases attempt_rewrite faults start (start.led.keep stored.ways stored.working) stored.page
              (String.ofList (extract text.toList (baseName fileName)).document) with
            ⟨cause, failed⟩ | ⟨after, done, working, page, others⟩
          · simp only [failed]
            exact .inl ⟨_, scripted, rfl, .rewriting cause start stored⟩
          · simp only [done, Faults.attempt_pure]
            exact .inr ⟨site, text, mode, _, after, rfl, performed start stored working page others⟩

/-- Stored assets and directories that were missing are all that tells the files from what they were. -/
theorem Stored.frame {extraction : Extraction} {done : List AssetKind}
    (stored : Stored extraction site fileName done before after) :
    after.get? (pageAt site fileName) = before.get? (pageAt site fileName) ∧
      ∀ location, (∀ kind : AssetKind, location ≠ kind.directoryAt site ∧
        location ≠ kind.assetAt site (baseName fileName)) → after.get? location = before.get? location := by
  refine ⟨stored.page, ?_⟩
  intro location away
  rcases stored.others location fun kind => (away kind).2 with same | ⟨kind, place, -⟩
  · exact same
  · exact absurd place (away kind).1

end Attempt

section OneSite

theorem unclosed_style : ¬ (['<', '/'] ++ BlockKind.style.tagName) <:+: ['a'].map Char.toLower := by
  decide

def stylePage : List Segment := [.block ⟨.style, [], ['a'], unclosed_style⟩]

def oneSite : FileSystem where
  working := []
  entries := [([.text "p.html"], .file (String.ofList (render stylePage)).toUTF8 0o600), ([.text "css"], .directory 0o755)]
  distinct := by decide

theorem start_oneSite : Start .current "p.html" [] (String.ofList (render stylePage)) 0o600 oneSite where
  led := .current rfl
  accepted := by decide
  page := rfl

theorem noLinkAt_oneSite (location : Location) : oneSite.NoLinkAt location :=
  noLinkAt_of_entries (by decide) location

theorem unlinked_oneSite (site : Location) : Unlinked oneSite site "p.html" :=
  ⟨noLinkAt_oneSite _, fun _ => noLinkAt_oneSite _, fun _ => noLinkAt_oneSite _⟩

theorem content?_stylePage :
    (extract (render stylePage) "p").css = some ['a'] ∧ (extract (render stylePage) "p").js = none := by
  rw [extract_css, extract_js, (decomposes_render stylePage).blocks_eq]
  decide

theorem writeExtracted_oneSite (faults : Faults) (making : faults.making (AssetKind.css.directory .current) = none)
    (staging : faults.staging (AssetKind.css.path .current "p") = none)
    (finishing : faults.finishing (AssetKind.css.path .current "p") = none) :
    ∃ now, faults.attempt (writeExtracted .current "p" .css (some ['a'])) oneSite =
      (.ok (some (AssetKind.css.path .current "p")), now) := by
  have valid : isIdentity "p" = true := rfl
  have visible : Text.isBlank ['a'] = false := rfl
  have there : oneSite.isDirectoryAt ([] ++ [.text AssetKind.css.extension]) = true := rfl
  have made : faults.makeDirectories oneSite (AssetKind.css.directory .current) = (.ok (), oneSite) := by
    have joined : FilePath.current.joinFault? AssetKind.css.extension = none := by decide
    rw [AssetKind.directory] at making ⊢
    rw [faults.makeDirectories_of_directory start_oneSite.led AssetKind.css.isName_extension there, making, joined]
    rfl
  have led : oneSite.LeadsTo (AssetKind.css.directory .current) _ :=
    start_oneSite.led.join AssetKind.css.isName_extension AssetKind.css.short_extension there
  have replaced := faults.replace_join led (AssetKind.css.isName_asset valid) (noLinkAt_oneSite _)
    (String.ofList ['a']).toUTF8
  have fine : faults.replaceFault? oneSite (AssetKind.css.directory .current)
      ("p" ++ "." ++ AssetKind.css.extension) none = none := by
    have room : oneSite.stagingFault? (AssetKind.css.path .current "p") = none := by decide
    have free : renameFault? (AssetKind.css.directory .current) ("p" ++ "." ++ AssetKind.css.extension) none =
        none := by
      decide
    rw [Faults.replaceFault?, ← AssetKind.path, staging, room, finishing, free]
    rfl
  have absent : oneSite.get? (AssetKind.css.assetAt [] "p") = none := rfl
  rw [← AssetKind.directoryAt, ← AssetKind.assetAt, absent, fine, ← AssetKind.path] at replaced
  obtain ⟨now, done, -⟩ := replaced
  refine ⟨now, ?_⟩
  simp only [writeExtracted, Faults.attempt_bind, attempt_writeAsset valid visible, made, done]
  rfl

theorem attempt_oneSite (faults : Faults) (reading : faults.reading (FilePath.current.join "p.html") = none)
    (making : faults.making (AssetKind.css.directory .current) = none)
    (staging : faults.staging (AssetKind.css.path .current "p") = none)
    (finishing : faults.finishing (AssetKind.css.path .current "p") = none) :
    ∃ now, Stored (extract (render stylePage) "p") [] "p.html" AssetKind.all oneSite now ∧
      faults.attempt (extractDocument .current "p.html") oneSite =
        faults.attempt (do
          let changed ← writeRewritten (FilePath.current.join "p.html") (String.ofList (render stylePage))
            (String.ofList (extract (render stylePage) "p").document)
          return ⟨"p", some (AssetKind.css.path .current "p"), none, changed⟩) now := by
  have accepted : identityOfFile "p.html" = .ok "p" := by decide
  have base : baseName "p.html" = "p" := by decide
  have read : faults.read oneSite (FilePath.current.join "p.html") = .ok (String.ofList (render stylePage)) := by
    have joined : FilePath.current.joinFault? "p.html" = none := by decide
    have entry := start_oneSite.page
    rw [pageAt] at entry
    rw [Faults.read, reading, start_oneSite.led.read_join (isName_file accepted) ((unlinked_oneSite []).page), joined]
    simp only [entry, Text.fromUTF8?_toUTF8]
  obtain ⟨css, js⟩ := content?_stylePage
  obtain ⟨now, styled⟩ := writeExtracted_oneSite faults making staging finishing
  have stored := attempt_store faults .css start_oneSite (unlinked_oneSite []) .refl
  simp only [String.toList_ofList, base, Extraction.content?, css, styled] at stored
  obtain ⟨_, _, _, impossible, -⟩ | ⟨_, same, stored⟩ := stored
  · cases impossible
  · cases same
    refine ⟨now, ?_, ?_⟩
    · exact stored.skip (by decide) js
    · have scripted : faults.attempt (writeExtracted .current "p" .js none) now = (.ok none, now) := rfl
      simp only [extractDocument, Faults.attempt_bind, Faults.attempt_mk, accepted, attempt_readDocument, read,
        Except.mapError, String.toList_ofList, css, js, styled, scripted]

theorem document_stylePage :
    String.ofList (extract (render stylePage) "p").document ≠ String.ofList (render stylePage) := by
  rw [Ne, String.ofList_inj]
  exact (document_ne_iff _ _).mpr ⟨.css, by rw [Extraction.content?, content?_stylePage.1]; rfl⟩

def diskIsFull : Cause := .stated "No space left on device (os error 28)"

/-- The page itself cannot be staged any more, its assets can. -/
def fullDisk : Faults :=
  { Faults.none with staging := fun path => if path = FilePath.current.join "p.html" then some diskIsFull else none }

end OneSite

section Results
variable {faults : Faults} {webDir : FilePath} {fileName : String} {before after : FileSystem}

/-- An extraction that fails loses nothing: the page is as it was, and what differs elsewhere are
the page's own assets and their directories. How much of them is there, the failure tells. -/
theorem extractDocument_error {failure : Failure}
    (unlinked : ∀ site, before.LeadsTo webDir site → Unlinked before site fileName)
    (failed : faults.attempt (extractDocument webDir fileName) before = (.error failure, after)) :
    Abandoned webDir fileName before failure after ∧
      ∀ site, before.LeadsTo webDir site →
        after.get? (pageAt site fileName) = before.get? (pageAt site fileName) ∧
          ∀ location, (∀ kind : AssetKind, location ≠ kind.directoryAt site ∧
            location ≠ kind.assetAt site (baseName fileName)) → after.get? location = before.get? location := by
  have abandoned : Abandoned webDir fileName before failure after := by
    rcases attempt_extractDocument faults unlinked with
      ⟨_, _, done, abandoned⟩ | ⟨_, _, _, _, _, done, -⟩ <;> rw [failed] at done <;> cases done
    exact abandoned
  refine ⟨abandoned, ?_⟩
  intro site led
  cases abandoned with
  | refused | reading => exact ⟨rfl, fun _ _ => rfl⟩
  | storing kind cause start place stored | rewriting cause start stored =>
    obtain rfl := start.led.unique led
    exact stored.frame

theorem extractDocument_error_fullDisk :
    ∃ after, fullDisk.attempt (extractDocument .current "p.html") oneSite =
        (.error (.unwritable (FilePath.current.join "p.html") diskIsFull), after) ∧
      Abandoned .current "p.html" oneSite (.unwritable (FilePath.current.join "p.html") diskIsFull) after ∧
      after.get? (pageAt [] "p.html") = oneSite.get? (pageAt [] "p.html") := by
  obtain ⟨now, -, attempted⟩ := attempt_oneSite fullDisk rfl rfl rfl rfl
  have refused : fullDisk.replace now (FilePath.current.join "p.html")
      (String.ofList (extract (render stylePage) "p").document).toUTF8 = (.error diskIsFull, now) := rfl
  simp only [Faults.attempt_bind, writeRewritten, document_stylePage, ↓reduceIte, attempt_writeDocument refused,
    Except.mapError] at attempted
  obtain ⟨abandoned, kept⟩ := extractDocument_error (fun site _ => unlinked_oneSite site) attempted
  exact ⟨now, attempted, abandoned, (kept [] start_oneSite.led).1⟩

/-- An extraction that succeeds does what its report says, and nothing else. -/
theorem extractDocument_ok {report : ExtractionReport}
    (unlinked : ∀ site, before.LeadsTo webDir site → Unlinked before site fileName)
    (succeeded : faults.attempt (extractDocument webDir fileName) before = (.ok report, after)) :
    ∃ site text mode, Performed webDir fileName site text mode before report after := by
  rcases attempt_extractDocument faults unlinked with
    ⟨_, _, done, -⟩ | ⟨site, text, mode, _, _, done, performed⟩ <;> rw [succeeded] at done <;> cases done
  exact ⟨site, text, mode, performed⟩

theorem extractDocument_ok_oneSite :
    ∃ report after, Faults.none.attempt (extractDocument .current "p.html") oneSite = (.ok report, after) ∧
      ∃ site text mode, Performed .current "p.html" site text mode oneSite report after := by
  obtain ⟨now, stored, attempted⟩ := attempt_oneSite .none rfl rfl rfl rfl
  have fine : Faults.none.replaceFault? now .current "p.html" (now.get? (pageAt [] "p.html")) = none := by
    have room : oneSite.stagingFault? (FilePath.current.join "p.html") = none := by decide
    have free : renameFault? .current "p.html"
        (some (.file (String.ofList (render stylePage)).toUTF8 0o600)) = none := rfl
    rw [Faults.replaceFault?, stagingFault?_congr stored.working, room, stored.page, start_oneSite.page, free]
    rfl
  have replaced := Faults.none.replace_join (start_oneSite.led.keep stored.ways stored.working)
    (isName_file start_oneSite.accepted) (stored.unlinked (unlinked_oneSite [])).page
    (String.ofList (extract (render stylePage) "p").document).toUTF8
  rw [← pageAt, fine] at replaced
  obtain ⟨after, done, -⟩ := replaced
  simp only [Faults.attempt_bind, writeRewritten, document_stylePage, ↓reduceIte, attempt_writeDocument done,
    Except.mapError, Faults.attempt_pure] at attempted
  exact ⟨_, _, attempted, extractDocument_ok (fun site _ => unlinked_oneSite site) attempted⟩

end Results
end PageAssets.Batch
