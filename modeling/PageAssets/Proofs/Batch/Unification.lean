import PageAssets.Batch.Unification
import PageAssets.Proofs.Batch.Turns
import PageAssets.Proofs.Page.Restyling

/-! Giving pages their style. A page is restyled as a whole or the files stay as they are, and each page
of a batch fares as it does alone. -/

namespace PageAssets.Batch
open Files FileSystem Page Markup

/-- A page has got a style: it holds the new one where its first style block was, under the permissions
that it had, and everything else is as before. -/
structure Restyled (webDir : FilePath) (identity style : String) (site : Location) (front : List Char) (first : Block)
    (behind : List Char) (mode : Nat) (before after : FileSystem) : Prop where
  valid : isIdentity identity = true
  led : before.LeadsTo webDir site
  page : before.get? (pageAt site (fileOfIdentity identity)) =
    some (.file (String.ofList (front ++ first.outer ++ behind)).toUTF8 mode)
  isFirst : (placedBlocks (front ++ first.outer ++ behind)).find? (fun placed => isStyle placed.block) =
    some ⟨Text.byteSize front, first⟩
  restyled : after.get? (pageAt site (fileOfIdentity identity)) =
    some (.file (String.ofList front ++ ("<style>\n" ++ style ++ "\n    </style>") ++ String.ofList behind).toUTF8 mode)
  working : after.working = before.working
  others : ∀ location, location ≠ pageAt site (fileOfIdentity identity) → after.get? location = before.get? location

/-- How giving a page its style can end. -/
inductive UnifyAttempt (faults : Faults) (webDir : FilePath) (identity style : String) (before : FileSystem) :
    Except Failure FilePath × FileSystem → Prop where
  | refused (invalid : isIdentity identity = false) :
      UnifyAttempt faults webDir identity style before (.error (.invalidIdentity identity), before)
  | reading {cause : Cause} (failed : faults.read before (webDir.join (fileOfIdentity identity)) = .error cause) :
      UnifyAttempt faults webDir identity style before
        (.error (readFailure (webDir.join (fileOfIdentity identity)) cause), before)
  | blockless {text : String} (read : faults.read before (webDir.join (fileOfIdentity identity)) = .ok text)
      (styleless : restyle? text.toList style.toList = none) :
      UnifyAttempt faults webDir identity style before
        (.error (.missingBlock (webDir.join (fileOfIdentity identity)) .style), before)
  | writing (cause : Cause) :
      UnifyAttempt faults webDir identity style before
        (.error (.unwritable (webDir.join (fileOfIdentity identity)) cause), before)
  | restyled {site : Location} {front behind : List Char} {first : Block} {mode : Nat} {after : FileSystem}
      (done : Restyled webDir identity style site front first behind mode before after) :
      UnifyAttempt faults webDir identity style before (.ok (webDir.join (fileOfIdentity identity)), after)

theorem ofList_styleBlock (style : String) :
    String.ofList (styleBlock style.toList) = "<style>\n" ++ style ++ "\n    </style>" := by
  rw [← String.toList_inj]
  simp [styleBlock]

theorem isName_fileOfIdentity {identity : String} (valid : isIdentity identity = true) :
    IsName (fileOfIdentity identity) :=
  isName_append valid (by decide)

section Attempt
variable (faults : Faults) {webDir : FilePath} (bundle : Style.Bundle) {identity : String} {before : FileSystem}

theorem Restyled.of_rewrites {site : Location} {text style : String} {restyled : List Char} {mode : Nat}
    {after : FileSystem} (valid : isIdentity identity = true) (led : before.LeadsTo webDir site)
    (page : before.get? (pageAt site (fileOfIdentity identity)) = some (.file text.toUTF8 mode))
    (made : restyle? text.toList style.toList = some restyled)
    (rewrites : Rewrites before after (pageAt site (fileOfIdentity identity)) (String.ofList restyled).toUTF8) :
    ∃ front first behind, Restyled webDir identity style site front first behind mode before after := by
  obtain ⟨front, first, behind, here, rfl⟩ := restyle?_eq_some_iff.mp made
  refine ⟨front, first, behind, valid, led, ?_, ?_, ?_, rewrites.working, rewrites.others⟩
  · rw [← here.text, String.ofList_toList]
    exact page
  · rw [← here.text]
    exact here.found
  · rw [rewrites.written, modeAt_of_get? page, String.ofList_append, String.ofList_append, ofList_styleBlock]

/-- A page is written in one go, after everything that it takes has been found. -/
theorem attempt_unifyDocument
    (unlinked : ∀ site, before.LeadsTo webDir site → before.NoLinkAt (pageAt site (fileOfIdentity identity))) :
    UnifyAttempt faults webDir identity (bundle.compose identity) before
      (faults.attempt (unifyDocument webDir bundle identity) before) := by
  simp only [unifyDocument, Faults.attempt_bind, Faults.attempt_mk, checkIdentity, attempt_readDocument]
  by_cases valid : isIdentity identity = true
  case neg =>
    rw [if_neg valid]
    exact .refused (Bool.eq_false_iff.mpr valid)
  simp only [if_pos valid]
  cases read : faults.read before (webDir.join (fileOfIdentity identity)) with
  | error cause => exact .reading read
  | ok text =>
    simp only [Except.mapError]
    cases made : restyle? text.toList (bundle.compose identity).toList with
    | none => exact .blockless read made
    | some restyled =>
      have named := isName_fileOfIdentity valid
      obtain ⟨site, led⟩ := Faults.exists_leadsTo_of_read named read
      obtain ⟨mode, page⟩ := led.get?_of_read named (unlinked site led) (Faults.read_ok read)
      have replaced := faults.replace_join led named (unlinked site led) (String.ofList restyled).toUTF8
      simp only [Faults.attempt_bind]
      split at replaced
      next cause _ =>
        rw [attempt_writeDocument replaced]
        exact .writing cause
      next =>
        obtain ⟨after, done, rewrites⟩ := replaced
        rw [attempt_writeDocument done]
        obtain ⟨front, first, behind, restyled⟩ := Restyled.of_rewrites valid led page made rewrites
        exact .restyled restyled

theorem UnifyAttempt.whole_or_nothing {style : String} {outcome : Except Failure FilePath × FileSystem}
    (attempted : UnifyAttempt faults webDir identity style before outcome) :
    (∃ failure, outcome = (.error failure, before)) ∨
      ∃ site front first behind mode after, outcome = (.ok (webDir.join (fileOfIdentity identity)), after) ∧
        Restyled webDir identity style site front first behind mode before after := by
  cases attempted with
  | refused | reading | blockless | writing => exact .inl ⟨_, rfl⟩
  | restyled done => exact .inr ⟨_, _, _, _, _, _, rfl, done⟩

theorem local_unifyDocument (site : Location) :
    Local faults (.led webDir site) [pageAt site (fileOfIdentity identity)] (unifyDocument webDir bundle identity) := by
  have led (files : FileSystem) (stands : (Footing.led webDir site).holds files) : files.LeadsTo webDir site := stands
  refine .bind (.of_result (checkIdentity identity) fun _ _ => rfl) ?_
  intro _ _ _ accepted
  have valid : isIdentity identity = true := by
    by_contra invalid
    rw [Faults.attempt_mk, checkIdentity, if_neg invalid] at accepted
    cases accepted
  have named := isName_fileOfIdentity valid
  refine .bind (local_readDocument led named (List.mem_singleton.mpr rfl)) fun content _ _ _ => ?_
  cases restyle? content.toList (bundle.compose identity).toList with
  | none => exact .of_result (.error (.missingBlock (webDir.join (fileOfIdentity identity)) .style)) fun _ _ => rfl
  | some restyled =>
    refine .bind ?_ fun _ _ _ _ => .pure _
    exact local_writeDocument led named (List.mem_singleton.mpr rfl) _

end Attempt

/-- What can go wrong with a page that may be one. -/
theorem unifyDocument_not_invalid {faults : Faults} {webDir : FilePath} {bundle : Style.Bundle} {identity : String}
    (valid : isIdentity identity = true) (files : FileSystem) (other : String) :
    (faults.attempt (unifyDocument webDir bundle identity) files).1 ≠ .error (.invalidIdentity other) := by
  intro same
  simp only [unifyDocument, Faults.attempt_bind, Faults.attempt_mk, checkIdentity, if_pos valid,
    attempt_readDocument] at same
  cases read : faults.read files (webDir.join (fileOfIdentity identity)) with
  | error cause =>
    rw [read] at same
    cases cause <;> cases same
  | ok text =>
    rw [read] at same
    simp only [Except.mapError] at same
    cases made : restyle? text.toList (bundle.compose identity).toList with
    | none =>
      rw [made] at same
      cases same
    | some restyled =>
      rw [made] at same
      simp only [Faults.attempt_bind] at same
      rcases done : faults.replace files (webDir.join (fileOfIdentity identity)) (String.ofList restyled).toUTF8 with
        ⟨cause | value, after⟩
      · rw [attempt_writeDocument done] at same
        cases same
      · rw [attempt_writeDocument done] at same
        cases same

section Batch
variable (faults : Faults) (webDir : FilePath) (bundle : Style.Bundle)

def unifyAlone (start : FileSystem) (identity : String) : Except Failure FilePath × FileSystem :=
  faults.attempt (unifyDocument webDir bundle identity) start

def unifyEach (targets : List String) (files : FileSystem) : List (Outcome FilePath) × FileSystem :=
  (runUnification webDir bundle targets : FaultyDisk faults _) files

theorem unifyEach_eq_inTurn (targets : List String) (files : FileSystem) :
    unifyEach faults webDir bundle targets files =
      inTurn (unifyDocument (m := FaultyDisk faults) webDir bundle) targets files := by
  induction targets generalizing files with
  | nil => rfl
  | cons identity rest ih =>
    rw [inTurn, ← ih]
    rfl

theorem pageAt_inj {site : Location} {first second : String}
    (same : pageAt site (fileOfIdentity first) = pageAt site (fileOfIdentity second)) : first = second := by
  simpa [pageAt, fileOfIdentity] using same

variable {start : FileSystem} {targets : List String}

theorem unifyEach_eachAlone (distinct : targets.Nodup)
    (plain : ∀ site, start.LeadsTo webDir site →
      ∀ identity ∈ targets, start.NoLinkAt (pageAt site (fileOfIdentity identity))) :
    EachAlone (unifyDocument (m := FaultyDisk faults) webDir bundle) start targets
      (unifyEach faults webDir bundle targets start) := by
  rw [unifyEach_eq_inTurn]
  by_cases there : ∃ site, start.LeadsTo webDir site
  · obtain ⟨site, led⟩ := there
    apply inTurn_eachAlone (fun identity _ => local_unifyDocument faults bundle site) led
    · intro identity member location inside
      rw [List.mem_singleton.mp inside]
      exact plain site led identity member
    · apply distinct.imp
      intro first second apart
      rw [List.singleton_disjoint, List.mem_singleton]
      exact fun same => apart (pageAt_inj same)
  · apply EachAlone.of_still
    intro identity _
    have attempted : UnifyAttempt faults webDir identity (bundle.compose identity) start _ :=
      attempt_unifyDocument faults bundle fun site led => absurd ⟨site, led⟩ there
    rcases attempted.whole_or_nothing with ⟨failure, unchanged⟩ | ⟨site, _, _, _, _, _, _, done⟩
    · rw [unchanged]
    · exact absurd ⟨site, done.led⟩ there

/-- A page gets its style as a whole, or nothing is changed. In a batch, each page comes to what it
comes to alone; so in another order the same is left and the same pages fail, as they are tried. -/
theorem runUnification_atomic
    (plain : ∀ site, start.LeadsTo webDir site →
      ∀ identity ∈ targets, start.NoLinkAt (pageAt site (fileOfIdentity identity))) :
    (∀ identity ∈ targets,
      (∃ failure, unifyAlone faults webDir bundle start identity = (.error failure, start)) ∨
        ∃ site front first behind mode after,
          unifyAlone faults webDir bundle start identity = (.ok (webDir.join (fileOfIdentity identity)), after) ∧
            Restyled webDir identity (bundle.compose identity) site front first behind mode start after) ∧
      (targets.Nodup → ∀ order, order.Perm targets →
        let whole := unifyEach faults webDir bundle targets start
        let outcome := unifyEach faults webDir bundle order start
        EachAlone (unifyDocument (m := FaultyDisk faults) webDir bundle) start order outcome ∧
          outcome.2.working = whole.2.working ∧ (∀ location, outcome.2.get? location = whole.2.get? location) ∧
          (summarize outcome.1).total = (summarize whole.1).total ∧
          (summarize outcome.1).succeeded = (summarize whole.1).succeeded ∧
          (summarize outcome.1).failures = order.filterMap fun identity =>
            (⟨identity, (unifyAlone faults webDir bundle start identity).1⟩ : Outcome FilePath).failed?) := by
  constructor
  · intro identity member
    exact (attempt_unifyDocument faults bundle fun site led => plain site led identity member).whole_or_nothing
  · intro distinct order same whole outcome
    have first := unifyEach_eachAlone faults webDir bundle distinct plain
    have again := unifyEach_eachAlone faults webDir bundle (same.nodup_iff.mpr distinct)
      fun site led identity member => plain site led identity (same.subset member)
    have outcomes := first.results_perm again same
    refine ⟨again, again.working.trans first.working.symm, first.get?_perm again same, ?_, ?_, again.failures_eq⟩
    · exact outcomes.length_eq
    · exact outcomes.countP_eq _

end Batch

def styledPage : List Char := oldStyle.render ++ lastStyle.render

def styledSite : FileSystem where
  working := []
  entries := [([.text "p.html"], .file (String.ofList styledPage).toUTF8 0o600)]
  distinct := by decide

theorem restyle?_styledPage (style : List Char) :
    restyle? styledPage style = some (styleBlock style ++ lastStyle.render) := by
  have whole : Decomposes styledPage ([] ++ .block oldStyle.asRead :: [.block lastStyle.asRead]) :=
    .cons (oldStyle.reads _) (.cons (List.append_nil lastStyle.render ▸ lastStyle.reads []) .nil)
  have restyled := restyle?_eq_some whole rfl nofun style
  rw [restyled]
  simp [Piece.text, lastStyle.outer_asRead]

theorem unifyAlone_styledSite (bundle : Style.Bundle) :
    unifyAlone .none .current bundle styledSite "gone" =
        (.error (.missingDocument (FilePath.current.join (fileOfIdentity "gone"))), styledSite) ∧
      ∃ after, unifyAlone .none .current bundle styledSite "p" =
        (.ok (FilePath.current.join (fileOfIdentity "p")), after) := by
  have led : styledSite.LeadsTo .current [] := .current rfl
  have plain (location : Location) : styledSite.NoLinkAt location := noLinkAt_of_entries (by decide) location
  have gone : isIdentity "gone" = true := by decide
  have there : isIdentity "p" = true := by decide
  have missing : Faults.none.read styledSite (FilePath.current.join (fileOfIdentity "gone")) = .error .notFound := by
    rw [Faults.read, Faults.none, led.read_join (isName_fileOfIdentity gone) (plain _)]
    decide
  have read : Faults.none.read styledSite (FilePath.current.join (fileOfIdentity "p")) =
      .ok (String.ofList styledPage) := by
    have joined : FilePath.current.joinFault? (fileOfIdentity "p") = none := by decide
    have page : styledSite.get? ([] ++ [.text (fileOfIdentity "p")]) =
      some (.file (String.ofList styledPage).toUTF8 0o600) := by rfl
    rw [Faults.read, Faults.none, led.read_join (isName_fileOfIdentity there) (plain _), joined, page]
    simp only [Text.fromUTF8?_toUTF8]
  have fine : Faults.none.replaceFault? styledSite .current (fileOfIdentity "p")
      (styledSite.get? ([] ++ [.text (fileOfIdentity "p")])) = none := by
    decide
  constructor
  · simp only [unifyAlone, unifyDocument, Faults.attempt_bind, Faults.attempt_mk, checkIdentity, if_pos gone,
      attempt_readDocument, missing, Except.mapError, readFailure]
  · have replaced := Faults.none.replace_join led (isName_fileOfIdentity there) (plain _)
      (String.ofList (styleBlock (bundle.compose "p").toList ++ lastStyle.render)).toUTF8
    rw [fine] at replaced
    obtain ⟨after, done, -⟩ := replaced
    refine ⟨after, ?_⟩
    simp only [unifyAlone, unifyDocument, Faults.attempt_bind, Faults.attempt_mk, checkIdentity, if_pos there,
      attempt_readDocument, read, Except.mapError, String.toList_ofList, restyle?_styledPage,
      attempt_writeDocument done, Faults.attempt_pure]

theorem runUnification_atomic_styledSite :
    ∃ site front first behind mode after,
      unifyAlone .none .current .builtin styledSite "p" = (.ok (FilePath.current.join (fileOfIdentity "p")), after) ∧
        Restyled .current "p" (Style.Bundle.builtin.compose "p") site front first behind mode styledSite after ∧
        EachAlone (unifyDocument (m := FaultyDisk .none) .current .builtin) styledSite ["gone", "p"]
          (unifyEach .none .current .builtin ["gone", "p"] styledSite) ∧
        (summarize (unifyEach .none .current .builtin ["gone", "p"] styledSite).1).failures =
          [⟨"gone", .missingDocument (FilePath.current.join (fileOfIdentity "gone"))⟩] := by
  have plain (location : Location) : styledSite.NoLinkAt location := noLinkAt_of_entries (by decide) location
  have unlinked (site : Location) (_ : styledSite.LeadsTo .current site) :
      ∀ identity ∈ ["p", "gone"], styledSite.NoLinkAt (pageAt site (fileOfIdentity identity)) :=
    fun _ _ => plain _
  obtain ⟨each, batch⟩ := runUnification_atomic .none .current .builtin unlinked
  obtain ⟨gone, _, succeeded⟩ := unifyAlone_styledSite .builtin
  obtain ⟨failure, failed⟩ | ⟨site, front, first, behind, mode, after, done, restyled⟩ := each "p" List.mem_cons_self
  · cases succeeded.symm.trans failed
  · obtain ⟨alone, -, -, -, -, failures⟩ := batch (by decide) ["gone", "p"] (.swap _ _ _)
    refine ⟨site, front, first, behind, mode, after, done, restyled, alone, ?_⟩
    rw [failures, List.filterMap_cons, gone, List.filterMap_cons, done]
    rfl

end PageAssets.Batch
