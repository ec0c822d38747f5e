import PageAssets.Proofs.Config.Loading
import PageAssets.Proofs.Text.Encoding

/-! Styles composed by override. The style that a page is given last is the one it shows, behind the shared
style; the configured files are given over the styles that come along. Main statement: a bundle is made when
all configured files can be read, and the first of them that cannot be read is reported. -/

namespace PageAssets.Style.Bundle

/-- Several pages get their styles, one after the other. -/
def withPages (bundle : Bundle) (given : List (String × String)) : Bundle :=
  given.foldl (fun bundle row => bundle.withPage row.1 row.2) bundle

section Overriding
variable {bundle : Bundle} {after given : List (String × String)} {identity style : String}

theorem get?_withPage (bundle : Bundle) (name style identity : String) :
    (bundle.withPage name style).pages.get? identity =
      if identity = name then some style else bundle.pages.get? identity :=
  NameTable.get?_insert bundle.pages name identity style

/-- A page without a style of its own shows the shared one, with nothing behind it. -/
theorem compose_eq (bundle : Bundle) (identity : String) :
    bundle.compose identity = bundle.shared ++ (bundle.pages.get? identity).getD "" := by
  rw [compose]
  cases bundle.pages.get? identity with
  | none => rw [Option.getD_none, String.append_empty]
  | some style => rfl

theorem shared_withPages (bundle : Bundle) (given : List (String × String)) :
    (bundle.withPages given).shared = bundle.shared := by
  induction given generalizing bundle with
  | nil => rfl
  | cons row rest ih => exact ih (bundle.withPage row.1 row.2)

theorem withPages_append (bundle : Bundle) (before after : List (String × String)) :
    bundle.withPages (before ++ after) = (bundle.withPages before).withPages after := List.foldl_append

/-- Giving styles to other pages takes no style away. -/
theorem get?_withPages_of_not_mem (other : identity ∉ given.map Prod.fst) :
    (bundle.withPages given).pages.get? identity = bundle.pages.get? identity := by
  induction given generalizing bundle with
  | nil => rfl
  | cons row rest ih =>
    rw [List.map_cons, List.mem_cons, not_or] at other
    refine (ih other.2).trans ?_
    rw [get?_withPage, if_neg other.1]

/-- The style that a page is given last is its style. -/
theorem get?_withPages_of_last (bundle : Bundle) (before : List (String × String))
    (last : identity ∉ after.map Prod.fst) :
    (bundle.withPages (before ++ (identity, style) :: after)).pages.get? identity = some style := by
  rw [withPages_append]
  refine (get?_withPages_of_not_mem last).trans ?_
  rw [get?_withPage, if_pos rfl]

end Overriding
end PageAssets.Style.Bundle

namespace PageAssets.Config
open Files Page Style

/-- The files that styles come from, in the order in which they are read. -/
def styleFiles (settings : Settings) : List FilePath :=
  settings.unify.sharedStyle.toList ++ settings.unify.pageStyles.rows.map Prod.snd

section Reading
variable (faults : Faults) (files : FileSystem)

def styleAt (path : FilePath) : Except Failure String := (faults.read files path).mapError (readFailure path)

def sharedStyleAt : Option FilePath → Except Failure String
  | some path => styleAt faults files path
  | none => .ok Bundle.builtin.shared

def pageStylesAt (rows : List (String × FilePath)) : Except Failure (List (String × String)) :=
  rows.mapM fun row => (styleAt faults files row.2).map fun style => (row.1, style)

def bundleAt (settings : Settings) : Except Failure Bundle := do
  let shared ← sharedStyleAt faults files settings.unify.sharedStyle
  let given ← pageStylesAt faults files settings.unify.pageStyles.rows
  return { Bundle.builtin with shared }.withPages given

variable {faults files} {rows : List (String × FilePath)} {given : List (String × String)}

theorem attempt_readStyle (path : FilePath) :
    faults.attempt (readDocument path) files = (styleAt faults files path, files) := attempt_readDocument path

theorem attempt_sharedStyle (path : Option FilePath) :
    faults.attempt (sharedStyle path) files = (sharedStyleAt faults files path, files) := by
  cases path with
  | none => rfl
  | some path => exact attempt_readStyle path

theorem pageStylesAt_cons (row : String × FilePath) (rest : List (String × FilePath)) :
    pageStylesAt faults files (row :: rest) = do
      let style ← styleAt faults files row.2
      let others ← pageStylesAt faults files rest
      return (row.1, style) :: others := by
  rw [pageStylesAt, List.mapM_cons]
  cases styleAt faults files row.2 <;> rfl

theorem attempt_addPageStyles (bundle : Bundle) (rows : List (String × FilePath)) :
    faults.attempt (addPageStyles bundle rows) files =
      ((pageStylesAt faults files rows).map bundle.withPages, files) := by
  induction rows generalizing bundle with
  | nil => rfl
  | cons row rest ih =>
    obtain ⟨identity, path⟩ := row
    simp only [addPageStyles, Faults.attempt_bind, attempt_readStyle, pageStylesAt_cons]
    cases styleAt faults files path with
    | error failure => rfl
    | ok style =>
      simp only [ih]
      cases pageStylesAt faults files rest <;> rfl

/-- Making a bundle reads files and writes none. -/
theorem attempt_styleBundle (settings : Settings) :
    faults.attempt (styleBundle settings) files = (bundleAt faults files settings, files) := by
  simp only [styleBundle, Faults.attempt_bind, attempt_sharedStyle, bundleAt]
  cases sharedStyleAt faults files settings.unify.sharedStyle with
  | error failure => rfl
  | ok shared =>
    simp only [attempt_addPageStyles]
    cases pageStylesAt faults files settings.unify.pageStyles.rows <;> rfl

/-- The rows of styles that have been read, each with the name of its file's row. -/
def StylesRead (faults : Faults) (files : FileSystem) : List (String × FilePath) → List (String × String) → Prop :=
  List.Forall₂ fun row style => style.1 = row.1 ∧ faults.read files row.2 = .ok style.2

theorem exists_pageStylesAt (readable : ∀ row ∈ rows, ∃ text, faults.read files row.2 = .ok text) :
    ∃ given, pageStylesAt faults files rows = .ok given ∧ StylesRead faults files rows given := by
  induction rows with
  | nil => exact ⟨[], rfl, .nil⟩
  | cons row rest ih =>
    obtain ⟨text, read⟩ := readable row List.mem_cons_self
    obtain ⟨given, others, reads⟩ := ih fun other member => readable other (List.mem_cons_of_mem _ member)
    refine ⟨(row.1, text) :: given, ?_, .cons ⟨rfl, read⟩ reads⟩
    rw [pageStylesAt_cons, styleAt, read, others]
    rfl

theorem StylesRead.map_fst (reads : StylesRead faults files rows given) :
    given.map Prod.fst = rows.map Prod.fst := by
  induction reads with
  | nil => rfl
  | cons same _ ih => rw [List.map_cons, List.map_cons, same.1, ih]

theorem StylesRead.lookup_withPages (reads : StylesRead faults files rows given)
    (distinct : (rows.map Prod.fst).Nodup) (bundle : Bundle) (identity : String) :
    match rows.lookup identity with
    | some path => ∃ style, faults.read files path = .ok style ∧
        (bundle.withPages given).pages.get? identity = some style
    | none => (bundle.withPages given).pages.get? identity = bundle.pages.get? identity := by
  induction reads generalizing bundle with
  | nil => rfl
  | @cons row entry rest others same further ih =>
    obtain ⟨_, path⟩ := row
    obtain ⟨name, style⟩ := entry
    obtain ⟨rfl, read⟩ := same
    obtain ⟨first, distinct⟩ := List.nodup_cons.mp distinct
    have later := ih distinct (bundle.withPage name style)
    by_cases here : identity = name
    · subst here
      rw [List.lookup_cons_self]
      have last : identity ∉ others.map Prod.fst := by rwa [StylesRead.map_fst further]
      exact ⟨style, read, bundle.get?_withPages_of_last [] last⟩
    · rw [List.lookup_cons, beq_false_of_ne here]
      rw [Bundle.get?_withPage, if_neg here] at later
      exact later

/-- A page with a file shows what the file says, and any other what it showed before. -/
theorem StylesRead.get?_withPages {table : NameTable FilePath} (reads : StylesRead faults files table.rows given)
    (bundle : Bundle) (identity : String) :
    match table.get? identity with
    | some path => ∃ style, faults.read files path = .ok style ∧
        (bundle.withPages given).pages.get? identity = some style
    | none => (bundle.withPages given).pages.get? identity = bundle.pages.get? identity := by
  have distinct : (table.rows.map Prod.fst).Nodup := by
    refine List.pairwise_map.mpr (table.increasing.imp ?_)
    intro first second before same
    exact String.lt_irrefl _ (same ▸ before)
  exact reads.lookup_withPages distinct bundle identity

/-- The first file that cannot be read is reported, and those behind it are not looked at. -/
theorem pageStylesAt_error {before after : List FilePath} {path : FilePath} {cause : Cause}
    (split : rows.map Prod.snd = before ++ path :: after)
    (readable : ∀ earlier ∈ before, ∃ text, faults.read files earlier = .ok text)
    (failed : faults.read files path = .error cause) :
    pageStylesAt faults files rows = .error (readFailure path cause) := by
  induction before generalizing rows with
  | nil =>
    obtain ⟨row, rest, rfl, rfl, -⟩ := List.map_eq_cons_iff.mp split
    rw [pageStylesAt_cons, styleAt, failed]
    rfl
  | cons first before ih =>
    obtain ⟨row, rest, rfl, rfl, others⟩ := List.map_eq_cons_iff.mp split
    obtain ⟨text, read⟩ := readable row.2 List.mem_cons_self
    have later := ih others fun earlier member => readable earlier (List.mem_cons_of_mem _ member)
    rw [pageStylesAt_cons, styleAt, read, later]
    rfl

end Reading

section Composition
variable (faults : Faults) (files : FileSystem) (settings : Settings)

/-- What the shared style says: the configured file, or what comes along. -/
def SharedStyle (shared : String) : Prop :=
  match settings.unify.sharedStyle with
  | some path => faults.read files path = .ok shared
  | none => shared = Bundle.builtin.shared

/-- What a page's own style says: its configured file, or what comes along for it, or nothing. -/
def OwnStyle (identity own : String) : Prop :=
  match settings.unify.pageStyles.get? identity with
  | some path => faults.read files path = .ok own
  | none => own = (Bundle.builtin.pages.get? identity).getD ""

/-- A bundle composes the styles that are configured. -/
structure Composes (bundle : Bundle) : Prop where
  text : ∃ shared, SharedStyle faults files settings shared ∧ ∀ identity, ∃ own,
    OwnStyle faults files settings identity own ∧ bundle.compose identity = shared ++ own
  own : ∀ identity, bundle.hasPageStyle identity =
    (settings.unify.pageStyles.contains identity || Bundle.builtin.hasPageStyle identity)

variable {faults files settings}

theorem exists_sharedStyleAt
    (readable : ∀ path ∈ settings.unify.sharedStyle, ∃ text, faults.read files path = .ok text) :
    ∃ shared, sharedStyleAt faults files settings.unify.sharedStyle = .ok shared ∧
      SharedStyle faults files settings shared := by
  unfold SharedStyle
  cases configured : settings.unify.sharedStyle with
  | none => exact ⟨_, rfl, rfl⟩
  | some path =>
    obtain ⟨text, read⟩ := readable path configured
    refine ⟨text, ?_, read⟩
    rw [sharedStyleAt, styleAt, read]
    rfl

theorem composes_withPages {shared : String} {given : List (String × String)}
    (common : SharedStyle faults files settings shared)
    (reads : StylesRead faults files settings.unify.pageStyles.rows given) :
    Composes faults files settings (Bundle.withPages ⟨shared, Bundle.builtin.pages⟩ given) := by
  have shows (identity : String) :
      (∃ own, OwnStyle faults files settings identity own ∧
        (Bundle.withPages ⟨shared, Bundle.builtin.pages⟩ given).compose identity = shared ++ own) ∧
      (Bundle.withPages ⟨shared, Bundle.builtin.pages⟩ given).hasPageStyle identity =
        (settings.unify.pageStyles.contains identity || Bundle.builtin.hasPageStyle identity) := by
    have shown := reads.get?_withPages ⟨shared, Bundle.builtin.pages⟩ identity
    unfold OwnStyle Bundle.hasPageStyle NameTable.contains
    rw [Bundle.compose_eq, Bundle.shared_withPages]
    cases listed : settings.unify.pageStyles.get? identity with
    | none =>
      rw [listed] at shown
      rw [shown]
      exact ⟨⟨_, rfl, rfl⟩, rfl⟩
    | some path =>
      rw [listed] at shown
      obtain ⟨style, read, own⟩ := shown
      rw [own]
      exact ⟨⟨style, read, rfl⟩, rfl⟩
  exact ⟨⟨shared, common, fun identity => (shows identity).1⟩, fun identity => (shows identity).2⟩

theorem exists_composes (readable : ∀ path ∈ styleFiles settings, ∃ text, faults.read files path = .ok text) :
    ∃ bundle, faults.attempt (styleBundle settings) files = (.ok bundle, files) ∧
      Composes faults files settings bundle := by
  obtain ⟨shared, found, common⟩ := exists_sharedStyleAt fun path member =>
    readable path (List.mem_append_left _ (Option.mem_toList.mpr member))
  obtain ⟨given, others, reads⟩ := exists_pageStylesAt fun row member =>
    readable row.2 (List.mem_append_right _ (List.mem_map_of_mem member))
  refine ⟨_, ?_, composes_withPages common reads⟩
  rw [attempt_styleBundle, bundleAt, found, others]
  rfl

theorem attempt_styleBundle_error {before after : List FilePath} {path : FilePath} {cause : Cause}
    (split : styleFiles settings = before ++ path :: after)
    (readable : ∀ earlier ∈ before, ∃ text, faults.read files earlier = .ok text)
    (failed : faults.read files path = .error cause) :
    faults.attempt (styleBundle settings) files = (.error (readFailure path cause), files) := by
  rw [attempt_styleBundle, bundleAt]
  rw [styleFiles] at split
  cases configured : settings.unify.sharedStyle with
  | none =>
    rw [configured, Option.toList_none, List.nil_append] at split
    rw [pageStylesAt_error split readable failed]
    rfl
  | some shared =>
    rw [configured, Option.toList_some, List.singleton_append] at split
    cases before with
    | nil =>
      obtain ⟨rfl, -⟩ := List.cons.inj split
      rw [sharedStyleAt, styleAt, failed]
      rfl
    | cons first before =>
      obtain ⟨rfl, others⟩ := List.cons.inj split
      obtain ⟨text, read⟩ := readable shared List.mem_cons_self
      have later := pageStylesAt_error others
        (fun earlier member => readable earlier (List.mem_cons_of_mem _ member)) failed
      rw [sharedStyleAt, styleAt, read, later]
      rfl

theorem exists_first_unreadable {paths : List FilePath}
    (unreadable : ∃ path ∈ paths, ∃ cause, faults.read files path = .error cause) :
    ∃ before path after cause, paths = before ++ path :: after ∧
      (∀ earlier ∈ before, ∃ text, faults.read files earlier = .ok text) ∧
      faults.read files path = .error cause := by
  induction paths with
  | nil =>
    obtain ⟨path, member, -⟩ := unreadable
    cases member
  | cons first rest ih =>
    cases read : faults.read files first with
    | error cause => exact ⟨[], first, rest, cause, rfl, nofun, read⟩
    | ok text =>
      have later : ∃ path ∈ rest, ∃ cause, faults.read files path = .error cause := by
        obtain ⟨path, member, cause, failed⟩ := unreadable
        rcases List.mem_cons.mp member with rfl | other
        · cases read.symm.trans failed
        · exact ⟨path, other, cause, failed⟩
      obtain ⟨before, path, after, cause, split, readable, failed⟩ := ih later
      refine ⟨first :: before, path, after, cause, congrArg _ split, ?_, failed⟩
      exact List.forall_mem_cons.mpr ⟨⟨text, read⟩, readable⟩

/-- A bundle stands for files that can all be read. -/
theorem readable_of_styleBundle {after : FileSystem} {bundle : Bundle}
    (made : faults.attempt (styleBundle settings) files = (.ok bundle, after)) :
    ∀ path ∈ styleFiles settings, ∃ text, faults.read files path = .ok text := by
  intro path member
  cases read : faults.read files path with
  | ok text => exact ⟨text, rfl⟩
  | error cause =>
    obtain ⟨before, first, behind, cause, split, readable, failed⟩ :=
      exists_first_unreadable ⟨path, member, cause, read⟩
    cases made.symm.trans (attempt_styleBundle_error split readable failed)

/-- Styles compose by override, and what cannot be read is reported in the order of the files: the shared
style first, then the single pages by the bytes of their names. -/
theorem styleBundle_composes (faults : Faults) (files : FileSystem) (settings : Settings) :
    ((∀ path ∈ styleFiles settings, ∃ text, faults.read files path = .ok text) →
      ∃ bundle, faults.attempt (styleBundle settings) files = (.ok bundle, files) ∧
        Composes faults files settings bundle) ∧
    (∀ before path after cause, styleFiles settings = before ++ path :: after →
      (∀ earlier ∈ before, ∃ text, faults.read files earlier = .ok text) →
      faults.read files path = .error cause →
      faults.attempt (styleBundle settings) files = (.error (readFailure path cause), files)) ∧
    (settings.unify.pageStyles.rows.Pairwise fun first second => Text.bytes first.1 < Text.bytes second.1) ∧
    ∀ (bundle : Bundle) (given : List (String × String)) (identity : String),
      (identity ∉ given.map Prod.fst →
        (bundle.withPages given).compose identity = bundle.compose identity ∧
          (bundle.withPages given).hasPageStyle identity = bundle.hasPageStyle identity) ∧
      ∀ before style after, given = before ++ (identity, style) :: after → identity ∉ after.map Prod.fst →
        (bundle.withPages given).compose identity = bundle.shared ++ style ∧
          (bundle.withPages given).hasPageStyle identity = true := by
  refine ⟨exists_composes, fun _ _ _ _ => attempt_styleBundle_error, ?_, ?_⟩
  · exact settings.unify.pageStyles.increasing.imp Text.bytes_lt
  · intro bundle given identity
    refine ⟨fun other => ?_, fun before style after split last => ?_⟩
    · have same := bundle.get?_withPages_of_not_mem other
      constructor
      · rw [Bundle.compose_eq, Bundle.compose_eq, Bundle.shared_withPages, same]
      · rw [Bundle.hasPageStyle, Bundle.hasPageStyle, NameTable.contains, NameTable.contains, same]
    · subst split
      have own : (bundle.withPages (before ++ (identity, style) :: after)).pages.get? identity = some style :=
        bundle.get?_withPages_of_last before last
      constructor
      · rw [Bundle.compose_eq, Bundle.shared_withPages, own]
        rfl
      · rw [Bundle.hasPageStyle, NameTable.contains, own]
        rfl

end Composition

def sheets : FileSystem where
  working := []
  entries := [([.text "s.css"], .file "S".toUTF8 0o644), ([.text "l.css"], .file "L".toUTF8 0o644)]
  distinct := by decide

def sheetSettings (name : String) : Settings :=
  ⟨.current, ⟨[], some (FilePath.current.join "s.css"), .ofList [("login", FilePath.current.join name)]⟩⟩

theorem read_sheets {name text : String} (named : IsName name) (away : FilePath.current.joinFault? name = none)
    (there : sheets.get? [.text name] = some (.file text.toUTF8 0o644)) :
    Faults.none.read sheets (FilePath.current.join name) = .ok text := by
  have led : sheets.LeadsTo .current [] := .current rfl
  have plain : sheets.NoLinkAt ([] ++ [.text name]) := FileSystem.noLinkAt_of_entries (by decide) _
  rw [Faults.read, Faults.none, led.read_join named plain, away, List.nil_append, there]
  simp only [Text.fromUTF8?_toUTF8]

theorem styleBundle_composes_sheets :
    (∃ bundle, Faults.none.attempt (styleBundle (sheetSettings "l.css")) sheets = (.ok bundle, sheets) ∧
      bundle.compose "login" = "SL") ∧
    Faults.none.attempt (styleBundle (sheetSettings "m.css")) sheets =
      (.error (.missingDocument (FilePath.current.join "m.css")), sheets) := by
  have shared : Faults.none.read sheets (FilePath.current.join "s.css") = .ok "S" :=
    read_sheets (by constructor <;> decide) (by decide) rfl
  have login : Faults.none.read sheets (FilePath.current.join "l.css") = .ok "L" :=
    read_sheets (by constructor <;> decide) (by decide) rfl
  constructor
  · obtain ⟨composed, -⟩ := styleBundle_composes .none sheets (sheetSettings "l.css")
    have readable : ∀ path ∈ styleFiles (sheetSettings "l.css"), ∃ text,
        Faults.none.read sheets path = .ok text := by
      intro path member
      rcases List.mem_pair.mp member with rfl | rfl
      · exact ⟨_, shared⟩
      · exact ⟨_, login⟩
    obtain ⟨bundle, made, ⟨first, common, shows⟩, -⟩ := composed readable
    obtain ⟨second, own, text⟩ := shows "login"
    cases shared.symm.trans common
    cases login.symm.trans own
    exact ⟨bundle, made, text⟩
  · obtain ⟨-, reported, -⟩ := styleBundle_composes .none sheets (sheetSettings "m.css")
    have missing : Faults.none.read sheets (FilePath.current.join "m.css") = .error .notFound := by
      have led : sheets.LeadsTo .current [] := .current rfl
      have named : IsName "m.css" := by constructor <;> decide
      have plain : sheets.NoLinkAt ([] ++ [.text "m.css"]) := FileSystem.noLinkAt_of_entries (by decide) _
      rw [Faults.read, Faults.none, led.read_join named plain]
      rfl
    refine reported [_] _ [] .notFound rfl ?_ missing
    intro earlier member
    rw [List.mem_singleton.mp member]
    exact ⟨_, shared⟩

end PageAssets.Config
