import PageAssets.Proofs.Page.CleanCut
import PageAssets.Proofs.Page.Gaps

/-! Taking a page apart a second time. Nothing more is taken out exactly when the page that was left
has no block with content, and so it is when the page was cut cleanly. -/

namespace PageAssets.Page
open Markup

section References
variable {identity : String}

theorem isReference_style (valid : isIdentity identity = true) :
    IsReference .style (AssetKind.css.referenceTag identity).toList where
  angles := by
    refine ⟨"link rel=\"stylesheet\" href=\"/css/".toList ++ identity.toList ++ ".css\"".toList, ?_⟩
    simp [AssetKind.referenceTag_css]
  stands := ⟨_, (styleReference valid).stands, by rw [Segment.blocks_pieces]; rfl⟩
  closes other holds := by
    have written : (AssetKind.css.referenceTag identity).toList =
        '<' :: 'l' :: ("ink rel=\"stylesheet\" href=\"/css/".toList ++ identity.toList ++ ".css\">".toList) := by
      simp [AssetKind.referenceTag_css]
    rw [written] at holds
    refine absurd holds (not_holdsClosingTag_of_cons (by decide) ?_)
    simp [not_mem_identity valid (c := '<') rfl]

theorem isReference_script (valid : isIdentity identity = true) :
    IsReference .script (AssetKind.js.referenceTag identity).toList where
  angles := by
    refine ⟨"script src=\"/js/".toList ++ identity.toList ++ ".js\"></script".toList, ?_⟩
    simp [AssetKind.referenceTag_js]
  stands := by
    refine ⟨_, render_scriptReference valid ▸ (scriptReference valid).stands, ?_⟩
    rw [Segment.blocks_pieces]
    rfl
  closes other holds := by
    have written : (AssetKind.js.referenceTag identity).toList =
        '<' :: 's' :: ("cript src=\"/js/".toList ++ identity.toList ++ ".js\"".toList) ++ ['>'] ++
          "</script>".toList := by
      simp [AssetKind.referenceTag_js]
    rw [written] at holds
    rcases holds.of_append with opening | closing
    · refine absurd opening (not_holdsClosingTag_of_cons (by decide) ?_)
      simp [not_mem_identity valid (c := '<') rfl]
    · cases other with
      | script => rfl
      | style =>
        have none : cutAtClosingTag? .style "</script>".toList = none := by decide
        exact absurd closing (cutAtClosingTag?_eq_none_iff.mp none)

end References

theorem isUnchanged_iff (document : List Char) (identity : String) :
    (extract document identity).isUnchanged = true ↔ ∀ block ∈ blocks document, isSpent block = true := by
  simp only [Extraction.isUnchanged, Bool.and_eq_true, Option.isNone_iff_eq_none, extract_css, extract_js,
    styleOf?_eq_none_iff, scriptOf?_eq_none_iff, isStyle_eq, isInlineScript_eq, isSpent, Bool.or_eq_true,
    decide_eq_true_eq]
  constructor
  · intro facts block inside
    obtain ⟨styles, scripts⟩ := facts
    cases part : role block with
    | style => exact .inr (styles block inside part)
    | inlineScript => exact .inr (scripts block inside part)
    | externalScript => exact .inl rfl
  · intro spent
    constructor
    all_goals
      intro block inside part
      exact (spent block inside).resolve_left (by simp [part])

theorem document_of_isUnchanged {document : List Char} {identity : String}
    (unchanged : (extract document identity).isUnchanged = true) :
    (extract document identity).document = document := by
  obtain ⟨parts, whole⟩ := Decomposes.exists_parts document
  simp only [Extraction.isUnchanged, Bool.and_eq_true, Option.isNone_iff_eq_none] at unchanged
  rw [extract_document whole, unchanged.1, unchanged.2, Fates.ofContents_none, rewrite_keepAll, whole.flatMap_text]

theorem Fate.content_of_keep {kind : AssetKind} {identity : String} {content : Option (List Char)}
    (kept : Fate.ofContent kind identity content = .keep) : content = none := by
  cases content with
  | none => rfl
  | some text => cases kept

theorem Fate.reference_of_replace {kind : AssetKind} {identity : String} {content : Option (List Char)}
    {reference : List Char} (replaced : Fate.ofContent kind identity content = .replace reference) :
    reference = (kind.referenceTag identity).toList := by
  cases content with
  | none => cases replaced
  | some text => exact (Fate.replace.inj replaced).symm

/-- What is not taken out was not there to be taken out. -/
theorem isSpent_of_keep (document : List Char) (identity : String) :
    ∀ block ∈ blocks document,
      Fates.ofContents (extract document identity).css (extract document identity).js identity (role block) = .keep →
        isSpent block = true := by
  intro block inside kept
  simp only [isSpent, Bool.or_eq_true, decide_eq_true_eq]
  cases part : role block with
  | externalScript => exact .inl rfl
  | style =>
    rw [part] at kept
    have none := Fate.content_of_keep kept
    rw [extract_css, styleOf?_eq_none_iff] at none
    exact .inr (none block inside (by simp [isStyle_eq, part]))
  | inlineScript =>
    rw [part] at kept
    have none := Fate.content_of_keep kept
    rw [extract_js, scriptOf?_eq_none_iff] at none
    exact .inr (none block inside (by simp [isInlineScript_eq, part]))

/-- What is kept has nothing to be taken out, and the rest gives way to references. -/
theorem settles_ofContents (document : List Char) {identity : String} (valid : isIdentity identity = true) :
    Settles (.ofContents (extract document identity).css (extract document identity).js identity) (blocks document) := by
  constructor
  · exact isSpent_of_keep document identity
  · intro block inside reference replaced
    cases part : role block with
    | externalScript =>
      rw [part] at replaced
      cases replaced
    | style =>
      rw [part] at replaced
      obtain rfl := Fate.reference_of_replace replaced
      have kind : isStyle block = true := by simp [isStyle_eq, part]
      rw [of_decide_eq_true kind]
      exact isReference_style valid
    | inlineScript =>
      rw [part] at replaced
      obtain rfl := Fate.reference_of_replace replaced
      have kind : isInlineScript block = true := by simp [isInlineScript_eq, part]
      rw [of_decide_eq_true (Bool.and_eq_true_iff.mp kind).1]
      exact isReference_script valid

/-- A second run takes nothing out of the page that the first one left, and leaves it as it is. -/
def IsSettled (document : List Char) (identity : String) : Prop :=
  (extract (extract document identity).document identity).isUnchanged = true ∧
    (extract (extract document identity).document identity).document = (extract document identity).document

def fatesIn (document : List Char) (identity : String) : Fates :=
  .ofContents (styleOf? (blocks document)) (scriptOf? (blocks document)) identity

/-- The texts that stand in place of the blocks of a page once it is taken apart. -/
def textsIn (document : List Char) (identity : String) : List (List Char) :=
  successors (styleOf? (blocks document)) (scriptOf? (blocks document)) identity [] (blocks document)

def leftOf (document : List Char) (identity : String) : List Char :=
  weave (gaps document) (textsIn document identity)

section Leaving
variable {document : List Char} {parts : List Piece}

theorem textsIn_eq (document : List Char) (identity : String) :
    textsIn document identity = (fatesIn document identity).texts (blocks document) := by
  rw [textsIn, successors_eq_texts, Fates.behind_nil, fatesIn]

theorem leftOf_eq (whole : Decomposes document parts) (identity : String) :
    leftOf document identity = rewrite (fatesIn document identity) parts := weave_gaps whole _ _ _

theorem extract_document_eq (document : List Char) (identity : String) :
    (extract document identity).document = leftOf document identity := by
  obtain ⟨parts, whole⟩ := Decomposes.exists_parts document
  rw [extract_document whole, extract_css, extract_js, leftOf_eq whole, fatesIn]

theorem isSettled_iff (document : List Char) (identity : String) :
    IsSettled document identity ↔ ∀ block ∈ blocks (leftOf document identity), isSpent block = true := by
  rw [← extract_document_eq, ← isUnchanged_iff _ identity]
  exact ⟨fun both => both.1, fun unchanged => ⟨unchanged, document_of_isUnchanged unchanged⟩⟩

end Leaving

/-- The first run leaves the gaps of the page with a text in place of each block, and what it keeps has no content.
A second run changes nothing exactly when every block that comes up there was kept or has no content. It is so on
every page that the first run cut cleanly: then the blocks that come up are those that were kept and those of the
references. -/
theorem extract_again (document : List Char) (identity : String) :
    (extract document identity).document = leftOf document identity ∧
      (∀ block ∈ blocks document, fatesIn document identity (role block) = .keep → isSpent block = true) ∧
      (IsSettled document identity ↔ ∀ block ∈ blocks (leftOf document identity),
        (block ∈ blocks document ∧ fatesIn document identity (role block) = .keep) ∨ isSpent block = true) ∧
      (isIdentity identity = true → ∀ parts, Decomposes document parts →
        isCleanCut (fatesIn document identity) [] parts = true → IsSettled document identity ∧
          blocks (leftOf document identity) = (textsIn document identity).flatMap blocks) := by
  have kept : ∀ block ∈ blocks document, fatesIn document identity (role block) = .keep → isSpent block = true := by
    have spent := isSpent_of_keep document identity
    rwa [extract_css, extract_js] at spent
  refine ⟨extract_document_eq document identity, kept, ?_, ?_⟩
  · rw [isSettled_iff]
    refine ⟨fun spent block inside => .inr (spent block inside), ?_⟩
    intro either block inside
    rcases either block inside with ⟨early, keep⟩ | spent
    · exact kept block early keep
    · exact spent
  · intro valid parts whole clean
    have settles : Settles (fatesIn document identity) (blocks document) := by
      have all := settles_ofContents document valid
      rwa [extract_css, extract_js] at all
    rw [whole.blocks_eq] at settles
    obtain ⟨pieces, later, spent, come⟩ := exists_left_parts whole settles clean
    rw [isSettled_iff, leftOf_eq whole, later.blocks_eq, textsIn_eq, whole.blocks_eq]
    exact ⟨List.all_eq_true.mp spent, come⟩

def shutPage : List Segment := [
  .text ['<', 'p', '>'] rfl,
  .block ⟨.style, [], ['a'], by decide⟩,
  .text ['<', '/', 'p', '>'] rfl,
  .block ⟨.style, [], ['b'], by decide⟩]

theorem extract_again_shutPage : isIdentity "p" = true ∧ IsSettled (render shutPage) "p" := by
  have valid : isIdentity "p" = true := by decide
  obtain ⟨-, -, -, clean⟩ := extract_again (render shutPage) "p"
  refine ⟨valid, (clean valid _ (decomposes_render shutPage) ?_).1⟩
  rw [fatesIn, (decomposes_render shutPage).blocks_eq]
  decide

def firstStyle : PlainBlock := ⟨.style, [], ['a'], by decide⟩

def secondStyle : PlainBlock := ⟨.style, [], ['b'], by decide⟩

/-- A page whose second style splits the name of a tag. -/
def splitPage : List Char := "<style>a</style><scr<style>b</style>ipt>x</script>".toList

def splitPieces : List Piece :=
  .block firstStyle.asRead :: (['<', 's', 'c', 'r'].map .char ++
    .block secondStyle.asRead :: "ipt>x</script>".toList.map .char)

theorem decomposes_splitPage : Decomposes splitPage splitPieces := by
  have behind : Decomposes "ipt>x</script>".toList ("ipt>x</script>".toList.map .char) :=
    (stands_of_isPlain (by decide)).decomposes
  have letters := ((Stands.char (c := 's') (by decide)).append (Stands.char (c := 'c') (by decide))).append
    (Stands.char (c := 'r') (by decide)) _ _ (secondStyle.stands _ _ behind)
  have different : ∀ word ∈ openers, mismatches word ['s', 'c', 'r', '<'] = true := by decide
  have angle := reads_angle_of_mismatches different "style>b</style>ipt>x</script>".toList
  have written : splitPage =
      firstStyle.render ++ (['<', 's', 'c', 'r'] ++ (secondStyle.render ++ "ipt>x</script>".toList)) := by decide
  rw [written]
  exact firstStyle.stands _ _ (.cons angle letters)

def joinedPage : List Segment :=
  [styleReference (by decide : isIdentity "p" = true), .block ⟨.script, [], ['x'], by decide⟩]

/-- The second style of the page goes, and with it what kept a script apart. -/
theorem extract_again_splitPage : isIdentity "p" = true ∧ ¬ IsSettled splitPage "p" := by
  have css : styleOf? (splitPieces.filterMap Piece.block?) = some ['a', '\n', '\n', 'b'] := by decide
  have js : scriptOf? (splitPieces.filterMap Piece.block?) = none := by decide
  have joined : rewrite (.ofContents (some ['a', '\n', '\n', 'b']) none "p") splitPieces = render joinedPage := by
    decide
  have script : scriptOf? ((joinedPage.flatMap Segment.pieces).filterMap Piece.block?) = some ['x'] := by decide
  have left : (extract splitPage "p").document = render joinedPage := by
    rw [extract_document decomposes_splitPage, extract_css, extract_js, decomposes_splitPage.blocks_eq, css, js, joined]
  refine ⟨by decide, ?_⟩
  intro facts
  obtain ⟨unchanged, -⟩ := facts
  rw [left, Extraction.isUnchanged, extract_js, (decomposes_render joinedPage).blocks_eq, script] at unchanged
  simp at unchanged

end PageAssets.Page
