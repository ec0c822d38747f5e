import PageAssets.Proofs.Markup.Cutting
import PageAssets.Proofs.Page.Repetition

/-! When taking a page apart changes the page. Where the first block gives way there is a reference
instead, and no reference is read as a block that gives something; so a page that stays the same has
given nothing. What it gives is never blank. -/

namespace PageAssets.Markup

section Assigned
variable {name : List Char}

/-- A name in front of an equals sign is the name of an attribute, whatever the value is. -/
theorem readAttributes_assigned (named : name ≠ []) (letters : ∀ c ∈ name, isNameChar c = true) (text : List Char) :
    ∃ value others, (readAttributes (' ' :: (name ++ '=' :: text))).1 = ⟨name, value⟩ :: others := by
  obtain ⟨c, tail, rfl⟩ := List.exists_cons_of_ne_nil named
  have letter := letters c List.mem_cons_self
  have inside : c ≠ '>' := by
    rintro rfl
    cases letter
  have separated : (' ' :: (c :: tail ++ '=' :: text)).dropWhile isSeparator = c :: (tail ++ '=' :: text) := by
    rw [List.dropWhile_cons_of_pos rfl, List.cons_append, List.dropWhile_cons_of_neg (by simp [isSeparator_of_isNameChar letter])]
  have read : readAttribute (c :: (tail ++ '=' :: text)) =
      (⟨c :: tail, (readValue (text.dropWhile isSpace)).1⟩, (readValue (text.dropWhile isSpace)).2) :=
    readAttribute_assigned letters (List.forall_mem_nil _)
  cases ended : (readValue (text.dropWhile isSpace)).2 with
  | none =>
    rw [ended] at read
    exact ⟨_, _, congrArg Prod.fst (readAttributes_of_open separated inside read)⟩
  | some behind =>
    rw [ended] at read
    exact ⟨_, _, congrArg Prod.fst (readAttributes_of_closing separated inside read)⟩

/-- It is so as well when a quote stays open and the tag ends at the first closing angle. -/
theorem readTag?_assigned (named : name ≠ []) (letters : ∀ c ∈ name, isNameChar c = true) {text body : List Char}
    {attributes : List Attribute} (read : readTag? (' ' :: (name ++ '=' :: text)) = some (attributes, body)) :
    ∃ value others, attributes = ⟨name, value⟩ :: others := by
  by_cases opened : (readAttributes (' ' :: (name ++ '=' :: text))).2 = none
  · obtain ⟨inside, split, -, rfl⟩ := (readTag?_of_open opened).mp read
    have written : ' ' :: (name ++ ['=']) ++ text = inside ++ '>' :: body := by simpa using split
    have angleless : '>' ∉ ' ' :: (name ++ ['=']) := by
      intro member
      simp only [List.mem_cons, List.mem_append, List.not_mem_nil, or_false, Char.reduceEq, false_or] at member
      cases letters _ member
    have started : ∃ more, inside = ' ' :: (name ++ '=' :: more) := by
      rcases List.append_eq_append_iff.mp written with ⟨more, rfl, -⟩ | ⟨more, start, behind⟩
      · exact ⟨more, by simp⟩
      · cases more with
        | nil => exact ⟨[], by simpa using start.symm⟩
        | cons c others =>
          obtain ⟨rfl, -⟩ := List.cons.inj behind
          exact absurd (start ▸ List.mem_append_right _ List.mem_cons_self) angleless
    obtain ⟨more, rfl⟩ := started
    exact readAttributes_assigned named letters more
  · obtain ⟨value, others, first⟩ := readAttributes_assigned named letters text
    rw [readAttributes_of_readTag? read opened] at first
    exact ⟨value, others, first⟩

end Assigned

/-- A block that starts a document has the attributes that are read behind its name. -/
theorem Reads.block_attributes {text rest : List Char} {block : Block}
    (reads : Reads ('<' :: text) (.block block) rest) :
    ∃ tail body, StartsWithName block.kind text tail ∧ readTag? tail = some (block.attributes, body) := by
  cases reads with
  | block named ends closes first => exact ⟨_, _, named, ends⟩

end PageAssets.Markup

namespace PageAssets.Page
open Markup

/-- A reference in front of any text starts with something that nothing is taken out of: a tag that is
no block, or a script that names a file. The identity in it may be any text. -/
theorem reference_reads (kind : AssetKind) (identity : String) (rest : List Char) :
    ∃ piece behind, Reads ((kind.referenceTag identity).toList ++ rest) piece behind ∧
      ∀ block, piece = .block block → role block = .externalScript := by
  cases kind with
  | css =>
    have written : (AssetKind.css.referenceTag identity).toList ++ rest =
        '<' :: (['l'] ++ ("ink rel=\"stylesheet\" href=\"/css/".toList ++ identity.toList ++ ".css\">".toList ++ rest)) := by
      simp [AssetKind.referenceTag_css]
    rw [written]
    exact ⟨_, _, reads_angle_of_mismatches (by decide) _, fun block same => by cases same⟩
  | js =>
    obtain ⟨more, written⟩ : ∃ more, (AssetKind.js.referenceTag identity).toList ++ rest =
        '<' :: ("script".toList ++ ' ' :: (sourceName ++ '=' :: more)) :=
      ⟨"\"/js/".toList ++ identity.toList ++ ".js\"></script>".toList ++ rest, by
        simp [AssetKind.referenceTag_js, sourceName]⟩
    rw [written]
    obtain ⟨piece, behind, reads⟩ := exists_reads '<' ("script".toList ++ ' ' :: (sourceName ++ '=' :: more))
    refine ⟨piece, behind, reads, ?_⟩
    rintro block rfl
    obtain ⟨tail, body, starts, read⟩ := reads.block_attributes
    have named : StartsWithName .script ("script".toList ++ ' ' :: (sourceName ++ '=' :: more)) _ :=
      ⟨"script".toList, rfl, rfl, ' ', _, rfl, .inl rfl⟩
    obtain rfl := named.rest_unique starts
    have letters : sourceName.all isNameChar = true := rfl
    obtain ⟨value, others, first⟩ := readTag?_assigned (by decide) (List.all_eq_true.mp letters) read
    simp [role, scriptClass, ← named.kind_unique starts, first, namesSource, sameName]

/-- Where something gives way to a reference, the text changes. -/
theorem keep_of_rewrite_eq (identity : String) {text : List Char} {parts : List Piece}
    (whole : Decomposes text parts) {fates : Fates} (external : fates .externalScript = .keep)
    (referred : ∀ part, fates part = .keep ∨
      ∃ kind : AssetKind, fates part = .replace (kind.referenceTag identity).toList)
    (same : rewrite fates parts = text) : ∀ block ∈ parts.filterMap Piece.block?, fates (role block) = .keep := by
  induction whole with
  | nil => simp
  | @cons document rest piece others first further ih =>
    have split := first.text_append
    rw [rewrite] at same
    rw [List.filterMap_cons]
    cases found : piece.block? with
    | none =>
      rw [found, ← split] at same
      exact ih (List.append_cancel_left same)
    | some block =>
      obtain rfl : piece = .block block := by cases piece <;> cases found; rfl
      simp only [Piece.block?] at same
      rcases referred (role block) with kept | ⟨kind, replaced⟩
      · have still : fates.after (role block) = fates := by
          funext part
          rw [Fates.after]
          split
          next here => rw [here, kept, Fate.next_keep]
          next => rfl
        rw [kept, still, ← split] at same
        intro candidate inside
        rcases List.mem_cons.mp inside with rfl | later
        · exact kept
        · exact ih (List.append_cancel_left same) candidate later
      · rw [replaced, Fate.apply] at same
        obtain ⟨piece, behind, read, harmless⟩ := reference_reads kind identity (rewrite (fates.after (role block)) others)
        rw [same] at read
        have outer := harmless block (first.unique read).1.symm
        rw [outer, external] at replaced
        cases replaced

theorem isUnchanged_of_document_eq {identity : String} {document : List Char}
    (same : (extract document identity).document = document) : (extract document identity).isUnchanged = true := by
  obtain ⟨parts, whole⟩ := Decomposes.exists_parts document
  have spent := isSpent_of_keep document identity
  rw [whole.blocks_eq] at spent
  rw [isUnchanged_iff, whole.blocks_eq]
  intro block inside
  refine spent block inside (keep_of_rewrite_eq identity whole rfl ?_ ?_ block inside)
  · intro part
    cases part with
    | externalScript => exact .inl rfl
    | style =>
      cases css : (extract document identity).css with
      | none => exact .inl rfl
      | some text => exact .inr ⟨.css, rfl⟩
    | inlineScript =>
      cases js : (extract document identity).js with
      | none => exact .inl rfl
      | some text => exact .inr ⟨.js, rfl⟩
  · rw [← extract_document whole identity, same]

theorem isUnchanged_iff_content? (extraction : Extraction) :
    extraction.isUnchanged = true ↔ ∀ kind, extraction.content? kind = none := by
  simp only [Extraction.isUnchanged, Bool.and_eq_true, Option.isNone_iff_eq_none]
  exact ⟨fun both kind => by cases kind <;> [exact both.1; exact both.2], fun none => ⟨none .css, none .js⟩⟩

theorem document_ne_iff (document : List Char) (identity : String) :
    (extract document identity).document ≠ document ↔
      ∃ kind, ((extract document identity).content? kind).isSome = true := by
  have unchanged : (extract document identity).document = document ↔
      ∀ kind, (extract document identity).content? kind = none := by
    rw [← isUnchanged_iff_content?]
    exact ⟨isUnchanged_of_document_eq, document_of_isUnchanged⟩
  rw [ne_eq, unchanged, not_forall]
  simp only [Option.isSome_iff_ne_none, ne_eq]

/-- A page stays the same exactly when nothing is taken out of it, whatever text its references would
name. No asset comes from a page that stays the same, and no page changes without one. -/
theorem document_eq_iff_isUnchanged (document : List Char) (identity : String) :
    ((extract document identity).document = document ↔ (extract document identity).isUnchanged = true) ∧
      (∀ kind text, (extract document identity).content? kind = some text →
        (extract document identity).document ≠ document) ∧
      ((extract document identity).document ≠ document →
        ∃ kind text, (extract document identity).content? kind = some text) := by
  refine ⟨⟨isUnchanged_of_document_eq, document_of_isUnchanged⟩, ?_, ?_⟩
  · intro kind text taken
    exact (document_ne_iff document identity).mpr ⟨kind, by rw [taken]; rfl⟩
  · intro changed
    obtain ⟨kind, taken⟩ := (document_ne_iff document identity).mp changed
    exact ⟨kind, Option.isSome_iff_exists.mp taken⟩

theorem content?_visible {identity : String} {document text : List Char} {kind : AssetKind}
    (taken : (extract document identity).content? kind = some text) : Text.isBlank text = false := by
  cases kind with
  | css =>
    simp only [Extraction.content?, extract_css, styleOf?] at taken
    split at taken
    next => cases taken
    next visible =>
      cases taken
      exact Bool.eq_false_iff.mpr visible
  | js =>
    simp only [Extraction.content?, extract_js, scriptOf?] at taken
    split at taken
    next => cases taken
    next visible =>
      cases taken
      exact Bool.eq_false_iff.mpr fun blank => visible (Text.trim_eq_nil_iff.mpr (Text.isBlank_trim.mp blank))

end PageAssets.Page
