import PageAssets.Proofs.Page.Contents
import PageAssets.Proofs.Page.References
import PageAssets.Proofs.Page.Rewriting

/-! Pages that are written segment by segment. Taking such a page apart comes to an exchange of
segments, and what is left is again a page of segments. -/

namespace PageAssets.Markup

theorem Segment.filterMap_pieces (page : List Segment) :
    (page.flatMap Segment.pieces).filterMap Piece.block? = page.filterMap Segment.block? := by
  induction page with
  | nil => rfl
  | cons segment rest ih =>
    rw [List.flatMap_cons, List.filterMap_append, blocks_pieces, ih, List.filterMap_cons]
    cases segment.block? <;> rfl

end PageAssets.Markup

namespace PageAssets.Page
open Markup

namespace Fates

def keeping (spared : Role) (fates : Fates) : Fates := fun other =>
  if other = spared then .keep else fates other

theorem keeping_after (spared settled : Role) (fates : Fates) :
    (fates.after settled).keeping spared = (fates.keeping spared).after settled := by
  funext other
  by_cases same : other = spared <;> simp [keeping, after, same]

theorem keeping_after_self (spared : Role) (fates : Fates) :
    (fates.after spared).keeping spared = fates.keeping spared := by
  funext other
  by_cases same : other = spared <;> simp [keeping, after, same]

theorem after_of_keep {settled : Role} {fates : Fates} (kept : fates settled = .keep) :
    fates.after settled = fates := by
  funext other
  by_cases same : other = settled <;> simp [after, same, kept]

end Fates

theorem rewrite_segment_of_none {segment : Segment} (found : segment.block? = none) (fates : Fates)
    (rest : List Piece) :
    rewrite fates (segment.pieces ++ rest) = segment.render ++ rewrite fates rest := by
  rw [rewrite_append ?_, segment.text_pieces]
  have none := segment.blocks_pieces
  rw [found] at none
  simpa using none

theorem rewrite_segment_of_some {segment : Segment} {block : Block} (found : segment.block? = some block)
    (fates : Fates) (rest : List Piece) :
    rewrite fates (segment.pieces ++ rest) =
      (fates (role block)).apply block ++ rewrite (fates.after (role block)) rest := by
  cases segment <;> cases found
  rfl

/-- The first block of a sort gives way to a segment, the others of the sort go away. -/
def exchange (wanted : Block → Bool) (reference : Segment) : List Segment → List Segment
  | [] => []
  | segment :: rest =>
    if segment.block?.any wanted then reference :: rest.filter fun other => !other.block?.any wanted
    else segment :: exchange wanted reference rest

/-- Dropping the blocks of a role comes to leaving their segments out. -/
theorem rewrite_filter {part : Role} {fates : Fates} (dropped : fates part = .drop) (page : List Segment) :
    rewrite fates (page.flatMap Segment.pieces) =
      rewrite (fates.keeping part)
        ((page.filter fun segment => !segment.block?.any fun block => role block = part).flatMap Segment.pieces) := by
  induction page generalizing fates with
  | nil => rfl
  | cons segment rest ih =>
    rw [List.flatMap_cons, List.filter_cons]
    cases found : segment.block? with
    | none =>
      rw [rewrite_segment_of_none found, ih dropped]
      simp [rewrite_segment_of_none found]
    | some block =>
      rw [rewrite_segment_of_some found]
      by_cases same : role block = part
      · have still : (fates.after part) part = .drop := by simp [Fates.after, dropped, Fate.next]
        rw [same, dropped, ih still, Fates.keeping_after_self]
        simp [same, Fate.apply]
      · have still : (fates.after (role block)) part = .drop := by simp [Fates.after, Ne.symm same, dropped]
        have kept : (fates.keeping part) (role block) = fates (role block) := by simp [Fates.keeping, same]
        rw [ih still, Fates.keeping_after]
        simp [same, rewrite_segment_of_some found, kept]

theorem rewrite_untouched {fates : Fates} {reference : Segment} (external : fates .externalScript = .keep)
    (outside : ∀ block ∈ reference.block?, role block = .externalScript) (rest : List Piece) :
    rewrite fates (reference.pieces ++ rest) = reference.render ++ rewrite fates rest := by
  cases found : reference.block? with
  | none => exact rewrite_segment_of_none found _ _
  | some block =>
    rw [rewrite_segment_of_some found, outside block found, external, Fates.after_of_keep external]
    cases reference <;> cases found
    rw [Fate.apply, PlainBlock.outer_asRead]
    rfl

/-- Replacing the first block of a role and dropping the others comes to an exchange of segments. -/
theorem rewrite_exchange {part : Role} {fates : Fates} {reference : Segment}
    (replaced : fates part = .replace reference.render) (external : fates .externalScript = .keep)
    (outside : ∀ block ∈ reference.block?, role block = .externalScript) (page : List Segment) :
    rewrite fates (page.flatMap Segment.pieces) =
      rewrite (fates.keeping part)
        ((exchange (fun block => role block = part) reference page).flatMap Segment.pieces) := by
  induction page generalizing fates with
  | nil => rfl
  | cons segment rest ih =>
    rw [List.flatMap_cons, exchange]
    cases found : segment.block? with
    | none =>
      rw [rewrite_segment_of_none found, ih replaced external]
      simp [rewrite_segment_of_none found]
    | some block =>
      rw [rewrite_segment_of_some found]
      by_cases same : role block = part
      · have still : (fates.after part) part = .drop := by simp [Fates.after, replaced, Fate.next]
        have spared : (fates.keeping part) .externalScript = .keep := by simp [Fates.keeping, external]
        rw [same, replaced, rewrite_filter still, Fates.keeping_after_self]
        simp [same, Fate.apply, rewrite_untouched spared outside]
      · have still : (fates.after (role block)) part = .replace reference.render := by
          simp [Fates.after, Ne.symm same, replaced]
        have spared : (fates.after (role block)) .externalScript = .keep := by
          simp only [Fates.after, external]
          split <;> rfl
        have kept : (fates.keeping part) (role block) = fates (role block) := by simp [Fates.keeping, same]
        rw [ih still spared, Fates.keeping_after]
        simp [same, rewrite_segment_of_some found, kept]

def restyled {identity : String} (valid : isIdentity identity = true) (css : Option (List Char))
    (page : List Segment) : List Segment :=
  if css.isSome then exchange isStyle (styleReference valid) page else page

def rescripted {identity : String} (valid : isIdentity identity = true) (js : Option (List Char))
    (page : List Segment) : List Segment :=
  if js.isSome then exchange isInlineScript (scriptReference valid) page else page

section Exchanges
variable {identity : String} (valid : isIdentity identity = true) (css js : Option (List Char)) (page : List Segment)

theorem rewrite_restyled :
    rewrite (.ofContents css js identity) (page.flatMap Segment.pieces) =
      rewrite (.ofContents none js identity) ((restyled valid css page).flatMap Segment.pieces) := by
  cases css with
  | none => rfl
  | some style =>
    have styles : isStyle = fun block => decide (role block = .style) := funext isStyle_eq
    have kept : (Fates.ofContents (some style) js identity).keeping .style = .ofContents none js identity := by
      funext other
      cases other <;> rfl
    have replaced : Fates.ofContents (some style) js identity .style = .replace (styleReference valid).render := rfl
    have outside : ∀ block ∈ (styleReference valid).block?, role block = .externalScript := by
      intro block found
      cases found
    rw [rewrite_exchange replaced rfl outside, kept, restyled, styles]
    rfl

theorem rewrite_rescripted :
    rewrite (.ofContents none js identity) (page.flatMap Segment.pieces) = render (rescripted valid js page) := by
  have whole (page : List Segment) : rewrite .keepAll (page.flatMap Segment.pieces) = render page := by
    rw [rewrite_keepAll, (decomposes_render page).flatMap_text]
  cases js with
  | none => rw [Fates.ofContents_none, whole, rescripted]; rfl
  | some script =>
    have scripts : isInlineScript = fun block => decide (role block = .inlineScript) := funext isInlineScript_eq
    have kept : (Fates.ofContents none (some script) identity).keeping .inlineScript = .keepAll := by
      funext other
      cases other <;> rfl
    have replaced : Fates.ofContents none (some script) identity .inlineScript =
        .replace (scriptReference valid).render := by
      rw [render_scriptReference]
      rfl
    have outside : ∀ block ∈ (scriptReference valid).block?, role block = .externalScript := by
      intro block found
      cases found
      rfl
    rw [rewrite_exchange replaced rfl outside, kept, whole, rescripted, scripts]
    rfl

end Exchanges

def dismantle {identity : String} (valid : isIdentity identity = true) (page : List Segment) : Extraction :=
  let found := page.filterMap Segment.block?
  let css := styleOf? found
  let js := scriptOf? found
  { css, js, document := render (rescripted valid js (restyled valid css page)) }

/-- A page of segments has the blocks it was written with. What is taken out of it can be read off
the segments, and what is left is the page with segments exchanged for references. -/
theorem extract_render (page : List Segment) (identity : String) (valid : isIdentity identity = true) :
    blocks (render page) = page.filterMap Segment.block? ∧ extract (render page) identity = dismantle valid page := by
  have whole := decomposes_render page
  have found : blocks (render page) = page.filterMap Segment.block? := by
    rw [whole.blocks_eq, Segment.filterMap_pieces]
  refine ⟨found, ?_⟩
  have left := extract_document whole identity
  rw [extract_css, extract_js, found, rewrite_restyled valid, rewrite_rescripted valid] at left
  rw [dismantle, ← left, ← found, ← extract_css _ identity, ← extract_js _ identity]

def mixedPage : List Segment := [
  .text ['<', 'h', '1', '>'] rfl,
  .comment ['<', 's', 't', 'y', 'l', 'e', '>'] (by decide),
  .block ⟨.style, [], ['u'], by decide⟩,
  .block ⟨.script, [⟨['i', 'd'], [], List.cons_ne_nil _ _, rfl, List.not_mem_nil⟩], ['f', '(', ')'], by decide⟩,
  .block ⟨.style, [], ['v'], by decide⟩]

theorem extract_mixedPage :
    isIdentity "p" = true ∧ (extract (render mixedPage) "p").css = some ['u', '\n', '\n', 'v'] ∧
      (extract (render mixedPage) "p").js = some ['f', '(', ')'] ∧
        (extract (render mixedPage) "p").document =
          "<h1><!--<style>--><link rel=\"stylesheet\" href=\"/css/p.css\"><script src=\"/js/p.js\"></script>".toList := by
  rw [(extract_render mixedPage "p" (by decide)).2]
  refine ⟨by decide, by decide, by decide, by decide⟩

end PageAssets.Page
