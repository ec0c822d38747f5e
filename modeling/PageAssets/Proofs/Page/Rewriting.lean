import Mathlib.Data.List.Nodup
import PageAssets.Page.Extraction
import PageAssets.Proofs.Markup.Decomposition

/-! Taking a page apart, seen piece by piece. The edits of styles and of scripts are found apart
and sorted together; since blocks stand in order and apart, this comes to one walk over the pieces
of the page that settles what becomes of each block. -/

namespace PageAssets.Markup

theorem mem_place_start {start : Nat} {parts : List Piece} {placed : Placed}
    (member : placed ∈ place start parts) : start ≤ placed.start := by
  induction parts generalizing start with
  | nil => cases member
  | cons piece rest ih =>
    rw [place] at member
    split at member
    next block found =>
      rcases List.mem_cons.mp member with rfl | later
      · exact Nat.le_refl _
      · have := ih later
        omega
    next =>
      have := ih member
      omega

/-- Blocks stand in order and apart from each other, and none is empty. -/
theorem Decomposes.place_pairwise {document : List Char} {parts : List Piece}
    (whole : Decomposes document parts) (start : Nat) :
    (place start parts).Pairwise fun first second =>
      first.start < first.span.stop ∧ first.span.stop ≤ second.start := by
  induction whole generalizing start with
  | nil => exact .nil
  | @cons _ _ piece others first further ih =>
    rw [place]
    split
    next block found =>
      refine .cons ?_ (ih _)
      intro later member
      cases first <;> cases found
      refine ⟨?_, mem_place_start member⟩
      simp only [Placed.span, Block.outer, List.cons_append, Text.byteSize_cons]
      have := Char.utf8Size_pos '<'
      omega
    next => exact ih _

theorem map_block_place (start : Nat) (parts : List Piece) :
    (place start parts).map Placed.block = parts.filterMap Piece.block? := by
  induction parts generalizing start with
  | nil => rfl
  | cons piece rest ih =>
    rw [place, List.filterMap_cons]
    cases piece.block? <;> simp [ih]

theorem Decomposes.blocks_eq {document : List Char} {parts : List Piece}
    (whole : Decomposes document parts) : blocks document = parts.filterMap Piece.block? := by
  rw [blocks, placedBlocks, whole.blocks_eq_place, map_block_place]

end PageAssets.Markup

namespace PageAssets.Page
open Markup

/-- What becomes of the next block of a role. -/
inductive Fate where
  | keep
  /-- This block is replaced, and those after it are dropped. -/
  | replace (reference : List Char)
  | drop
  deriving DecidableEq, Repr

namespace Fate

def apply (fate : Fate) (block : Block) : List Char :=
  match fate with
  | keep => block.outer
  | replace reference => reference
  | drop => []

def next : Fate → Fate
  | keep => keep
  | replace _ => drop
  | drop => drop

@[simp] theorem next_keep : keep.next = keep := rfl

def edit? (fate : Fate) (placed : Placed) : Option Edit :=
  match fate with
  | keep => none
  | replace reference => some ⟨placed.span, reference⟩
  | drop => some ⟨placed.span, []⟩

def edits (fate : Fate) : List Placed → List Edit
  | [] => []
  | placed :: rest => (fate.edit? placed).toList ++ fate.next.edits rest

def ofContent (kind : AssetKind) (identity : String) (content : Option (List Char)) : Fate :=
  match content with
  | none => keep
  | some _ => replace (kind.referenceTag identity).toList

theorem edits_keep (found : List Placed) : keep.edits found = [] := by
  induction found with
  | nil => rfl
  | cons placed rest ih => simpa [edits, edit?, next] using ih

theorem edits_drop (found : List Placed) :
    drop.edits found = found.map fun placed => ⟨placed.span, []⟩ := by
  induction found with
  | nil => rfl
  | cons placed rest ih => simpa [edits, edit?, next] using ih

theorem edits_ofContent (kind : AssetKind) (identity : String) (content : Option (List Char))
    (found : List Placed) : (ofContent kind identity content).edits found =
      referenceEdits kind identity content found := by
  cases content with
  | none => exact edits_keep found
  | some text =>
    cases found with
    | nil => rfl
    | cons placed rest => simp [ofContent, edits, edit?, next, edits_drop, referenceEdits, collapse]

end Fate

def Fates := Role → Fate

namespace Fates

def ofContents (css js : Option (List Char)) (identity : String) : Fates
  | .style => .ofContent .css identity css
  | .inlineScript => .ofContent .js identity js
  | .externalScript => .keep

def after (fates : Fates) (settled : Role) : Fates := fun other =>
  if other = settled then (fates other).next else fates other

def keepAll : Fates := fun _ => .keep

@[simp] theorem after_keepAll (settled : Role) : keepAll.after settled = keepAll := by
  funext other
  simp [after, keepAll]

@[simp] theorem ofContents_none (identity : String) : ofContents none none identity = keepAll := by
  funext part
  cases part <;> rfl

def edits (fates : Fates) : List Placed → List Edit
  | [] => []
  | placed :: rest =>
    ((fates (role placed.block)).edit? placed).toList ++ (fates.after (role placed.block)).edits rest

def texts (fates : Fates) : List Block → List (List Char)
  | [] => []
  | block :: rest => (fates (role block)).apply block :: (fates.after (role block)).texts rest

end Fates

/-- The text of a page when its blocks meet their fates. -/
def rewrite (fates : Fates) : List Piece → List Char
  | [] => []
  | piece :: rest =>
    match piece.block? with
    | none => piece.text ++ rewrite fates rest
    | some block => (fates (role block)).apply block ++ rewrite (fates.after (role block)) rest

theorem rewrite_keepAll (parts : List Piece) : rewrite .keepAll parts = parts.flatMap Piece.text := by
  induction parts with
  | nil => rfl
  | cons piece rest ih =>
    rw [rewrite, List.flatMap_cons]
    cases found : piece.block? with
    | none => simp only [ih]
    | some block =>
      obtain rfl : piece = .block block := by cases piece <;> cases found; rfl
      simp only [Fates.after_keepAll, ih]
      rfl

theorem rewrite_append {first : List Piece} (blockless : ∀ piece ∈ first, piece.block? = none)
    (fates : Fates) (rest : List Piece) :
    rewrite fates (first ++ rest) = first.flatMap Piece.text ++ rewrite fates rest := by
  induction first with
  | nil => rfl
  | cons piece others ih =>
    have none := blockless piece List.mem_cons_self
    have further := ih fun other inside => blockless other (List.mem_cons_of_mem _ inside)
    simp [rewrite, none, further]

/-- The edits of both roles together are those in the order of the page. -/
theorem Fates.edits_perm (fates : Fates) (found : List Placed) (external : fates .externalScript = .keep) :
    (fates.edits found).Perm
      ((fates .style).edits (found.filter fun placed => role placed.block = .style) ++
        (fates .inlineScript).edits (found.filter fun placed => role placed.block = .inlineScript)) := by
  induction found generalizing fates with
  | nil => exact .refl _
  | cons placed rest ih =>
    have kept : (fates.after (role placed.block)) .externalScript = .keep := by
      simp only [Fates.after, external]
      split <;> rfl
    have further := ih (fates.after (role placed.block)) kept
    rw [Fates.edits]
    cases part : role placed.block with
    | style =>
      simp only [part, Fates.after] at further
      simpa [part, Fate.edits] using further.append_left _
    | inlineScript =>
      simp only [part, Fates.after] at further
      simpa [part, Fate.edits] using (further.append_left _).trans (List.perm_append_comm_assoc _ _ _)
    | externalScript =>
      simp only [part, Fates.after] at further
      simpa [part, external, Fate.edit?] using further

theorem Fates.spans_edits (fates : Fates) (found : List Placed) :
    ((fates.edits found).map Edit.span).Sublist (found.map Placed.span) := by
  induction found generalizing fates with
  | nil => exact List.Sublist.refl _
  | cons placed rest ih =>
    rw [Fates.edits, List.map_append, List.map_cons]
    have further := ih (fates.after (role placed.block))
    cases fate : fates (role placed.block) with
    | keep => exact further.cons _
    | replace | drop => exact further.cons_cons _

/-- Sorting the edits of both roles puts them into the order of the page. -/
theorem Fates.sort_edits (fates : Fates) {document : List Char} {parts : List Piece}
    (whole : Decomposes document parts) (start : Nat) {edits : List Edit}
    (both : (fates.edits (place start parts)).Perm edits) :
    sortEdits edits = fates.edits (place start parts) := by
  have spans : ((place start parts).map Placed.span).Pairwise fun first second =>
      first.start < second.start :=
    List.pairwise_map.mpr ((whole.place_pairwise start).imp fun before => Nat.lt_of_lt_of_le before.1 before.2)
  have apart := spans.sublist (fates.spans_edits _)
  rw [List.pairwise_map] at apart
  have distinct : ((fates.edits (place start parts)).map fun edit => edit.span.start).Nodup :=
    List.nodup_iff_pairwise_ne.mpr (List.pairwise_map.mpr (apart.imp Nat.ne_of_lt))
  have ordered : (sortEdits edits).Pairwise fun first second => decide (first.span.start ≤ second.span.start) = true :=
    List.pairwise_mergeSort (fun _ _ _ => by simpa using Nat.le_trans) (fun _ _ => by simpa using Nat.le_total _ _) edits
  have sorted := ordered.imp of_decide_eq_true
  have same : (sortEdits edits).Perm (fates.edits (place start parts)) :=
    (List.mergeSort_perm edits _).trans both.symm
  refine List.Perm.eq_of_pairwise ?_ sorted (apart.imp Nat.le_of_lt) same
  intro first second member other before after
  exact List.inj_on_of_nodup_map distinct (same.subset member) other (Nat.le_antisymm before after)

/-- An edit takes the text up to it from a gap, and what is left starts behind its block. -/
theorem applyFrom_cons (cursor : Nat) (gap rest replacement : List Char) (block : Block) (edits : List Edit) :
    let placed : Placed := ⟨cursor + Text.byteSize gap, block⟩
    applyFrom cursor (gap ++ (block.outer ++ rest)) (⟨placed.span, replacement⟩ :: edits) =
      gap ++ replacement ++ applyFrom placed.span.stop rest edits := by
  have before : cursor + Text.byteSize gap - cursor = Text.byteSize gap := by omega
  have behind : cursor + Text.byteSize gap + Text.byteSize block.outer - cursor =
      Text.byteSize (gap ++ block.outer) := by
    rw [Text.byteSize_append]
    omega
  simp only [applyFrom, Placed.span, before, behind]
  rw [Text.takeBytes_byteSize, ← List.append_assoc gap block.outer, Text.dropBytes_byteSize]

/-- Making the edits in one pass comes to the walk over the pieces. The gap is the text in front of
the pieces that the cursor has not passed yet. -/
theorem applyFrom_place (fates : Fates) (parts : List Piece) (cursor : Nat) (gap : List Char) :
    applyFrom cursor (gap ++ parts.flatMap Piece.text)
        (fates.edits (place (cursor + Text.byteSize gap) parts)) =
      gap ++ rewrite fates parts := by
  induction parts generalizing fates cursor gap with
  | nil => simp [place, Fates.edits, applyFrom, rewrite]
  | cons piece rest ih =>
    have passed (fates : Fates) := ih fates cursor (gap ++ piece.text)
    simp only [Text.byteSize_append, ← Nat.add_assoc, List.append_assoc] at passed
    have reached (fates : Fates) (start : Nat) := ih fates start []
    simp only [List.nil_append, Text.byteSize_nil, Nat.add_zero] at reached
    rw [List.flatMap_cons, place, rewrite]
    cases found : piece.block? with
    | none => exact passed fates
    | some block =>
      obtain rfl : piece = .block block := by cases piece <;> cases found; rfl
      simp only [Piece.text] at passed ⊢
      rw [Fates.edits]
      cases fate : fates (role block) with
      | keep => exact passed _
      | replace | drop =>
        simp only [Fate.edit?, Option.toList_some, List.singleton_append, applyFrom_cons]
        simp [Placed.span, reached, Fate.apply]

/-- Making the sorted edits of both roles comes to the walk over the pieces. -/
theorem applyEdits_sort {document : List Char} {parts : List Piece} (whole : Decomposes document parts)
    (fates : Fates) {edits : List Edit} (both : (fates.edits (place 0 parts)).Perm edits) :
    applyEdits document (sortEdits edits) = rewrite fates parts := by
  have walk := applyFrom_place fates parts 0 []
  simp only [List.nil_append, Text.byteSize_nil, Nat.add_zero, whole.flatMap_text] at walk
  rw [fates.sort_edits whole 0 both, applyEdits, walk]

theorem extract_document {document : List Char} {parts : List Piece} (whole : Decomposes document parts)
    (identity : String) :
    (extract document identity).document =
      rewrite (.ofContents (extract document identity).css (extract document identity).js identity) parts := by
  have found : placedBlocks document = place 0 parts := whole.blocks_eq_place 0
  rw [← applyEdits_sort whole _ (Fates.edits_perm _ _ rfl)]
  simp [extract, found, Fates.ofContents, Fate.edits_ofContent]

end PageAssets.Page
