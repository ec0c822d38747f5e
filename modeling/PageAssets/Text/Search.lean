/-! Cutting a text at the first place where something is recognised. A recogniser reads from a
place and returns what is behind the thing it recognises there. Main statement: the place found is
the first one that the recogniser accepts. -/

namespace PageAssets.Text

/-- The text before the first place that `recognise` accepts, and the text behind what is
recognised there. -/
def cutAtFirst? (recognise : List Char → Option (List Char)) :
    List Char → Option (List Char × List Char)
  | [] => (recognise []).map ([], ·)
  | c :: rest =>
    match recognise (c :: rest) with
    | some behind => some ([], behind)
    | none => (cutAtFirst? recognise rest).map fun (before, behind) => (c :: before, behind)

def cutAtMark? (mark text : List Char) : Option (List Char × List Char) :=
  cutAtFirst? mark.isPrefixOf? text

/-- The part of a text in front of its ending `rest`. -/
def upTo (rest text : List Char) : List Char := text.take (text.length - rest.length)

theorem upTo_append {rest text : List Char} (ending : rest <:+ text) :
    upTo rest text ++ rest = text := by
  obtain ⟨front, rfl⟩ := ending
  simp [upTo]

@[simp] theorem upTo_append_self (front rest : List Char) : upTo rest (front ++ rest) = front := by
  simp [upTo]

@[simp] theorem isPrefixOf?_nil (text : List Char) : List.isPrefixOf? [] text = some text := by
  cases text <;> rfl

theorem isPrefixOf?_cons (sign c : Char) (mark text : List Char) :
    (sign :: mark).isPrefixOf? (c :: text) = if c = sign then mark.isPrefixOf? text else none := by
  have here : (sign :: mark).isPrefixOf? (c :: text) = if sign == c then mark.isPrefixOf? text else none := rfl
  simp only [here, beq_iff_eq, eq_comm (a := sign)]

theorem isPrefixOf?_suffix {mark text rest : List Char} (found : mark.isPrefixOf? text = some rest) : rest <:+ text := by
  induction mark generalizing text with
  | nil =>
    cases found
    exact List.suffix_refl _
  | cons sign mark ih =>
    cases text with
    | nil => cases found
    | cons c text =>
      rw [isPrefixOf?_cons] at found
      split at found
      next => exact (ih found).trans (List.suffix_cons c text)
      next => cases found

theorem cutAtFirst?_eq_none_iff {recognise : List Char → Option (List Char)} {text : List Char} :
    cutAtFirst? recognise text = none ↔ ∀ front here, text = front ++ here → recognise here = none := by
  induction text with
  | nil => simp [cutAtFirst?]
  | cons c rest ih =>
    rw [cutAtFirst?]
    split
    next behind accepted =>
      simp only [reduceCtorEq, false_iff]
      intro never
      cases accepted.symm.trans (never [] _ rfl)
    next refused =>
      rw [Option.map_eq_none_iff, ih]
      refine ⟨?_, fun never front here split => never (c :: front) here (by rw [split]; rfl)⟩
      intro never front here split
      cases front with
      | nil => rw [← refused, split, List.nil_append]
      | cons first front => exact never front here (List.cons.inj split).2

/-- The place found is one that the recogniser accepts, and no earlier place is. -/
theorem cutAtFirst?_eq_some_iff {recognise : List Char → Option (List Char)}
    {text before behind : List Char} :
    cutAtFirst? recognise text = some (before, behind) ↔
      ∃ here, text = before ++ here ∧ recognise here = some behind ∧
        ∀ front place, text = front ++ place → front.length < before.length → recognise place = none := by
  induction text generalizing before with
  | nil =>
    simp only [cutAtFirst?, Option.map_eq_some_iff, Prod.mk.injEq]
    constructor
    · intro facts
      obtain ⟨rest, accepted, rfl, rfl⟩ := facts
      exact ⟨[], rfl, accepted, by simp⟩
    · intro facts
      obtain ⟨here, split, accepted, -⟩ := facts
      obtain ⟨rfl, rfl⟩ := List.append_eq_nil_iff.mp split.symm
      exact ⟨behind, accepted, rfl, rfl⟩
  | cons c rest ih =>
    rw [cutAtFirst?]
    split
    next found accepted =>
      simp only [Option.some.injEq, Prod.mk.injEq]
      constructor
      · intro facts
        obtain ⟨rfl, rfl⟩ := facts
        exact ⟨c :: rest, rfl, accepted, by simp⟩
      · intro facts
        obtain ⟨here, split, reached, first⟩ := facts
        cases before with
        | nil => exact ⟨rfl, Option.some.inj (accepted.symm.trans ((congrArg recognise split).trans reached))⟩
        | cons d before => cases accepted.symm.trans (first [] _ rfl (by simp))
    next refused =>
      simp only [Option.map_eq_some_iff, Prod.exists, Prod.mk.injEq]
      constructor
      · intro facts
        obtain ⟨front, tail, found, rfl, rfl⟩ := facts
        obtain ⟨here, split, accepted, first⟩ := ih.mp found
        refine ⟨here, by rw [split]; rfl, accepted, ?_⟩
        intro earlier place cut shorter
        cases earlier with
        | nil => rw [← refused, cut, List.nil_append]
        | cons d earlier => exact first earlier place (List.cons.inj cut).2 (by simpa using shorter)
      · intro facts
        obtain ⟨here, split, accepted, first⟩ := facts
        cases before with
        | nil => cases refused.symm.trans ((congrArg recognise split).trans accepted)
        | cons d before =>
          obtain ⟨rfl, tail⟩ := List.cons.inj split
          refine ⟨before, behind, ih.mpr ⟨here, tail, accepted, ?_⟩, rfl, rfl⟩
          intro earlier place cut shorter
          exact first (c :: earlier) place (by rw [cut]; rfl) (by simpa using shorter)

theorem cutAtFirst?_suffix {recognise : List Char → Option (List Char)} {text before behind : List Char}
    (inside : ∀ here rest, recognise here = some rest → rest <:+ here)
    (found : cutAtFirst? recognise text = some (before, behind)) : behind <:+ text.drop before.length := by
  obtain ⟨here, rfl, accepted, -⟩ := cutAtFirst?_eq_some_iff.mp found
  simpa using inside _ _ accepted

end PageAssets.Text
