import Mathlib.Data.List.Basic
import PageAssets.Text.Search

/-! Searching for words that cannot overlap. The text in front of the first word found is then the
longest one without such a word inside, whatever follows it. -/

namespace PageAssets.Text

@[simp] theorem isPrefixOf?_append (mark rest : List Char) : mark.isPrefixOf? (mark ++ rest) = some rest :=
  List.isPrefixOf?_eq_some_iff_append_eq.mpr rfl

theorem cutAtMark?_singleton (sign : Char) (text : List Char) :
    cutAtMark? [sign] text =
      match text.dropWhile (· != sign) with
      | [] => none
      | _ :: rest => some (text.takeWhile (· != sign), rest) := by
  induction text with
  | nil => rfl
  | cons c rest ih =>
    rw [cutAtMark?] at ih ⊢
    by_cases same : c = sign
    · simp [cutAtFirst?, isPrefixOf?_cons, same]
    · rw [cutAtFirst?, isPrefixOf?_cons, if_neg same, ih, List.dropWhile_cons_of_pos (by simp [same]),
        List.takeWhile_cons_of_pos (by simp [same])]
      cases rest.dropWhile (· != sign) <;> rfl

theorem cutAtFirst?_of_some {recognise : List Char → Option (List Char)} {text rest : List Char}
    (accepted : recognise text = some rest) : cutAtFirst? recognise text = some ([], rest) := by
  cases text with
  | nil => rw [cutAtFirst?, accepted, Option.map_some]
  | cons c text => rw [cutAtFirst?, accepted]

/-- Places that are refused are passed over. -/
theorem cutAtFirst?_append {recognise : List Char → Option (List Char)} {front rest : List Char}
    (refused : ∀ earlier inside, front = earlier ++ inside → inside ≠ [] → recognise (inside ++ rest) = none) :
    cutAtFirst? recognise (front ++ rest) =
      (cutAtFirst? recognise rest).map fun parts => (front ++ parts.1, parts.2) := by
  induction front with
  | nil => simp
  | cons c front ih =>
    have here := refused [] (c :: front) rfl (List.cons_ne_nil _ _)
    rw [List.cons_append] at here
    rw [List.cons_append, cutAtFirst?, here]
    simp only
    rw [ih fun earlier inside split => refused (c :: earlier) inside (congrArg (c :: ·) split), Option.map_map]
    rfl

theorem cutAtMark?_eq_none_iff {mark text : List Char} : cutAtMark? mark text = none ↔ ¬ mark <:+: text := by
  rw [cutAtMark?, cutAtFirst?_eq_none_iff]
  constructor
  · intro never facts
    obtain ⟨front, back, rfl⟩ := facts
    cases (isPrefixOf?_append mark back).symm.trans (never front _ (List.append_assoc _ _ _))
  · intro absent front here split
    apply Option.eq_none_iff_forall_ne_some.mpr
    intro rest accepted
    rw [← List.isPrefixOf?_eq_some_iff_append_eq.mp accepted, ← List.append_assoc] at split
    exact absent ⟨front, rest, split.symm⟩

/-- A recogniser that accepts exactly the places where some word starts. Two words never share a
part of the text, so a word that starts in front of another one also ends in front of it. -/
structure Recognises (recognise : List Char → Option (List Char)) (word : List Char → Prop) : Prop where
  reads : ∀ text rest, recognise text = some rest ↔ ∃ found, word found ∧ text = found ++ rest
  nonempty : ¬ word []
  apart : ∀ front back found rest tail, word (front ++ back) → word found → front ≠ [] → back ≠ [] →
    back ++ rest ≠ found ++ tail

variable {recognise : List Char → Option (List Char)} {word : List Char → Prop}

theorem Recognises.accepts (reader : Recognises recognise word) {found : List Char} (known : word found)
    (rest : List Char) : recognise (found ++ rest) = some rest :=
  (reader.reads _ _).mpr ⟨found, known, rfl⟩

theorem Recognises.cut_eq_none_iff (reader : Recognises recognise word) {text : List Char} :
    cutAtFirst? recognise text = none ↔ ∀ found, word found → ¬ found <:+: text := by
  rw [cutAtFirst?_eq_none_iff]
  constructor
  · intro never found known facts
    obtain ⟨front, back, rfl⟩ := facts
    cases (reader.accepts known back).symm.trans (never front _ (List.append_assoc _ _ _))
  · intro absent front here split
    apply Option.eq_none_iff_forall_ne_some.mpr
    intro rest accepted
    obtain ⟨found, known, rfl⟩ := (reader.reads _ _).mp accepted
    exact absent found known ⟨front, rest, by rw [split, List.append_assoc]⟩

/-- The first word is the one without any word in front of it. -/
theorem Recognises.cut_eq_some_iff (reader : Recognises recognise word) {text before behind : List Char} :
    cutAtFirst? recognise text = some (before, behind) ↔
      ∃ found, word found ∧ text = before ++ found ++ behind ∧ ∀ other, word other → ¬ other <:+: before := by
  rw [cutAtFirst?_eq_some_iff]
  constructor
  · intro facts
    obtain ⟨here, rfl, accepted, first⟩ := facts
    obtain ⟨found, known, rfl⟩ := (reader.reads _ _).mp accepted
    refine ⟨found, known, (List.append_assoc _ _ _).symm, ?_⟩
    intro other early facts
    obtain ⟨front, back, rfl⟩ := facts
    have some := reader.accepts early (back ++ (found ++ behind))
    have shorter : front.length < (front ++ other ++ back).length := by
      have := List.length_pos_iff.mpr (fun empty => reader.nonempty (empty ▸ early))
      simp only [List.length_append]
      omega
    cases some.symm.trans (first front _ (by simp) shorter)
  · intro facts
    obtain ⟨found, known, rfl, absent⟩ := facts
    refine ⟨found ++ behind, List.append_assoc _ _ _, reader.accepts known behind, ?_⟩
    intro front place split shorter
    apply Option.eq_none_iff_forall_ne_some.mpr
    intro rest accepted
    obtain ⟨other, early, rfl⟩ := (reader.reads _ _).mp accepted
    rw [List.append_assoc] at split
    rcases List.append_eq_append_iff.mp split with ⟨tail, rfl, -⟩ | ⟨tail, rfl, place⟩
    · simp only [List.length_append] at shorter
      omega
    · have remains : tail ≠ [] := by
        rintro rfl
        simp at shorter
      rcases List.append_eq_append_iff.mp place with ⟨more, rfl, -⟩ | ⟨reach, rfl, meets⟩
      · exact absent other early ⟨front, more, List.append_assoc _ _ _⟩
      · by_cases inside : reach = []
        · subst inside
          exact absent tail (by simpa using early) ⟨front, [], by simp⟩
        · exact reader.apart tail reach found rest behind early known remains inside meets.symm

end PageAssets.Text
