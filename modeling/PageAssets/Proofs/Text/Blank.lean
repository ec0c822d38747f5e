import Mathlib.Data.List.TakeWhile
import PageAssets.Text.Blank

/-! When nothing is left of a text once it is trimmed. -/

namespace PageAssets.Text

theorem trimStart_eq_nil_iff {text : List Char} : trimStart text = [] ↔ isBlank text = true := by
  rw [trimStart, List.dropWhile_eq_nil_iff, isBlank, List.all_eq_true]

theorem trim_eq_nil_iff {text : List Char} : trim text = [] ↔ isBlank text = true := by
  have whole := List.takeWhile_append_dropWhile (p := isBlankChar) (l := text)
  rw [trim, trimEnd, List.reverse_eq_nil_iff, trimStart_eq_nil_iff, isBlank, List.all_reverse]
  constructor
  · intro rest
    rw [← whole, isBlank, List.all_append, Bool.and_eq_true]
    exact ⟨List.all_takeWhile, rest⟩
  · intro blank
    rw [trimStart_eq_nil_iff.mpr blank]
    rfl

theorem trimStart_eq_nil_of_isBlank {text : List Char} (blank : isBlank (trimStart text) = true) :
    trimStart text = [] := by
  cases rest : trimStart text with
  | nil => rfl
  | cons c others =>
    have stopped := List.head?_dropWhile_not isBlankChar text
    rw [← trimStart, rest] at stopped
    rw [rest, isBlank, List.all_cons] at blank
    simp_all

/-- Trimming leaves nothing blank but the empty text. -/
theorem isBlank_trim {text : List Char} : isBlank (trim text) = true ↔ isBlank text = true := by
  constructor
  · intro blank
    rw [trim, trimEnd, isBlank, List.all_reverse] at blank
    refine trim_eq_nil_iff.mp ?_
    rw [trim, trimEnd, trimStart_eq_nil_of_isBlank blank]
    rfl
  · intro blank
    rw [trim_eq_nil_iff.mpr blank]
    rfl

/-- Texts put together with blank space in between are blank exactly when each of them is. -/
theorem isBlank_intercalate {separator : List Char} (blank : isBlank separator = true) (texts : List (List Char)) :
    isBlank (separator.intercalate texts) = true ↔ ∀ text ∈ texts, isBlank text = true := by
  induction texts with
  | nil => simp [isBlank]
  | cons text rest ih =>
    cases rest with
    | nil => simp
    | cons next others =>
      rw [List.intercalate_cons_cons, isBlank, List.all_append, List.all_append]
      rw [isBlank] at blank ih
      simp [blank, ih, isBlank]

end PageAssets.Text
