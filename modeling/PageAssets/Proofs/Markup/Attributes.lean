import PageAssets.Markup.Tag

/-! An opening tag that closes is read the same whatever follows it, or if nothing follows. Quotes are
the only thing that looks ahead, and one that is closed has been closed inside of the tag. -/

namespace PageAssets.Markup

section Steps
variable {text rest behind : List Char} {c : Char} {first : Attribute}

theorem readAttribute_of_equals (assigned : (text.dropWhile isNameChar).dropWhile isSpace = '=' :: rest) :
    readAttribute text =
      (⟨text.takeWhile isNameChar, (readValue (rest.dropWhile isSpace)).1⟩,
        (readValue (rest.dropWhile isSpace)).2) := by
  rw [readAttribute, assigned]
  rfl

theorem readAttribute_of_ne_equals (unassigned : ∀ more, (text.dropWhile isNameChar).dropWhile isSpace ≠ '=' :: more) :
    readAttribute text =
      (⟨text.takeWhile isNameChar, none⟩, some ((text.dropWhile isNameChar).dropWhile isSpace)) := by
  rw [readAttribute]
  split
  next behind assigned => exact absurd assigned (unassigned behind)
  next => rfl

theorem readAttributes_of_blank (separated : text.dropWhile isSeparator = []) :
    readAttributes text = ([], none) := by
  rw [readAttributes]
  split <;> simp_all

theorem readAttributes_of_closed (separated : text.dropWhile isSeparator = '>' :: rest) :
    readAttributes text = ([], some rest) := by
  rw [readAttributes]
  split <;> simp_all

theorem readAttributes_of_closing (separated : text.dropWhile isSeparator = c :: rest) (inside : c ≠ '>')
    (read : readAttribute (c :: rest) = (first, some behind)) :
    readAttributes text = (first :: (readAttributes behind).1, (readAttributes behind).2) := by
  rw [readAttributes]
  split
  next empty => simp_all
  next d tail same =>
    obtain ⟨rfl, rfl⟩ := List.cons.inj (separated.symm.trans same)
    simp only [inside, ↓reduceDIte]
    split <;> simp_all

theorem readAttributes_of_open (separated : text.dropWhile isSeparator = c :: rest) (inside : c ≠ '>')
    (read : readAttribute (c :: rest) = (first, none)) : readAttributes text = ([first], none) := by
  rw [readAttributes]
  split
  next empty => simp_all
  next d tail same =>
    obtain ⟨rfl, rfl⟩ := List.cons.inj (separated.symm.trans same)
    simp only [inside, ↓reduceDIte]
    split <;> simp_all

end Steps

/-- A run that stops inside of a text stops there whatever follows the text. -/
theorem dropWhile_append_of_stops {p : Char → Bool} {text rest : List Char} {c : Char}
    (stops : text.dropWhile p = c :: rest) (more : List Char) :
    (text ++ more).dropWhile p = c :: (rest ++ more) := by
  simp [List.dropWhile_append, stops]

theorem takeWhile_append_of_stops {p : Char → Bool} {text rest : List Char} {c : Char}
    (stops : text.dropWhile p = c :: rest) (more : List Char) :
    (text ++ more).takeWhile p = text.takeWhile p := by
  have whole := congrArg List.length (List.takeWhile_append_dropWhile (p := p) (l := text))
  rw [stops, List.length_append, List.length_cons] at whole
  rw [List.takeWhile_append, if_neg (by omega)]

theorem readValue_append {text rest : List Char} {value : Option (List Char)}
    (read : readValue text = (value, some rest)) (remains : rest ≠ []) (more : List Char) :
    readValue (text ++ more) = (value, some (rest ++ more)) := by
  cases text with
  | nil =>
    obtain ⟨-, empty⟩ := Prod.mk.inj read
    exact absurd (Option.some.inj empty).symm remains
  | cons c tail =>
    rw [readValue] at read
    rw [List.cons_append, readValue]
    split at read
    next quote =>
      rw [if_pos quote]
      split at read
      next => cases (Prod.mk.inj read).2
      next d behind closed =>
        cases read
        rw [dropWhile_append_of_stops closed, takeWhile_append_of_stops closed]
    next bare =>
      rw [if_neg bare, ← List.cons_append]
      obtain ⟨rfl, ended⟩ := Prod.mk.inj read
      obtain ⟨d, behind, rfl⟩ := List.exists_cons_of_ne_nil remains
      have stops := Option.some.inj ended
      rw [dropWhile_append_of_stops stops, takeWhile_append_of_stops stops]
      rfl

theorem readAttribute_append {text rest : List Char} {first : Attribute}
    (read : readAttribute text = (first, some rest)) (remains : rest ≠ []) (more : List Char) :
    readAttribute (text ++ more) = (first, some (rest ++ more)) := by
  have named : text.dropWhile isNameChar ≠ [] := by
    intro empty
    rw [readAttribute, empty] at read
    exact remains (by simpa using (Prod.mk.inj read).2.symm)
  obtain ⟨c, tail, name⟩ := List.exists_cons_of_ne_nil named
  have spaced : (c :: tail).dropWhile isSpace ≠ [] := by
    intro empty
    rw [readAttribute, name, empty] at read
    exact remains (by simpa using (Prod.mk.inj read).2.symm)
  obtain ⟨d, behind, space⟩ := List.exists_cons_of_ne_nil spaced
  have moved := dropWhile_append_of_stops space more
  rw [List.cons_append] at moved
  rw [readAttribute, name, space] at read
  rw [readAttribute, takeWhile_append_of_stops name, dropWhile_append_of_stops name, moved]
  by_cases equals : d = '='
  · subst equals
    simp only [Prod.mk.injEq] at read
    obtain ⟨rfl, ended⟩ := read
    have valued : behind.dropWhile isSpace ≠ [] := by
      intro empty
      rw [empty] at ended
      exact remains (Option.some.inj ended).symm
    obtain ⟨e, inside, value⟩ := List.exists_cons_of_ne_nil valued
    have further := readValue_append (Prod.ext rfl ended) remains more
    rw [value, List.cons_append] at further
    simp only [dropWhile_append_of_stops value, further, value]
  · split at read
    next others same => exact absurd (List.cons.inj same).1 equals
    next =>
      cases read
      split
      next others same => exact absurd (List.cons.inj same).1 equals
      next => rfl

/-- A tag that closes is read the same whatever follows it. -/
theorem readAttributes_append {text rest : List Char} (closed : (readAttributes text).2 = some rest)
    (more : List Char) : readAttributes (text ++ more) = ((readAttributes text).1, some (rest ++ more)) := by
  fun_induction readAttributes text with
  | case1 => cases closed
  | case2 text behind separated =>
    cases closed
    exact readAttributes_of_closed (dropWhile_append_of_stops separated more)
  | case3 => cases closed
  | case4 text c behind separated inside first tail ended others ih =>
    have remains : tail ≠ [] := by
      rintro rfl
      have blank : readAttributes [] = ([], none) := readAttributes_of_blank rfl
      cases (congrArg Prod.snd blank).symm.trans closed
    have same := readAttribute_append (Prod.ext rfl ended) remains more
    rw [readAttributes_of_closing (dropWhile_append_of_stops separated more) inside same, ih closed]

theorem readAttributes_ends {text rest : List Char} (closed : (readAttributes text).2 = some rest) :
    ∃ front, text = front ++ '>' :: rest := by
  fun_induction readAttributes text with
  | case1 => cases closed
  | case2 text behind separated =>
    cases closed
    have whole := List.takeWhile_append_dropWhile (p := isSeparator) (l := text)
    rw [separated] at whole
    exact ⟨_, whole.symm⟩
  | case3 => cases closed
  | case4 text c behind separated inside first tail ended others ih =>
    obtain ⟨front, rfl⟩ := ih closed
    obtain ⟨taken, split⟩ := (readAttribute_suffix ended).trans (separated ▸ List.dropWhile_suffix isSeparator)
    exact ⟨taken ++ front, by rw [← split, List.append_assoc]⟩

section Cutting
variable {text inside more : List Char}

/-- A run that stops in front of a common end stops there without it. -/
theorem dropWhile_of_append {p : Char → Bool} (stops : (text ++ more).dropWhile p = inside ++ more)
    (remains : inside ≠ []) : text.dropWhile p = inside := by
  rw [List.dropWhile_append] at stops
  split at stops
  next =>
    have shorter := (List.dropWhile_suffix (l := more) p).length_le
    have := List.length_pos_iff.mpr remains
    rw [stops, List.length_append] at shorter
    omega
  next => exact List.append_cancel_right stops

/-- A run that leaves some of a text in front of a common end leaves that of the text alone. -/
theorem exists_of_dropWhile_append {p : Char → Bool} (ends : inside ++ more <:+ (text ++ more).dropWhile p)
    (remains : inside ≠ []) :
    ∃ front, (text ++ more).dropWhile p = front ++ inside ++ more ∧ text.dropWhile p = front ++ inside := by
  obtain ⟨front, split⟩ := ends
  rw [← List.append_assoc] at split
  exact ⟨front, split.symm, dropWhile_of_append split.symm (by simp [remains])⟩

theorem readValue_of_append {value : Option (List Char)}
    (read : readValue (text ++ more) = (value, some (inside ++ more))) (remains : inside ≠ []) :
    readValue text = (value, some inside) := by
  cases text with
  | nil =>
    have shorter := (readValue_suffix (congrArg Prod.snd read)).length_le
    have := List.length_pos_iff.mpr remains
    simp only [List.nil_append, List.length_append] at shorter
    omega
  | cons c tail =>
    rw [List.cons_append, readValue] at read
    rw [readValue]
    split at read
    next quote =>
      rw [if_pos quote]
      split at read
      next => cases (Prod.mk.inj read).2
      next d behind closed =>
        obtain ⟨rfl, ended⟩ := Prod.mk.inj read
        obtain rfl := Option.some.inj ended
        have stops : tail.dropWhile (· != c) = d :: inside := dropWhile_of_append closed (List.cons_ne_nil _ _)
        rw [stops, takeWhile_append_of_stops stops]
    next bare =>
      rw [if_neg bare]
      obtain ⟨rfl, ended⟩ := Prod.mk.inj read
      have stops : (c :: tail).dropWhile isBareValueChar = inside :=
        dropWhile_of_append (Option.some.inj ended) remains
      obtain ⟨d, behind, rfl⟩ := List.exists_cons_of_ne_nil remains
      rw [stops, ← List.cons_append, takeWhile_append_of_stops stops]

theorem readAttribute_of_append {first : Attribute}
    (read : readAttribute (text ++ more) = (first, some (inside ++ more))) (remains : inside ≠ []) :
    readAttribute text = (first, some inside) := by
  have left : inside ++ more <:+ ((text ++ more).dropWhile isNameChar).dropWhile isSpace := by
    have whole := congrArg Prod.snd read
    unfold readAttribute at whole
    simp only at whole
    split at whole
    next equals =>
      rw [equals]
      exact ((readValue_suffix whole).trans (List.dropWhile_suffix _)).trans (List.suffix_cons _ _)
    next => exact Option.some.inj whole ▸ List.suffix_refl _
  obtain ⟨front, name, named⟩ := exists_of_dropWhile_append (left.trans (List.dropWhile_suffix _)) remains
  rw [name] at left
  obtain ⟨middle, space, spaced⟩ := exists_of_dropWhile_append left remains
  obtain ⟨c, behind, some⟩ := List.exists_cons_of_ne_nil (l := front ++ inside) (by simp [remains])
  obtain ⟨d, tail, rest⟩ := List.exists_cons_of_ne_nil (l := middle ++ inside) (by simp [remains])
  rw [readAttribute, takeWhile_append_of_stops (named.trans some), name, space, rest, List.cons_append] at read
  rw [readAttribute, named, spaced, rest]
  by_cases equals : d = '='
  · subst equals
    simp only [Prod.mk.injEq] at read
    obtain ⟨rfl, ended⟩ := read
    obtain ⟨blank, value, valued⟩ := exists_of_dropWhile_append (readValue_suffix ended) remains
    rw [value] at ended
    have further := readValue_of_append (Prod.ext rfl ended) remains
    simp only [value, valued, further]
  · split at read
    next others same => exact absurd (List.cons.inj same).1 equals
    next =>
      obtain ⟨rfl, ended⟩ := Prod.mk.inj read
      split
      next others same => exact absurd (List.cons.inj same).1 equals
      next =>
        rw [← List.cons_append] at ended
        rw [List.append_cancel_right (Option.some.inj ended)]

/-- A tag that closes where some more text starts closes without that text. -/
theorem readAttributes_of_append (closed : (readAttributes (text ++ more)).2 = some more) :
    (readAttributes text).2 = some [] := by
  generalize written : text ++ more = whole at closed
  fun_induction readAttributes whole generalizing text with
  | case1 => cases closed
  | case2 whole behind separated =>
    obtain rfl := Option.some.inj closed
    subst written
    have stops : text.dropWhile isSeparator = ['>'] := dropWhile_of_append separated (List.cons_ne_nil _ _)
    rw [readAttributes_of_closed stops]
  | case3 => cases closed
  | case4 whole c behind separated inside first tail ended others =>
    rename_i ih
    subst written
    obtain ⟨front, split⟩ := readAttributes_ends closed
    have same : tail = front ++ ['>'] ++ more := by rw [split]; simp
    have remains : front ++ ['>'] ≠ [] := by simp
    have ends := (readAttribute_suffix ended).trans (List.suffix_refl _)
    rw [← separated, same] at ends
    obtain ⟨run, cut, stops⟩ := exists_of_dropWhile_append ends remains
    obtain ⟨d, letters, start⟩ := List.exists_cons_of_ne_nil (l := run ++ (front ++ ['>'])) (by simp)
    rw [start, separated, List.cons_append] at cut
    obtain ⟨rfl, rest⟩ := List.cons.inj cut
    rw [start] at stops
    have read : readAttribute (c :: letters ++ more) = (first.1, some (front ++ ['>'] ++ more)) := by
      rw [List.cons_append, ← rest, ← same]
      exact Prod.ext rfl ended
    rw [readAttributes_of_closing stops inside (readAttribute_of_append read remains)]
    exact ih same.symm closed

end Cutting
end PageAssets.Markup
