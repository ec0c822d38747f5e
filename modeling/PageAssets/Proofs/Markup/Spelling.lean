import PageAssets.Proofs.Markup.Attributes

/-! Every spelling of a list of attributes: with or without a value, in either kind of quotes or without
quotes, with space around the equals sign, and with space and slashes in between. All of them are read
back as the attributes that were meant. -/

namespace PageAssets.Markup

/-- What stands in front of an attribute: space, and then any mix of space and slashes. -/
structure Separation where
  first : Char
  others : List Char
  spaced : isSpace first = true
  separates : others.all isSeparator = true

def Separation.text (separation : Separation) : List Char := separation.first :: separation.others

/-- A value as it is spelled. The character in front of a value without quotes is told apart, since it
is the one that must not be a quote. -/
inductive SpelledValue where
  | quoted (quote : Char) (value : List Char) (quotes : isQuote quote = true) (closed : quote ∉ value)
  | bare (first : Char) (others : List Char) (plain : (first :: others).all isBareValueChar = true)
      (unquoted : isQuote first = false)

namespace SpelledValue

def text : SpelledValue → List Char
  | quoted quote value _ _ => quote :: (value ++ [quote])
  | bare first others _ _ => first :: others

def value : SpelledValue → List Char
  | quoted _ value _ _ => value
  | bare first others _ _ => first :: others

end SpelledValue

/-- An equals sign with a value behind it, and with space on either side. -/
structure Assignment where
  before : List Char
  after : List Char
  value : SpelledValue
  spaceBefore : before.all isSpace = true
  spaceAfter : after.all isSpace = true

def Assignment.text (assignment : Assignment) : List Char :=
  assignment.before ++ '=' :: (assignment.after ++ assignment.value.text)

structure SpelledAttribute where
  separation : Separation
  name : List Char
  assignment : Option Assignment
  named : name ≠ []
  plainName : name.all isNameChar = true

namespace SpelledAttribute

def body (spelled : SpelledAttribute) : List Char := spelled.name ++ spelled.assignment.elim [] Assignment.text

def text (spelled : SpelledAttribute) : List Char := spelled.separation.text ++ spelled.body

def asRead (spelled : SpelledAttribute) : Attribute :=
  ⟨spelled.name, spelled.assignment.map fun assignment => assignment.value.value⟩

end SpelledAttribute

structure SpelledTag where
  attributes : List SpelledAttribute
  ending : Option Separation

def SpelledTag.text (tag : SpelledTag) : List Char :=
  tag.attributes.flatMap SpelledAttribute.text ++ (tag.ending.elim [] Separation.text ++ ['>'])

/-- What may follow an attribute: space or the closing angle comes first, and the first sign behind the
space is no equals sign. -/
structure Follows (rest : List Char) : Prop where
  stops : ∃ c more, rest = c :: more ∧ (isSpace c = true ∨ c = '>')
  unassigned : ∀ more, rest.dropWhile isSpace ≠ '=' :: more

theorem isSeparator_of_isSpace {c : Char} (space : isSpace c = true) : isSeparator c = true := by
  simp [isSeparator, space]

theorem not_isNameChar_of_isSpace {c : Char} (space : isSpace c = true) : isNameChar c = false := by
  simp [isNameChar, space]

theorem not_isBareValueChar_of_isSpace {c : Char} (space : isSpace c = true) : isBareValueChar c = false := by
  simp [isBareValueChar, space]

theorem isSeparator_of_isNameChar {c : Char} (letter : isNameChar c = true) : isSeparator c = false := by
  simp only [isNameChar, Bool.and_eq_true, Bool.not_eq_true', bne_iff_ne] at letter
  simp [isSeparator, letter]

/-- Space that is skipped early would have been skipped later. -/
theorem dropWhile_isSeparator_dropWhile_isSpace (text : List Char) :
    (text.dropWhile isSpace).dropWhile isSeparator = text.dropWhile isSeparator := by
  induction text with
  | nil => rfl
  | cons c rest ih =>
    by_cases space : isSpace c = true
    · rw [List.dropWhile_cons_of_pos space, List.dropWhile_cons_of_pos (isSeparator_of_isSpace space), ih]
    · rw [List.dropWhile_cons_of_neg space]

theorem readAttributes_dropWhile_isSpace (text : List Char) :
    readAttributes (text.dropWhile isSpace) = readAttributes text := by
  rw [readAttributes, readAttributes, dropWhile_isSeparator_dropWhile_isSpace]

section Values
variable {name before behind rest : List Char}

/-- A name is read up to the equals sign behind it, and the value from there on. -/
theorem readAttribute_assigned (letters : ∀ c ∈ name, isNameChar c = true) (blank : ∀ c ∈ before, isSpace c = true) :
    readAttribute (name ++ (before ++ '=' :: behind)) =
      (⟨name, (readValue (behind.dropWhile isSpace)).1⟩, (readValue (behind.dropWhile isSpace)).2) := by
  have stops : (before ++ '=' :: behind).takeWhile isNameChar = [] ∧
      (before ++ '=' :: behind).dropWhile isNameChar = before ++ '=' :: behind := by
    cases before with
    | nil => exact ⟨rfl, rfl⟩
    | cons c others =>
      have space := not_isNameChar_of_isSpace (blank c List.mem_cons_self)
      simp [space]
  have taken : (name ++ (before ++ '=' :: behind)).takeWhile isNameChar = name := by
    rw [List.takeWhile_append_of_pos letters, stops.1, List.append_nil]
  have assigned : ((name ++ (before ++ '=' :: behind)).dropWhile isNameChar).dropWhile isSpace = '=' :: behind := by
    rw [List.dropWhile_append_of_pos letters, stops.2, List.dropWhile_append_of_pos blank]
    rfl
  rw [readAttribute_of_equals assigned, taken]

theorem readAttribute_unassigned (letters : ∀ c ∈ name, isNameChar c = true) (follows : Follows rest) :
    readAttribute (name ++ rest) = (⟨name, none⟩, some (rest.dropWhile isSpace)) := by
  obtain ⟨c, more, rfl, first⟩ := follows.stops
  have stops : isNameChar c = false := by
    rcases first with space | rfl
    · exact not_isNameChar_of_isSpace space
    · rfl
  have taken : (name ++ c :: more).takeWhile isNameChar = name := by
    rw [List.takeWhile_append_of_pos letters, List.takeWhile_cons_of_neg (by simp [stops]), List.append_nil]
  have left : (name ++ c :: more).dropWhile isNameChar = c :: more := by
    rw [List.dropWhile_append_of_pos letters, List.dropWhile_cons_of_neg (by simp [stops])]
  have unassigned := follows.unassigned
  rw [← left] at unassigned
  rw [readAttribute_of_ne_equals unassigned, taken, left]

theorem readValue_spelled (spelled : SpelledValue) (follows : Follows rest) :
    readValue (spelled.text ++ rest) = (some spelled.value, some rest) := by
  cases spelled with
  | quoted quote value quotes closed =>
    have inside : ∀ c ∈ value, (c != quote) = true := by
      intro c member
      simpa using ne_of_mem_of_not_mem member closed
    have taken : (value ++ quote :: rest).takeWhile (· != quote) = value := by
      rw [List.takeWhile_append_of_pos inside]
      simp
    have left : (value ++ quote :: rest).dropWhile (· != quote) = quote :: rest := by
      rw [List.dropWhile_append_of_pos inside]
      simp
    have written : (SpelledValue.quoted quote value quotes closed).text ++ rest =
        quote :: (value ++ quote :: rest) := by
      simp [SpelledValue.text]
    rw [written, readValue, if_pos quotes, left, taken]
    rfl
  | bare first others plain unquoted =>
    obtain ⟨c, more, rfl, ends⟩ := follows.stops
    have stops : isBareValueChar c = false := by
      rcases ends with space | rfl
      · exact not_isBareValueChar_of_isSpace space
      · rfl
    have letters := List.all_eq_true.mp plain
    have taken : (first :: others ++ c :: more).takeWhile isBareValueChar = first :: others := by
      rw [List.takeWhile_append_of_pos letters, List.takeWhile_cons_of_neg (by simp [stops]), List.append_nil]
    have left : (first :: others ++ c :: more).dropWhile isBareValueChar = c :: more := by
      rw [List.dropWhile_append_of_pos letters, List.dropWhile_cons_of_neg (by simp [stops])]
    simp only [SpelledValue.text, SpelledValue.value]
    rw [List.cons_append, readValue, if_neg (by simp [unquoted]), ← List.cons_append, taken, left]

theorem SpelledValue.dropWhile_isSpace (spelled : SpelledValue) {blank : List Char}
    (space : ∀ c ∈ blank, isSpace c = true) (rest : List Char) :
    (blank ++ (spelled.text ++ rest)).dropWhile isSpace = spelled.text ++ rest := by
  rw [List.dropWhile_append_of_pos space]
  cases spelled with
  | quoted quote value quotes closed =>
    have visible : isSpace quote = false := by
      simp only [isQuote, Bool.or_eq_true, decide_eq_true_eq] at quotes
      rcases quotes with rfl | rfl <;> rfl
    exact List.dropWhile_cons_of_neg (by simp [visible])
  | bare first others plain unquoted =>
    have letter := List.all_eq_true.mp plain first List.mem_cons_self
    simp only [isBareValueChar, Bool.and_eq_true, Bool.not_eq_true'] at letter
    exact List.dropWhile_cons_of_neg (by simp [letter.1])

end Values

namespace SpelledAttribute

/-- What is left behind an attribute differs from what follows it by no more than some space. -/
theorem readAttribute_body (spelled : SpelledAttribute) {rest : List Char} (follows : Follows rest) :
    ∃ left, readAttribute (spelled.body ++ rest) = (spelled.asRead, some left) ∧
      readAttributes left = readAttributes rest := by
  have letters := List.all_eq_true.mp spelled.plainName
  cases assigned : spelled.assignment with
  | none =>
    refine ⟨rest.dropWhile isSpace, ?_, readAttributes_dropWhile_isSpace rest⟩
    simp [body, asRead, assigned, readAttribute_unassigned letters follows]
  | some assignment =>
    have before := List.all_eq_true.mp assignment.spaceBefore
    have after := List.all_eq_true.mp assignment.spaceAfter
    refine ⟨rest, ?_, rfl⟩
    have written : spelled.body ++ rest =
        spelled.name ++ (assignment.before ++ '=' :: (assignment.after ++ (assignment.value.text ++ rest))) := by
      simp [body, assigned, Assignment.text]
    rw [written, readAttribute_assigned letters before, assignment.value.dropWhile_isSpace after,
      readValue_spelled assignment.value follows]
    simp [asRead, assigned]

theorem body_starts (spelled : SpelledAttribute) :
    ∃ c more, spelled.body = c :: more ∧ isNameChar c = true := by
  obtain ⟨c, more, name⟩ := List.exists_cons_of_ne_nil spelled.named
  have letter := List.all_eq_true.mp spelled.plainName c (name ▸ List.mem_cons_self)
  exact ⟨c, more ++ spelled.assignment.elim [] Assignment.text, by rw [body, name, List.cons_append], letter⟩

/-- One attribute is read off the front, and the others are read as if they stood alone. -/
theorem readAttributes_text (spelled : SpelledAttribute) {rest : List Char} (follows : Follows rest) :
    readAttributes (spelled.text ++ rest) = (spelled.asRead :: (readAttributes rest).1, (readAttributes rest).2) := by
  obtain ⟨left, read, same⟩ := spelled.readAttribute_body follows
  obtain ⟨c, more, start, letter⟩ := spelled.body_starts
  have separated : (spelled.text ++ rest).dropWhile isSeparator = c :: (more ++ rest) := by
    have separates := List.all_eq_true.mp spelled.separation.separates
    rw [text, Separation.text, start, List.append_assoc, List.cons_append,
      List.dropWhile_cons_of_pos (isSeparator_of_isSpace spelled.separation.spaced),
      List.dropWhile_append_of_pos separates, List.cons_append,
      List.dropWhile_cons_of_neg (by simp [isSeparator_of_isNameChar letter])]
  have inside : c ≠ '>' := by
    rintro rfl
    cases letter
  rw [start, List.cons_append] at read
  rw [readAttributes_of_closing separated inside read, same]

end SpelledAttribute

/-- Neither space nor slashes bring an equals sign. -/
theorem Separation.follows (separation : Separation) {c : Char} {more : List Char} (visible : isSpace c = false)
    (unassigned : c ≠ '=') : Follows (separation.text ++ c :: more) := by
  refine ⟨⟨separation.first, separation.others ++ c :: more, rfl, .inl separation.spaced⟩, ?_⟩
  intro behind
  rw [Separation.text, List.cons_append, List.dropWhile_cons_of_pos separation.spaced]
  have separates := separation.separates
  generalize separation.others = others at separates
  induction others with
  | nil => simp [visible, unassigned]
  | cons d rest ih =>
    rw [List.all_cons, Bool.and_eq_true] at separates
    rw [List.cons_append]
    by_cases space : isSpace d = true
    · rw [List.dropWhile_cons_of_pos space]
      exact ih separates.2
    · have slash : d = '/' := by simpa [isSeparator, space] using separates.1
      rw [List.dropWhile_cons_of_neg space, slash]
      simp

theorem SpelledTag.follows (tag : SpelledTag) (after : List Char) : Follows (tag.text ++ after) := by
  obtain ⟨attributes, ending⟩ := tag
  cases attributes with
  | nil =>
    cases ending with
    | none => exact ⟨⟨'>', after, rfl, .inr rfl⟩, by simp [SpelledTag.text, isSpace]⟩
    | some separation =>
      have written : (⟨[], some separation⟩ : SpelledTag).text ++ after = separation.text ++ '>' :: after := by
        simp [SpelledTag.text]
      rw [written]
      exact separation.follows rfl (by decide)
  | cons spelled others =>
    obtain ⟨c, more, start, letter⟩ := spelled.body_starts
    simp only [isNameChar, Bool.and_eq_true, Bool.not_eq_true', bne_iff_ne] at letter
    have written : (⟨spelled :: others, ending⟩ : SpelledTag).text ++ after =
        spelled.separation.text ++ c :: (more ++ (⟨others, ending⟩ : SpelledTag).text ++ after) := by
      simp [SpelledTag.text, SpelledAttribute.text, start]
    rw [written]
    exact spelled.separation.follows letter.1.1.1 letter.1.1.2

/-- However the attributes of a tag are spelled, they are read as they were meant, up to the angle that
closes the tag and whatever follows it. -/
theorem SpelledTag.readAttributes_text (tag : SpelledTag) (after : List Char) :
    readAttributes (tag.text ++ after) = (tag.attributes.map SpelledAttribute.asRead, some after) := by
  obtain ⟨attributes, ending⟩ := tag
  induction attributes with
  | nil =>
    have separates : ∀ c ∈ ending.elim [] Separation.text, isSeparator c = true := by
      cases ending with
      | none => simp
      | some separation =>
        intro c member
        rcases List.mem_cons.mp member with rfl | later
        · exact isSeparator_of_isSpace separation.spaced
        · exact List.all_eq_true.mp separation.separates c later
    apply readAttributes_of_closed
    rw [SpelledTag.text, List.flatMap_nil, List.nil_append, List.append_assoc, List.dropWhile_append_of_pos separates]
    rfl
  | cons spelled others ih =>
    have written : (⟨spelled :: others, ending⟩ : SpelledTag).text ++ after =
        spelled.text ++ ((⟨others, ending⟩ : SpelledTag).text ++ after) := by simp [SpelledTag.text]
    rw [written, spelled.readAttributes_text (SpelledTag.follows _ after), ih]
    rfl

/-- A tag with an attribute of each sort, and with signs in the values that mean something elsewhere. -/
example : ∃ tag : SpelledTag, tag.text = "\t/ /a b\n= \">=\" c='' d=/\"/ />".toList :=
  let blank : Separation := ⟨' ', [], rfl, rfl⟩
  let attributes : List SpelledAttribute := [
    ⟨⟨'\t', ['/', ' ', '/'], rfl, rfl⟩, ['a'], none, by decide, rfl⟩,
    ⟨blank, ['b'], some ⟨['\n'], [' '], .quoted '"' ['>', '='] rfl (by decide), rfl, rfl⟩, by decide, rfl⟩,
    ⟨blank, ['c'], some ⟨[], [], .quoted '\'' [] rfl (by decide), rfl, rfl⟩, by decide, rfl⟩,
    ⟨blank, ['d'], some ⟨[], [], .bare '/' ['"', '/'] rfl rfl, rfl, rfl⟩, by decide, rfl⟩]
  ⟨⟨attributes, some ⟨' ', ['/'], rfl, rfl⟩⟩, by decide⟩

end PageAssets.Markup
