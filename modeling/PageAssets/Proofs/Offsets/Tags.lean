import PageAssets.Proofs.Markup.Spelling
import PageAssets.Proofs.Offsets.Scanner

/-! Opening tags by offsets. Wherever the search reads a tag, each offset on the way is sound, every turn
moves on, and the ranges that are found hold the attributes of the tag. -/

namespace PageAssets.Offsets
open Text Markup

def Holds (document : List Char) (span : Span) (text : List Char) : Prop :=
  slice document span.start span.stop = pure text

structure AttributeRange.Holds (document : List Char) (found : AttributeRange) (shown : Attribute) : Prop where
  name : Offsets.Holds document found.name shown.name
  value : Option.Rel (Offsets.Holds document) found.value shown.value

theorem AttributeRange.Holds.append {front : List Char} {found : AttributeRange} {shown : Attribute}
    (holds : found.Holds front shown) (more : List Char) : found.Holds (front ++ more) shown := by
  obtain ⟨name, value⟩ := found
  obtain ⟨inside, value'⟩ := shown
  obtain ⟨named, valued⟩ := holds
  refine ⟨slice_append named more, ?_⟩
  cases valued with
  | none => exact .none
  | some sliced => exact .some (slice_append sliced more)

theorem AttributeRange.Holds.read {document : List Char} {found : AttributeRange} {shown : Attribute}
    (holds : found.Holds document shown) : found.read document = pure shown := by
  obtain ⟨name, value⟩ := shown
  obtain ⟨span, inside⟩ := found
  have named := holds.name
  have valued := holds.value
  rw [Offsets.Holds] at named
  rw [AttributeRange.read, named, pure_bind]
  cases valued with
  | none => rfl
  | some sliced =>
    rw [Offsets.Holds] at sliced
    simp only [sliced, pure_bind]

namespace At
variable {document text rest : List Char} {offset : Nat}

theorem find (here : At document offset text) (mark : List Char) :
    find document mark offset = pure ((cutAtMark? mark text).map fun parts => offset + byteSize parts.1) := by
  rw [Offsets.find, here.sliceFrom, pure_bind]

theorem range {run : List Char} (here : At document offset (run ++ rest)) :
    range document offset (offset + byteSize run) = pure ⟨offset, offset + byteSize run⟩ ∧
      Holds document ⟨offset, offset + byteSize run⟩ run := by
  have sliced := here.slice
  exact ⟨by rw [Offsets.range, sliced, pure_bind], sliced⟩

theorem ofUInt8_of_isQuote {c : Char} {byte : UInt8} (quote : isQuote c = true)
    (member : byte ∈ String.utf8EncodeChar c) : Char.ofUInt8 byte = c ∧ c.utf8Size = 1 := by
  simp only [isQuote, Bool.or_eq_true, decide_eq_true_eq] at quote
  rcases quote with rfl | rfl
  all_goals
    rw [encode_ascii (by decide), List.mem_singleton] at member
    rw [member]
    exact ⟨rfl, rfl⟩

/-- A value is read as it stands there, and the offset behind it is the one behind its text. -/
theorem valueFrom (here : At document offset text) :
    ∃ value stop, valueFrom document offset = pure (value, stop) ∧
      Option.Rel (Holds document) value (readValue (text.dropWhile isSpace)).1 ∧
        Option.Rel (At document) stop (readValue (text.dropWhile isSpace)).2 := by
  obtain ⟨skipped, there⟩ := here.skip agrees_isSpace
  rw [Offsets.valueFrom, skipped, pure_bind]
  generalize offset + byteSize (text.takeWhile isSpace) = start at there ⊢
  generalize text.dropWhile isSpace = text at there ⊢
  cases text with
  | nil =>
    rw [if_neg (by simp [there.lt_iff])]
    exact ⟨none, some start, rfl, .none, .some there⟩
  | cons c rest =>
    obtain ⟨byte, member, read⟩ := there.byteAt
    rw [if_pos (there.lt_iff.mpr (List.cons_ne_nil _ _)), read, pure_bind, agrees_isQuote c byte member, readValue]
    by_cases quote : isQuote c = true
    · obtain ⟨same, size⟩ := ofUInt8_of_isQuote quote member
      have behind : At document (start + 1) rest := by
        have next : At document (start + byteSize [c]) rest := there.advance
        rwa [byteSize_cons, size] at next
      rw [if_pos quote, if_pos quote, same, behind.find, pure_bind, cutAtMark?_singleton]
      have parts := List.takeWhile_append_dropWhile (p := (· != c)) (l := rest)
      cases left : rest.dropWhile (· != c) with
      | nil =>
        have whole : At document (start + 1) (rest ++ []) := by rwa [List.append_nil]
        obtain ⟨checked, holds⟩ := whole.range
        have size := behind.size
        rw [size] at checked holds
        simp only [Option.map_none, checked, pure_bind]
        exact ⟨_, none, rfl, .some holds, .none⟩
      | cons d tail =>
        have closing := List.head?_dropWhile_not (· != c) rest
        rw [left] at closing parts
        obtain rfl : d = c := by simpa using closing
        rw [← parts] at behind
        obtain ⟨checked, holds⟩ := behind.range
        have next : At document (start + 1 + byteSize (rest.takeWhile (· != d)) + byteSize [d]) tail :=
          behind.advance.advance
        rw [byteSize_cons, size] at next
        simp only [Option.map_some, checked, pure_bind]
        exact ⟨_, _, rfl, .some holds, .some next⟩
    · rw [if_neg quote, if_neg quote]
      obtain ⟨skipped, next⟩ := there.skip agrees_isBareValueChar
      have parts := List.takeWhile_append_dropWhile (p := isBareValueChar) (l := c :: rest)
      rw [← parts] at there
      obtain ⟨checked, holds⟩ := there.range
      rw [skipped, pure_bind, checked, pure_bind]
      exact ⟨_, _, rfl, .some holds, .some next⟩

theorem attributeFrom (here : At document offset text) :
    ∃ found stop, attributeFrom document offset = pure (found, stop) ∧ found.Holds document (readAttribute text).1 ∧
      Option.Rel (At document) stop (readAttribute text).2 := by
  obtain ⟨named, behind⟩ := here.skip agrees_isNameChar
  obtain ⟨spaced, next⟩ := behind.skip agrees_isSpace
  have equals := next.holdsAt agrees_equals
  rw [← List.takeWhile_append_dropWhile (p := isNameChar) (l := text)] at here
  obtain ⟨checked, holds⟩ := here.range
  rw [Offsets.attributeFrom, named, pure_bind, checked, pure_bind, spaced, pure_bind, equals, pure_bind]
  by_cases assigned : ∃ rest, (text.dropWhile isNameChar).dropWhile isSpace = '=' :: rest
  · obtain ⟨rest, assigned⟩ := assigned
    rw [assigned] at next
    have behind : At document (_ + byteSize ['=']) rest := next.advance
    obtain ⟨value, stop, read, inside, ends⟩ := behind.valueFrom
    rw [readAttribute_of_equals assigned, assigned, List.head?_cons, Option.any_some, if_pos (decide_eq_true rfl)]
    exact ⟨_, stop, bind_eq_pure_iff.mpr ⟨_, read, rfl⟩, ⟨holds, inside⟩, ends⟩
  · have unassigned := not_exists.mp assigned
    rw [readAttribute_of_ne_equals unassigned, if_neg]
    · exact ⟨_, _, rfl, ⟨holds, .none⟩, .some next⟩
    · generalize (text.dropWhile isNameChar).dropWhile isSpace = left at unassigned
      cases left with
      | nil => simp
      | cons c rest => simpa using fun same => unassigned rest (by rw [same])

end At

def AttributesAdvance (document : List Char) (state : Nat × List AttributeRange) :
    Turn (Nat × List AttributeRange) (List AttributeRange × Option Nat) → Prop
  | .onward next => state.1 < next.1 ∧ next.1 ≤ byteSize document
  | .done (_, stop) => ∀ behind ∈ stop, state.1 < behind ∧ behind ≤ byteSize document

section Turns
variable {document text rest : List Char} {offset : Nat} {c : Char}

theorem attributesTurn_of_blank (here : At document offset text) (separated : text.dropWhile isSeparator = [])
    (before : List AttributeRange) : attributesTurn document (offset, before) = pure (.done (before, none)) := by
  obtain ⟨skipped, ended⟩ := here.skip agrees_isSeparator
  rw [separated] at ended
  rw [attributesTurn, skipped, pure_bind, if_neg (by simp [ended.lt_iff])]

theorem attributesTurn_of_closed (here : At document offset text)
    (separated : text.dropWhile isSeparator = '>' :: rest) :
    ∃ stop, At document stop rest ∧ offset < stop ∧
      ∀ before, attributesTurn document (offset, before) = pure (.done (before, some stop)) := by
  obtain ⟨skipped, closing⟩ := here.skip agrees_isSeparator
  rw [separated] at closing
  have behind : At document (_ + byteSize ['>']) rest := closing.advance
  obtain ⟨byte, member, read⟩ := closing.byteAt
  have same : byte = '>'.toUInt8 := by simpa using agrees_angle '>' byte member
  refine ⟨_, behind, Nat.lt_add_of_pos_right (Nat.succ_pos _), ?_⟩
  intro before
  rw [attributesTurn, skipped, pure_bind, if_pos (closing.lt_iff.mpr (List.cons_ne_nil _ _)), read, pure_bind,
    if_pos same]
  rfl

theorem attributesTurn_of_inside (here : At document offset text) (separated : text.dropWhile isSeparator = c :: rest)
    (inside : c ≠ '>') :
    ∃ found stop, found.Holds document (readAttribute (c :: rest)).1 ∧
      Option.Rel (At document) stop (readAttribute (c :: rest)).2 ∧
        ∀ before, attributesTurn document (offset, before) =
          pure (stop.elim (.done (before ++ [found], none)) fun next => .onward (next, before ++ [found])) := by
  obtain ⟨skipped, shown⟩ := here.skip agrees_isSeparator
  rw [separated] at shown
  obtain ⟨byte, member, first⟩ := shown.byteAt
  have different : byte ≠ '>'.toUInt8 := by simpa [inside] using agrees_angle c byte member
  obtain ⟨found, stop, read, holds, ends⟩ := shown.attributeFrom
  refine ⟨found, stop, holds, ends, ?_⟩
  intro before
  rw [attributesTurn, skipped, pure_bind, if_pos (shown.lt_iff.mpr (List.cons_ne_nil _ _)), first, pure_bind,
    if_neg different, read, pure_bind]
  cases stop with
  | none => rfl
  | some next => rfl

theorem shorter_of_inside {behind : List Char} (separated : text.dropWhile isSeparator = c :: rest) (inside : c ≠ '>')
    (ends : (readAttribute (c :: rest)).2 = some behind) : behind.length < text.length := by
  have start := List.head?_dropWhile_not isSeparator text
  rw [separated] at start
  have shorter := readAttribute_shorter (by simpa using start) inside ends
  have kept := (List.dropWhile_suffix (l := text) isSeparator).length_le
  rw [separated] at kept
  omega

end Turns

/-- Reading attributes from any place in a document comes to an end, and every turn moves on. What is found
are the attributes in the text there, and the offset behind their tag. -/
theorem At.attributes {document text : List Char} {offset : Nat} (here : At document offset text) :
    ∃ found stop, (∀ before, Runs (attributesTurn document) (AttributesAdvance document) (offset, before)
        (before ++ found, stop)) ∧
      List.Forall₂ (AttributeRange.Holds document) found (readAttributes text).1 ∧
        Option.Rel (At document) stop (readAttributes text).2 := by
  fun_induction readAttributes text generalizing offset with
  | case1 text separated =>
    refine ⟨[], none, ?_, .nil, .none⟩
    intro before
    rw [List.append_nil]
    exact .done (attributesTurn_of_blank here separated before) (by simp [AttributesAdvance])
  | case2 text rest separated =>
    obtain ⟨stop, behind, moved, turn⟩ := attributesTurn_of_closed here separated
    refine ⟨[], some stop, ?_, .nil, .some behind⟩
    intro before
    rw [List.append_nil]
    exact .done (turn before) (by simp [AttributesAdvance, moved, behind.le])
  | case3 text c rest separated inside first =>
    rename_i ended
    obtain ⟨found, stop, holds, ends, turn⟩ := attributesTurn_of_inside here separated inside
    rw [ended] at ends
    cases ends
    exact ⟨[found], none, fun before => .done (turn before) (by simp [AttributesAdvance]), .cons holds .nil, .none⟩
  | case4 text c rest separated inside first behind ended others =>
    rename_i ih
    obtain ⟨found, stop, holds, ends, turn⟩ := attributesTurn_of_inside here separated inside
    rw [ended] at ends
    cases ends with
    | @some next _ there =>
      obtain ⟨further, stop, runs, hold, ends⟩ := ih there
      have moved := here.lt_of_shorter there (shorter_of_inside separated inside ended)
      refine ⟨found :: further, stop, ?_, .cons holds hold, ends⟩
      intro before
      have goes := runs (before ++ [found])
      rw [List.append_assoc, List.singleton_append] at goes
      exact .onward (turn before) ⟨moved, there.le⟩ goes

/-- A tag that is found by offsets, and the tag that is read in the text there. -/
structure TagHolds (document : List Char) (found : List AttributeRange × Nat) (tag : List Attribute × List Char) :
    Prop where
  attributes : List.Forall₂ (AttributeRange.Holds document) found.1 tag.1
  behind : At document found.2 tag.2

/-- The same for a whole tag. One with an open quote is read again, in a document that is cut at the first
closing angle; what is found there stands at the same place in the whole document. -/
theorem At.tag {document text : List Char} {offset : Nat} (here : At document offset text) :
    ∃ found, tagFrom document offset = pure found ∧ Option.Rel (TagHolds document) found (readTag? text) := by
  obtain ⟨found, stop, runs, holds, ends⟩ := here.attributes
  have read : attributesFrom document offset = pure (found, stop) := (runs []).loop_eq
  rw [readTag?, tagFrom, read, pure_bind]
  generalize readAttributes text = parts at holds ends
  obtain ⟨attributes, left⟩ := parts
  cases ends with
  | some there => exact ⟨_, rfl, .some ⟨holds, there⟩⟩
  | none =>
    simp only [here.find, pure_bind]
    cases cut : cutAtMark? ['>'] text with
    | none => exact ⟨none, rfl, .none⟩
    | some parts =>
      obtain ⟨inside, behind⟩ := parts
      obtain ⟨_, rfl, marked, -⟩ := cutAtFirst?_eq_some_iff.mp cut
      obtain rfl := List.isPrefixOf?_eq_some_iff_append_eq.mp marked
      obtain ⟨front, rfl, rfl⟩ := here.exists_front
      obtain ⟨found, stop, runs, holds, -⟩ := (At.behind front inside).attributes
      have read : attributesFrom (front ++ inside) (byteSize front) = pure (found, stop) := (runs []).loop_eq
      have cut : sliceTo (front ++ (inside ++ (['>'] ++ behind))) (byteSize front + byteSize inside) =
          pure (front ++ inside) := by
        rw [← byteSize_append, ← List.append_assoc, sliceTo_byteSize]
      simp only [Option.map_some, cut, read, pure_bind]
      refine ⟨_, rfl, .some ⟨?_, here.advance.advance⟩⟩
      rw [← List.append_assoc]
      exact holds.imp fun _ _ hold => hold.append _

/-- Every spelling of a list of attributes is undone, wherever the tag stands: what is found are exactly the
names and values that were meant, in their order, and the offset behind the angle that closes the tag. -/
theorem readAttributes_inverts_spelling (tag : SpelledTag) (before after : List Char) :
    readAttributes (tag.text ++ after) = (tag.attributes.map SpelledAttribute.asRead, some after) ∧
    readTag? (tag.text ++ after) = some (tag.attributes.map SpelledAttribute.asRead, after) ∧
    ∃ found,
      attributesFrom (before ++ (tag.text ++ after)) (byteSize before) =
        pure (found, some (byteSize before + byteSize tag.text)) ∧
      tagFrom (before ++ (tag.text ++ after)) (byteSize before) =
        pure (some (found, byteSize before + byteSize tag.text)) ∧
      found.mapM (AttributeRange.read (before ++ (tag.text ++ after))) =
        pure (tag.attributes.map SpelledAttribute.asRead) := by
  have spelled := tag.readAttributes_text after
  have here := At.behind before (tag.text ++ after)
  obtain ⟨found, stop, runs, holds, ends⟩ := here.attributes
  have read := (runs []).loop_eq
  rw [spelled] at holds ends
  cases ends with
  | some there =>
    obtain rfl := there.unique here.advance
    refine ⟨spelled, by rw [readTag?, spelled], found, read, ?_, ?_⟩
    · rw [tagFrom, attributesFrom, read, pure_bind]
      rfl
    · exact mapM_eq_pure (holds.imp fun _ _ hold => hold.read)

end PageAssets.Offsets
