import PageAssets.Markup.Letter
import PageAssets.Text.Search

/-! Opening tags: their attributes and where they end. Quotes are honoured, so that a quoted
value may hold the closing angle. A quote that never closes does not swallow the document: the
tag then ends at the first closing angle. -/

namespace PageAssets.Markup

/-- An attribute as it is written; `value` is absent for a bare name. -/
structure Attribute where
  name : List Char
  value : Option (List Char)
  deriving DecidableEq, Repr

/-- Reads what follows an equals sign and the space behind it. The second part is the text behind
the value, absent when a quote stays open to the end. -/
def readValue : List Char → Option (List Char) × Option (List Char)
  | [] => (none, some [])
  | c :: rest =>
    if isQuote c then
      match rest.dropWhile (· != c) with
      | [] => (some rest, none)
      | _ :: behind => (some (rest.takeWhile (· != c)), some behind)
    else
      (some ((c :: rest).takeWhile isBareValueChar), some ((c :: rest).dropWhile isBareValueChar))

/-- Reads one attribute. The name may be empty, in front of a stray equals sign. -/
def readAttribute (text : List Char) : Attribute × Option (List Char) :=
  let name := text.takeWhile isNameChar
  match (text.dropWhile isNameChar).dropWhile isSpace with
  | '=' :: behind =>
    let (value, rest) := readValue (behind.dropWhile isSpace)
    (⟨name, value⟩, rest)
  | rest => (⟨name, none⟩, some rest)

theorem readValue_suffix {text rest : List Char} (ends : (readValue text).2 = some rest) :
    rest <:+ text := by
  cases text with
  | nil => simp_all [readValue]
  | cons c behind =>
    rw [readValue] at ends
    split at ends
    · split at ends
      next => cases ends
      next tail closed =>
        cases ends
        exact ((List.suffix_cons _ _).trans (closed ▸ List.dropWhile_suffix _)).trans
          (List.suffix_cons _ _)
    · cases ends
      exact List.dropWhile_suffix _

theorem readAttribute_suffix {text rest : List Char} (ends : (readAttribute text).2 = some rest) :
    rest <:+ text := by
  have skipped : (text.dropWhile isNameChar).dropWhile isSpace <:+ text :=
    (List.dropWhile_suffix _).trans (List.dropWhile_suffix _)
  unfold readAttribute at ends
  simp only at ends
  split at ends
  next behind equals =>
    rw [equals] at skipped
    exact ((readValue_suffix ends).trans (List.dropWhile_suffix _)).trans
      ((List.suffix_cons _ _).trans skipped)
  next => cases ends; exact skipped

/-- An attribute takes at least the character it starts at. -/
theorem readAttribute_shorter {c : Char} {text rest : List Char} (start : isSeparator c = false)
    (inside : c ≠ '>') (ends : (readAttribute (c :: text)).2 = some rest) :
    rest.length < (c :: text).length := by
  have skipped :
      (((c :: text).dropWhile isNameChar).dropWhile isSpace).length ≤ (c :: text).length :=
    ((List.dropWhile_suffix _).trans (List.dropWhile_suffix _)).length_le
  unfold readAttribute at ends
  simp only at ends
  split at ends
  next behind equals =>
    have shorter := ((readValue_suffix ends).trans (List.dropWhile_suffix _)).length_le
    rw [equals] at skipped
    simp only [List.length_cons] at *
    omega
  next noEquals =>
    cases ends
    by_cases named : isNameChar c
    · rw [List.dropWhile_cons_of_pos named]
      have := ((List.dropWhile_suffix isSpace).trans
        (List.dropWhile_suffix (l := text) isNameChar)).length_le
      simp only [List.length_cons]
      omega
    · exfalso
      have spaceless : isSpace c = false := by simp_all [isSeparator]
      have sign : c = '=' := by
        simp_all [isSeparator, isNameChar]
      apply noEquals text
      rw [List.dropWhile_cons_of_neg named, List.dropWhile_cons_of_neg (by simp [spaceless]), sign]

/-- The attributes at the start of a text, and the text behind the closing angle of their tag,
absent when the text runs out first. -/
def readAttributes (text : List Char) : List Attribute × Option (List Char) :=
  match _separated : text.dropWhile isSeparator with
  | [] => ([], none)
  | c :: rest =>
    if _closed : c = '>' then ([], some rest)
    else
      let first := readAttribute (c :: rest)
      match _ended : first.2 with
      | none => ([first.1], none)
      | some behind =>
        let others := readAttributes behind
        (first.1 :: others.1, others.2)
termination_by text.length
decreasing_by
  have start : isSeparator c = false := by
    have := List.head?_dropWhile_not isSeparator text
    simpa [_separated] using this
  have shorter := readAttribute_shorter start _closed _ended
  have kept := (List.dropWhile_suffix (l := text) isSeparator).length_le
  rw [_separated] at kept
  omega

/-- An opening tag behind its name: the attributes, and the text behind the closing angle.
A text without any closing angle has no tag. -/
def readTag? (text : List Char) : Option (List Attribute × List Char) :=
  match readAttributes text with
  | (attributes, some rest) => some (attributes, rest)
  | (_, none) =>
    (Text.cutAtMark? ['>'] text).map fun (inside, rest) => ((readAttributes inside).1, rest)

theorem readAttributes_suffix {text rest : List Char} (ends : (readAttributes text).2 = some rest) :
    rest <:+ text := by
  fun_induction readAttributes text with
  | case1 => cases ends
  | case2 text _ separated =>
    cases ends
    exact (List.suffix_cons _ _).trans (separated ▸ List.dropWhile_suffix _)
  | case3 => cases ends
  | case4 text c behind separated _ first rest ended _ ih =>
    exact (ih ends).trans ((readAttribute_suffix ended).trans (separated ▸ List.dropWhile_suffix _))

theorem readTag?_suffix {text rest : List Char} {attributes : List Attribute}
    (found : readTag? text = some (attributes, rest)) : rest <:+ text := by
  unfold readTag? at found
  split at found
  next read => cases found; exact readAttributes_suffix (by rw [read])
  next =>
    obtain ⟨⟨inside, behind⟩, cut, same⟩ := Option.map_eq_some_iff.1 found
    cases same
    exact (Text.cutAtFirst?_suffix (fun _ _ => Text.isPrefixOf?_suffix) cut).trans (List.drop_suffix _ _)

end PageAssets.Markup
