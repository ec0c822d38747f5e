import PageAssets.Markup.Placement
import PageAssets.Proofs.Markup.Attributes
import PageAssets.Proofs.Text.Words

/-! What the readers of markup recognise, said without their recursion: names in any case of their
letters, closing tags, and opening tags with some closing angle behind their name. -/

namespace PageAssets.Markup

theorem afterWord?_eq_some_iff {word text rest : List Char} :
    afterWord? word text = some rest ↔ ∃ name, text = name ++ rest ∧ sameName name word = true := by
  simp only [sameName, decide_eq_true_eq]
  fun_induction afterWord? word text with
  | case1 text => simp
  | case2 => simp
  | case3 letter word c text same ih =>
    rw [ih]
    constructor
    · intro facts
      obtain ⟨name, rfl, equal⟩ := facts
      exact ⟨c :: name, rfl, by simp [same, equal]⟩
    · intro facts
      obtain ⟨name, split, equal⟩ := facts
      cases name with
      | nil => cases equal
      | cons first name =>
        obtain ⟨rfl, rfl⟩ := List.cons.inj split
        exact ⟨name, rfl, (List.cons.inj equal).2⟩
  | case4 letter word c text different =>
    simp only [reduceCtorEq, false_iff]
    intro facts
    obtain ⟨name, split, equal⟩ := facts
    cases name with
    | nil => cases equal
    | cons first name =>
      obtain ⟨rfl, rfl⟩ := List.cons.inj split
      exact different (List.cons.inj equal).1

theorem sameName_tagName {name : List Char} {kind : BlockKind} :
    sameName name kind.tagName = true ↔ name.map Char.toLower = kind.tagName := by
  have lower : kind.tagName.map Char.toLower = kind.tagName := by cases kind <;> rfl
  rw [sameName, decide_eq_true_eq, lower]

/-- The name of a tag ends in front of space, a slash or a closing angle. -/
def EndsName (rest : List Char) : Prop :=
  ∃ c more, rest = c :: more ∧ (isSpace c = true ∨ c = '>' ∨ c = '/')

def StartsWithName (kind : BlockKind) (text rest : List Char) : Prop :=
  ∃ name, text = name ++ rest ∧ sameName name kind.tagName = true ∧ EndsName rest

theorem afterName?_eq_some_iff {kind : BlockKind} {text rest : List Char} :
    afterName? kind text = some rest ↔ StartsWithName kind text rest := by
  simp only [afterName?, Option.filter_eq_some_iff, afterWord?_eq_some_iff, StartsWithName]
  constructor
  · intro facts
    obtain ⟨⟨name, split, same⟩, ended⟩ := facts
    cases rest with
    | nil => cases ended
    | cons c more => exact ⟨name, split, same, c, more, rfl, by simpa [or_assoc] using ended⟩
  · intro facts
    obtain ⟨name, split, same, c, more, rfl, ended⟩ := facts
    exact ⟨⟨name, split, same⟩, by simpa [or_assoc] using ended⟩

theorem StartsWithName.kind_unique {first second : BlockKind} {text rest tail : List Char}
    (one : StartsWithName first text rest) (other : StartsWithName second text tail) :
    first = second := by
  have letters {kind : BlockKind} {rest : List Char} (starts : StartsWithName kind text rest) :
      (text.map Char.toLower).take 2 = kind.tagName.take 2 := by
    obtain ⟨name, rfl, same, -⟩ := starts
    rw [List.map_append, sameName_tagName.mp same]
    cases kind <;> rfl
  have equal := (letters one).symm.trans (letters other)
  cases first with
  | style =>
    cases second with
    | style => rfl
    | script => simp [BlockKind.tagName] at equal
  | script =>
    cases second with
    | style => simp [BlockKind.tagName] at equal
    | script => rfl

theorem StartsWithName.rest_unique {kind other : BlockKind} {text rest tail : List Char}
    (one : StartsWithName kind text rest) (second : StartsWithName other text tail) : rest = tail := by
  obtain rfl := one.kind_unique second
  exact Option.some.inj ((afterName?_eq_some_iff.mpr one).symm.trans (afterName?_eq_some_iff.mpr second))

theorem openingName?_eq_some_iff {text rest : List Char} {kind : BlockKind} :
    openingName? text = some (kind, rest) ↔ StartsWithName kind text rest := by
  rw [← afterName?_eq_some_iff, openingName?]
  constructor
  · intro found
    obtain ⟨candidate, -, named⟩ := List.exists_of_findSome?_eq_some found
    obtain ⟨behind, read, same⟩ := Option.map_eq_some_iff.mp named
    cases same
    exact read
  · intro named
    cases kind with
    | style => simp [BlockKind.all, named]
    | script =>
      have noStyle : afterName? .style text = none := by
        apply Option.eq_none_iff_forall_ne_some.mpr
        intro other read
        cases (afterName?_eq_some_iff.mp read).kind_unique (afterName?_eq_some_iff.mp named)
      simp [BlockKind.all, noStyle, named]

theorem readTag?_eq_none_iff {text : List Char} : readTag? text = none ↔ '>' ∉ text := by
  unfold readTag?
  split
  next attributes rest read =>
    obtain ⟨front, rfl⟩ := readAttributes_ends (congrArg Prod.snd read)
    simp
  next =>
    rw [Option.map_eq_none_iff, Text.cutAtMark?, Text.cutAtFirst?_eq_none_iff]
    constructor
    · intro never inside
      obtain ⟨front, here, rfl⟩ := List.append_of_mem inside
      cases never front _ rfl
    · intro outside front here split
      rw [← Option.not_isSome_iff_eq_none, Option.isSome_iff_exists]
      intro facts
      obtain ⟨rest, marked⟩ := facts
      obtain rfl := List.isPrefixOf?_eq_some_iff_append_eq.mp marked
      exact outside (by simp [split])

theorem readTag?_ends {text rest : List Char} {attributes : List Attribute}
    (found : readTag? text = some (attributes, rest)) : ∃ front, text = front ++ '>' :: rest := by
  unfold readTag? at found
  split at found
  next read =>
    cases found
    exact readAttributes_ends (congrArg Prod.snd read)
  next =>
    obtain ⟨⟨inside, behind⟩, cut, same⟩ := Option.map_eq_some_iff.mp found
    cases same
    obtain ⟨here, rfl, marked, -⟩ := Text.cutAtFirst?_eq_some_iff.mp cut
    exact ⟨inside, by rw [← List.isPrefixOf?_eq_some_iff_append_eq.mp marked]; rfl⟩

theorem openingTag?_eq_some_iff {text body : List Char} {kind : BlockKind} {attributes : List Attribute} :
    openingTag? text = some (kind, attributes, body) ↔
      ∃ rest, StartsWithName kind text rest ∧ readTag? rest = some (attributes, body) := by
  simp only [openingTag?, Option.bind_eq_some_iff, Option.map_eq_some_iff, Prod.exists, Prod.mk.injEq]
  constructor
  · intro facts
    obtain ⟨first, rest, named, others, tail, read, rfl, rfl, rfl⟩ := facts
    exact ⟨rest, openingName?_eq_some_iff.mp named, read⟩
  · intro facts
    obtain ⟨rest, named, read⟩ := facts
    exact ⟨kind, rest, openingName?_eq_some_iff.mpr named, attributes, body, read, rfl, rfl, rfl⟩

theorem openingTag?_eq_none_iff {text : List Char} :
    openingTag? text = none ↔ ∀ kind rest, StartsWithName kind text rest → '>' ∉ rest := by
  simp only [openingTag?, Option.bind_eq_none_iff, Option.map_eq_none_iff, readTag?_eq_none_iff,
    Prod.forall, openingName?_eq_some_iff]

/-- A closing tag of a kind. Only space may stand behind its name. -/
def IsClosingTag (kind : BlockKind) (text : List Char) : Prop :=
  ∃ name space, text = ['<', '/'] ++ name ++ space ++ ['>'] ∧ sameName name kind.tagName = true ∧
    ∀ c ∈ space, isSpace c = true

def HoldsClosingTag (kind : BlockKind) (text : List Char) : Prop :=
  ∃ closing, IsClosingTag kind closing ∧ closing <:+: text

theorem afterClosingTag?_eq_some_iff {kind : BlockKind} {text rest : List Char} :
    afterClosingTag? kind text = some rest ↔ ∃ closing, IsClosingTag kind closing ∧ text = closing ++ rest := by
  simp only [afterClosingTag?, Option.bind_eq_some_iff, List.isPrefixOf?_eq_some_iff_append_eq, afterWord?_eq_some_iff]
  constructor
  · intro facts
    obtain ⟨-, rfl, behind, ⟨name, rfl, same⟩, angle⟩ := facts
    refine ⟨_, ⟨name, behind.takeWhile isSpace, rfl, same, ?_⟩, ?_⟩
    · exact fun c inside => List.all_eq_true.mp List.all_takeWhile c inside
    · have whole := List.takeWhile_append_dropWhile (p := isSpace) (l := behind)
      rw [← angle] at whole
      simpa using whole.symm
  · intro facts
    obtain ⟨-, ⟨name, space, rfl, same, spaces⟩, rfl⟩ := facts
    refine ⟨name ++ space ++ ['>'] ++ rest, by simp, space ++ ['>'] ++ rest, ⟨name, by simp, same⟩, ?_⟩
    rw [List.append_assoc, List.dropWhile_append_of_pos spaces]
    rfl

def IsAngle (c : Char) : Prop := c = '<' ∨ c = '>'

/-- The name of a block is made of letters: none of the signs of markup is part of it. -/
theorem not_mem_name {kind : BlockKind} {name : List Char} {sign : Char}
    (same : sameName name kind.tagName = true) (foreign : sign ∈ ['<', '>', '!']) : sign ∉ name := by
  intro inside
  have letter : sign.toLower ∈ kind.tagName := sameName_tagName.mp same ▸ List.mem_map_of_mem inside
  simp only [List.mem_cons, List.not_mem_nil, or_false] at foreign
  rcases foreign with rfl | rfl | rfl
  all_goals
    revert letter
    cases kind <;> decide

theorem not_isAngle_of_mem_name {kind : BlockKind} {name : List Char} {c : Char}
    (same : sameName name kind.tagName = true) (inside : c ∈ name) : ¬ IsAngle c := by
  intro either
  rcases either with rfl | rfl
  all_goals exact not_mem_name same (by simp) inside

/-- A closing tag has no angles but its own two. -/
theorem IsClosingTag.angles {kind : BlockKind} {text : List Char} (closes : IsClosingTag kind text) :
    ∃ inside, text = '<' :: (inside ++ ['>']) ∧ ∀ c ∈ inside, ¬ IsAngle c := by
  obtain ⟨name, space, rfl, same, spaces⟩ := closes
  refine ⟨'/' :: (name ++ space), by simp, ?_⟩
  simp only [List.mem_cons, List.mem_append]
  intro c either
  rcases either with rfl | named | blank
  · simp [IsAngle]
  · exact not_isAngle_of_mem_name same named
  · have space := spaces c blank
    intro either
    rcases either with rfl | rfl
    all_goals cases space

theorem recognises_commentEnd : Text.Recognises (List.isPrefixOf? ['-', '-', '>']) (· = ['-', '-', '>']) where
  reads text rest := by simp [eq_comm]
  nonempty := by simp
  apart front back found rest tail word known some more meets := by
    subst known
    match front, some with
    | [first], _ =>
      obtain ⟨-, rfl⟩ := List.cons.inj word
      cases (List.cons.inj (List.cons.inj meets).2).1
    | [first, second], _ =>
      obtain ⟨-, rfl⟩ := List.cons.inj (List.cons.inj word).2
      cases (List.cons.inj meets).1
    | first :: second :: third :: front, _ =>
      simp only [List.cons_append, List.cons.injEq, List.append_eq_nil_iff] at word
      exact more word.2.2.2.2

theorem recognises_closingTag (kind : BlockKind) :
    Text.Recognises (afterClosingTag? kind) (IsClosingTag kind) where
  reads text rest := afterClosingTag?_eq_some_iff
  nonempty := by
    intro closes
    obtain ⟨inside, empty, -⟩ := closes.angles
    cases empty
  apart front back found rest tail word known some more meets := by
    obtain ⟨inside, split, plain⟩ := word.angles
    obtain ⟨others, rfl, -⟩ := known.angles
    cases front with
    | nil => exact some rfl
    | cons first front =>
      cases back with
      | nil => exact more rfl
      | cons second back =>
        obtain ⟨rfl, -⟩ := List.cons.inj meets
        have member : '<' ∈ inside ++ ['>'] := (List.cons.inj split).2 ▸ List.mem_append_right _ List.mem_cons_self
        rcases List.mem_append.mp member with early | last
        · exact plain _ early (.inl rfl)
        · cases List.mem_singleton.mp last

theorem cutAtCommentEnd_eq_some_iff {text before behind : List Char} :
    Text.cutAtMark? ['-', '-', '>'] text = some (before, behind) ↔
      text = before ++ ['-', '-', '>'] ++ behind ∧ ¬ ['-', '-', '>'] <:+: before := by
  simp [Text.cutAtMark?, recognises_commentEnd.cut_eq_some_iff]

theorem cutAtClosingTag?_eq_some_iff {kind : BlockKind} {text before behind : List Char} :
    cutAtClosingTag? kind text = some (before, behind) ↔
      ∃ closing, IsClosingTag kind closing ∧ text = before ++ closing ++ behind ∧
        ¬ HoldsClosingTag kind before := by
  simp [cutAtClosingTag?, (recognises_closingTag kind).cut_eq_some_iff, HoldsClosingTag]

theorem cutAtClosingTag?_eq_none_iff {kind : BlockKind} {text : List Char} :
    cutAtClosingTag? kind text = none ↔ ¬ HoldsClosingTag kind text := by
  simp [cutAtClosingTag?, (recognises_closingTag kind).cut_eq_none_iff, HoldsClosingTag]

end PageAssets.Markup
