import PageAssets.Proofs.Offsets.Blocks

/-! Closing tags among the bytes of a document. Main statement: the search for a closing tag finds the
leftmost one behind its start, and misses none, whatever stands in front of it that only begins like one. -/

namespace PageAssets.Offsets
open Text Markup

/-- A closing tag as bytes: the mark, the name in any case of its letters, space, and the angle. -/
def IsClosingRun (kind : BlockKind) (run : List UInt8) : Prop :=
  ∃ name space, run = ['<'.toUInt8, '/'.toUInt8] ++ name ++ space ++ ['>'.toUInt8] ∧
    sameLetters name (octets kind.tagName) = true ∧ ∀ byte ∈ space, isSpaceByte byte = true

/-- The bytes of a document between two offsets are a closing tag. -/
def ClosesAt (document : List Char) (kind : BlockKind) (start stop : Nat) : Prop :=
  ∃ run, IsClosingRun kind run ∧ run <+: (octets document).drop start ∧ stop = start + run.length

section Signs
variable {document text : List Char} {offset : Nat} {sign : Char} {byte : UInt8} {more : List UInt8}

theorem At.cons {c : Char} (here : At document offset text) : At (c :: document) (c.utf8Size + offset) text := by
  refine ⟨here.ending.trans (List.suffix_cons _ _), ?_⟩
  rw [byteSize_cons, ← here.size, Nat.add_assoc]

/-- An ASCII byte is a character of its own, so it stands between two places of the document. -/
theorem At.of_ascii (ascii : byte.toNat < 128) (stands : (octets document)[offset]? = some byte) :
    ∃ text, At document offset text := by
  induction document generalizing offset with
  | nil => cases stands
  | cons c rest ih =>
    by_cases start : offset = 0
    · subst start
      exact ⟨_, At.start _⟩
    · have size := String.length_utf8EncodeChar c
      rw [octets_cons] at stands
      by_cases inside : offset < c.utf8Size
      · rw [List.getElem?_append_left (by omega)] at stands
        have member := List.mem_of_getElem? stands
        by_cases small : c.toNat < 128
        · rw [encode_ascii small, List.length_singleton] at size
          omega
        · have beyond := le_of_mem_encode (by omega) member
          omega
      · rw [List.getElem?_append_right (by omega), size] at stands
        obtain ⟨text, there⟩ := ih stands
        have whole : c.utf8Size + (offset - c.utf8Size) = offset := by omega
        exact ⟨text, whole ▸ there.cons⟩

/-- Text whose bytes begin with a sign of markup begins with that sign. -/
theorem exists_cons_of_octets (ascii : sign.toNat < 128) (begins : octets text = sign.toUInt8 :: more) :
    ∃ rest, text = sign :: rest ∧ octets rest = more := by
  have first := head?_octets (Agrees.sign ascii) text
  rw [begins] at first
  cases text with
  | nil => cases begins
  | cons c rest =>
    obtain rfl : c = sign := by simpa using first.symm
    rw [octets_cons, encode_ascii ascii] at begins
    exact ⟨rest, rfl, (List.cons.inj begins).2⟩

end Signs

section Runs
variable {document text rest : List Char} {kind : BlockKind} {offset start stop : Nat}

theorem sameLetters_of_sameName {name : List Char} (same : sameName name kind.tagName = true) :
    sameLetters (octets name) (octets kind.tagName) = true := by
  have word : afterWord? kind.tagName name = some [] := afterWord?_eq_some_iff.mpr ⟨name, by simp, same⟩
  have letters := sameLetters_octets (ascii_tagName kind) name
  rw [word, ← byteSize_of_sameName same, ← length_octets, List.take_length] at letters
  exact letters

theorem isClosingRun_octets {closing : List Char} (closes : IsClosingTag kind closing) :
    IsClosingRun kind (octets closing) := by
  obtain ⟨name, space, rfl, same, spaces⟩ := closes
  refine ⟨octets name, octets space, ?_, sameLetters_of_sameName same, ?_⟩
  · have mark : octets ['<', '/'] = ['<'.toUInt8, '/'.toUInt8] := by decide
    have angle : octets ['>'] = ['>'.toUInt8] := by decide
    rw [octets_append, octets_append, octets_append, mark, angle]
  · exact agrees_isSpace.forall_octets (List.all_eq_true.mpr spaces)

/-- Where the bytes of a closing tag stand, a closing tag is read, and the bytes end where it ends. -/
theorem At.exists_afterClosingTag? (here : At document offset text) (closes : ClosesAt document kind offset stop) :
    ∃ rest, afterClosingTag? kind text = some rest ∧ At document stop rest := by
  obtain ⟨run, ⟨name, space, rfl, letters, spaces⟩, ⟨more, begins⟩, rfl⟩ := closes
  have bytes : octets text = '<'.toUInt8 :: '/'.toUInt8 :: (name ++ (space ++ '>'.toUInt8 :: more)) := by
    rw [← here.drop_octets, ← begins]
    simp
  obtain ⟨_, rfl, slashed⟩ := exists_cons_of_octets (by decide) bytes
  obtain ⟨named, rfl, behindMark⟩ := exists_cons_of_octets (by decide) slashed
  have size : name.length = byteSize kind.tagName := by
    have lengths := congrArg List.length (of_decide_eq_true letters)
    rwa [List.length_map, List.length_map, length_octets] at lengths
  have word := sameLetters_octets (ascii_tagName kind) named
  rw [behindMark, List.take_left' size, letters] at word
  obtain ⟨spaced, word⟩ := Option.isSome_iff_exists.mp word.symm
  have begun : At document offset (['<', '/'] ++ named) := here
  have there : At document (offset + 2) named := begun.advance
  have behind := there.afterWord? word
  have left : octets spaced = space ++ '>'.toUInt8 :: more := by
    rw [← behind.drop_octets, ← List.drop_drop, there.drop_octets, behindMark, List.drop_left' size]
  have count := length_takeWhile_octets agrees_isSpace spaced
  rw [left, List.takeWhile_append_of_pos spaces, List.takeWhile_cons_of_neg (by decide), List.append_nil] at count
  obtain ⟨-, last⟩ := behind.skip agrees_isSpace
  have closed := last.drop_octets
  rw [← count, ← List.drop_drop, behind.drop_octets, left, List.drop_left] at closed
  obtain ⟨rest, angle, -⟩ := exists_cons_of_octets (by decide) closed.symm
  rw [angle] at last
  have ending : At document _ (['>'] ++ rest) := last
  refine ⟨rest, ?_, ?_⟩
  · have marked : List.isPrefixOf? ['<', '/'] ('<' :: '/' :: named) = some named :=
      List.isPrefixOf?_eq_some_iff_append_eq.mpr rfl
    rw [Markup.afterClosingTag?, marked, Option.bind_some, word, Option.bind_some, angle]
    exact List.isPrefixOf?_eq_some_iff_append_eq.mpr rfl
  · have ends : At document (offset + 2 + byteSize kind.tagName + byteSize (spaced.takeWhile isSpace) + 1) rest :=
      ending.advance
    have total : offset + 2 + byteSize kind.tagName + byteSize (spaced.takeWhile isSpace) + 1 =
        offset + (['<'.toUInt8, '/'.toUInt8] ++ name ++ space ++ ['>'.toUInt8]).length := by
      simp only [List.length_append, List.length_cons, List.length_nil]
      omega
    exact total ▸ ends

theorem ClosesAt.starts (closes : ClosesAt document kind start stop) :
    (octets document)[start]? = some '<'.toUInt8 := by
  obtain ⟨run, ⟨name, space, rfl, -⟩, ⟨more, begins⟩, -⟩ := closes
  rw [← List.head?_drop, ← begins]
  rfl

/-- A closing tag in the bytes of a document is a closing tag in its text. -/
theorem closesAt_iff :
    ClosesAt document kind start stop ↔
      ∃ text rest, At document start text ∧ afterClosingTag? kind text = some rest ∧ At document stop rest := by
  constructor
  · intro closes
    obtain ⟨text, here⟩ := At.of_ascii (by decide) closes.starts
    obtain ⟨rest, read, there⟩ := here.exists_afterClosingTag? closes
    exact ⟨text, rest, here, read, there⟩
  · intro facts
    obtain ⟨text, rest, here, read, there⟩ := facts
    obtain ⟨closing, closes, rfl⟩ := afterClosingTag?_eq_some_iff.mp read
    refine ⟨octets closing, isClosingRun_octets closes, ⟨octets rest, ?_⟩, ?_⟩
    · rw [here.drop_octets, octets_append]
    · rw [length_octets]
      exact there.unique here.advance

theorem ClosesAt.stop_unique {other : Nat} (closes : ClosesAt document kind start stop)
    (again : ClosesAt document kind start other) : stop = other := by
  obtain ⟨text, rest, here, read, there⟩ := closesAt_iff.mp closes
  obtain ⟨_, same, last⟩ := here.exists_afterClosingTag? again
  cases read.symm.trans same
  exact there.unique last

end Runs

/-- A closing tag behind an offset, with none between the offset and it. -/
structure Leftmost (document : List Char) (kind : BlockKind) (offset start stop : Nat) : Prop where
  behind : offset ≤ start
  closes : ClosesAt document kind start stop
  first : ∀ earlier last, offset ≤ earlier → ClosesAt document kind earlier last → start ≤ earlier

section Search
variable {document text before behind : List Char} {kind : BlockKind} {offset start stop : Nat}

theorem Leftmost.unique {other last : Nat} (one : Leftmost document kind offset start stop)
    (second : Leftmost document kind offset other last) : (start, stop) = (other, last) := by
  obtain rfl : start = other :=
    Nat.le_antisymm (one.first _ _ second.behind second.closes) (second.first _ _ one.behind one.closes)
  rw [one.closes.stop_unique second.closes]

/-- Where the text has no closing tag, none of its bytes make one. -/
theorem At.not_closesAt (here : At document offset text) (missing : cutAtClosingTag? kind text = none)
    (reached : offset ≤ start) : ¬ ClosesAt document kind start stop := by
  intro closes
  obtain ⟨place, rest, there, read, -⟩ := closesAt_iff.mp closes
  obtain ⟨run, rfl, -⟩ := here.exists_run there reached
  cases read.symm.trans (cutAtFirst?_eq_none_iff.mp missing run place rfl)

/-- The first closing tag of the text is the leftmost one in its bytes. -/
theorem At.leftmost (here : At document offset text) (cut : cutAtClosingTag? kind text = some (before, behind))
    (there : At document stop behind) : Leftmost document kind offset (offset + byteSize before) stop := by
  obtain ⟨place, rfl, read, first⟩ := cutAtFirst?_eq_some_iff.mp cut
  have found : At document (offset + byteSize before) place := here.advance
  refine ⟨Nat.le_add_right _ _, closesAt_iff.mpr ⟨place, behind, found, read, there⟩, ?_⟩
  intro earlier last reached closes
  obtain ⟨other, rest, standing, again, -⟩ := closesAt_iff.mp closes
  obtain ⟨run, split, -⟩ := here.exists_run standing reached
  by_contra further
  have longer : place.length < other.length := by
    by_contra shorter
    obtain ⟨between, same⟩ := List.suffix_of_suffix_length_le standing.ending found.ending (Nat.le_of_not_lt shorter)
    rw [← same] at found
    have := standing.unique found.advance
    omega
  have sizes := congrArg List.length split
  rw [List.length_append, List.length_append] at sizes
  cases again.symm.trans (first run other split (by omega))

/-- From any place between two characters, the search for a closing tag ends without a fault. It finds the
leftmost closing tag behind that place, and nothing exactly when there is none; and it agrees with the search
in the text. -/
theorem closingFrom_leftmost (kind : BlockKind) (front text : List Char) :
    ∃ found, closingFrom (front ++ text) kind (byteSize front) = pure found ∧
      (∀ start stop, found = some (start, stop) ↔ Leftmost (front ++ text) kind (byteSize front) start stop) ∧
      (found = none ↔ ∀ start stop, byteSize front ≤ start → ¬ ClosesAt (front ++ text) kind start stop) ∧
      Option.Rel (ClosingHolds (front ++ text) (byteSize front)) found (cutAtClosingTag? kind text) := by
  have here := At.behind front text
  obtain ⟨found, runs, holds⟩ := here.closing kind
  refine ⟨found, runs.loop_eq, ?_⟩
  cases cut : cutAtClosingTag? kind text with
  | none =>
    have missing (start stop : Nat) (reached : byteSize front ≤ start) :
        ¬ ClosesAt (front ++ text) kind start stop := here.not_closesAt cut reached
    rw [cut] at holds
    cases holds
    refine ⟨?_, by simpa using missing, .none⟩
    intro start stop
    simp only [reduceCtorEq, false_iff]
    intro leftmost
    exact missing start stop leftmost.behind leftmost.closes
  | some parts =>
    obtain ⟨before, behind⟩ := parts
    rw [cut] at holds
    cases holds with
    | @some place _ hold =>
      obtain ⟨start, stop⟩ := place
      obtain rfl := hold.front
      have leftmost := here.leftmost cut hold.behind
      refine ⟨?_, ?_, .some hold⟩
      · intro other last
        constructor
        · rintro ⟨rfl, rfl⟩
          exact leftmost
        · intro second
          exact congrArg some (leftmost.unique second)
      · simp only [reduceCtorEq, false_iff]
        intro missing
        exact missing _ _ leftmost.behind leftmost.closes

/-- What only begins like a closing tag is passed over, and a later one is left. -/
example : cutAtClosingTag? .style "</</stylex></style a></STYLE\n>p</style>".toList =
    some ("</</stylex></style a>".toList, "p</style>".toList) := by decide

end Search
end PageAssets.Offsets
