import PageAssets.Proofs.Markup.Cutting
import PageAssets.Proofs.Offsets.Tags

/-! Where an opening tag ends, told by an automaton that goes through the bytes once and keeps nothing but
its mode. Main statement: a tag is read to the closing angle that the automaton meets outside of quotes, or
to the first one if it meets none. -/

namespace PageAssets.Offsets
open Text Markup

inductive Mode where
  | beforeName
  | inName
  | afterName
  | beforeValue
  | quoted (mark : UInt8)
  | bare
  deriving DecidableEq, Repr

namespace Mode

def isQuoted : Mode → Bool
  | quoted _ => true
  | _ => false

/-- A byte outside of a value. Space behind a name may still have an equals sign behind it. -/
def outside (spaced : Mode) (byte : UInt8) : Mode :=
  if isSpaceByte byte then spaced
  else if byte = '/'.toUInt8 then beforeName
  else if byte = '='.toUInt8 then beforeValue
  else inName

/-- The mode behind one more byte of the tag. A quote opens a value only where a value is due. -/
def after : Mode → UInt8 → Mode
  | beforeName, byte => outside beforeName byte
  | inName, byte | afterName, byte => outside afterName byte
  | beforeValue, byte => if isSpaceByte byte then beforeValue else if isQuoteByte byte then quoted byte else bare
  | quoted mark, byte => if byte = mark then beforeName else quoted mark
  | bare, byte => if isSpaceByte byte then beforeName else bare

def angle? (mode : Mode) : List UInt8 → Option Nat
  | [] => none
  | byte :: rest =>
    if byte = '>'.toUInt8 && !mode.isQuoted then some 0
    else ((mode.after byte).angle? rest).map (· + 1)

end Mode

/-- How many bytes stand in front of the angle that closes a tag. A quote that stays open does not count. -/
def closingAngle? (bytes : List UInt8) : Option Nat :=
  (Mode.beforeName.angle? bytes).or (bytes.findIdx? (· = '>'.toUInt8))

namespace Mode
variable {mode next : Mode} {byte : UInt8} {bytes run rest : List UInt8} {test : UInt8 → Bool}

theorem angle?_cons (goes : byte = '>'.toUInt8 → mode.isQuoted = true) :
    mode.angle? (byte :: rest) = ((mode.after byte).angle? rest).map (· + 1) := by
  rw [angle?, if_neg]
  simpa using goes

theorem angle?_closing (unquoted : mode.isQuoted = false) : mode.angle? ('>'.toUInt8 :: rest) = some 0 := by
  simp [angle?, unquoted]

/-- Modes without quotes find the same angle when one byte takes them to modes that do. -/
theorem angle?_congr (first : mode.isQuoted = false) (second : next.isQuoted = false)
    (same : ∀ byte rest, bytes = byte :: rest → byte ≠ '>'.toUInt8 →
      (mode.after byte).angle? rest = (next.after byte).angle? rest) :
    mode.angle? bytes = next.angle? bytes := by
  cases bytes with
  | nil => rfl
  | cons byte rest =>
    by_cases closing : byte = '>'.toUInt8
    · rw [closing, angle?_closing first, angle?_closing second]
    · rw [angle?_cons (absurd · closing), angle?_cons (absurd · closing), same byte rest rfl closing]

theorem angle?_of_not_mem (absent : '>'.toUInt8 ∉ bytes) : mode.angle? bytes = none := by
  induction bytes generalizing mode with
  | nil => rfl
  | cons byte rest ih =>
    rw [List.mem_cons, not_or] at absent
    rw [angle?_cons fun same => absurd same.symm absent.1, ih absent.2, Option.map_none]

/-- Behind a name and its space, all goes on as in front of one. -/
theorem angle?_afterName (bytes : List UInt8) : afterName.angle? bytes = beforeName.angle? bytes := by
  induction bytes with
  | nil => rfl
  | cons byte rest ih =>
    refine angle?_congr rfl rfl ?_
    rintro _ _ ⟨rfl, rfl⟩ -
    simp only [after, outside]
    split
    · exact ih
    · rfl

theorem angle?_inName (bytes : List UInt8) : inName.angle? bytes = beforeName.angle? bytes := by
  refine angle?_congr rfl rfl fun byte rest _ _ => ?_
  simp only [after, outside]
  split
  · exact angle?_afterName rest
  · rfl

/-- Nothing but an equals sign leaves the outside of values. -/
theorem angle?_beforeName_cons (inside : byte ≠ '>'.toUInt8) (unassigned : byte ≠ '='.toUInt8) :
    beforeName.angle? (byte :: rest) = (beforeName.angle? rest).map (· + 1) := by
  rw [angle?_cons (absurd · inside)]
  simp only [after, outside, if_neg unassigned]
  split
  · rfl
  · split
    · rfl
    · rw [angle?_inName]

theorem angle?_bare (here : ∀ byte rest, bytes = byte :: rest → isBareValueByte byte = false) :
    bare.angle? bytes = beforeName.angle? bytes := by
  refine angle?_congr rfl rfl fun byte rest same inside => ?_
  have spaced : isSpaceByte byte = true := by
    simpa [isBareValueByte, inside] using here byte rest same
  simp only [after, outside, spaced, if_true]

theorem angle?_beforeValue
    (here : ∀ byte rest, bytes = byte :: rest → isSpaceByte byte = false ∧ isQuoteByte byte = false) :
    beforeValue.angle? bytes = bare.angle? bytes := by
  refine angle?_congr rfl rfl fun byte rest same _ => ?_
  obtain ⟨spaceless, unquoted⟩ := here byte rest same
  simp [after, spaceless, unquoted]

/-- The bytes of a sort leave a mode as it is, as far as it matters for the closing angle. -/
def Stays (mode : Mode) (test : UInt8 → Bool) : Prop :=
  ∀ byte rest, test byte = true → mode.angle? (byte :: rest) = (mode.angle? rest).map (· + 1)

theorem Stays.append (stays : mode.Stays test) (all : ∀ byte ∈ run, test byte = true) (rest : List UInt8) :
    mode.angle? (run ++ rest) = (mode.angle? rest).map (run.length + ·) := by
  induction run with
  | nil => simp
  | cons byte run ih =>
    rw [List.cons_append, stays byte _ (all byte List.mem_cons_self),
      ih fun other member => all other (List.mem_cons_of_mem _ member), Option.map_map]
    congr 1
    funext count
    simp only [Function.comp_apply, List.length_cons]
    omega

theorem Stays.of_after (kept : ∀ byte, test byte = true → (byte = '>'.toUInt8 → mode.isQuoted = true) ∧
    mode.after byte = mode) : mode.Stays test := by
  intro byte rest held
  obtain ⟨goes, same⟩ := kept byte held
  rw [angle?_cons goes, same]

/-- Outside of values, only an equals sign and the closing angle are of account. -/
theorem stays_outside (inside : test '>'.toUInt8 = false) (unassigned : test '='.toUInt8 = false) :
    beforeName.Stays test := by
  intro byte rest held
  apply angle?_beforeName_cons
  · rintro rfl
    exact absurd (inside.symm.trans held) Bool.false_ne_true
  · rintro rfl
    exact absurd (unassigned.symm.trans held) Bool.false_ne_true

theorem stays_beforeValue : beforeValue.Stays isSpaceByte := by
  refine .of_after fun byte spaced => ⟨?_, if_pos spaced⟩
  rintro rfl
  exact absurd spaced (by decide)

theorem stays_bare : bare.Stays isBareValueByte := by
  apply Stays.of_after
  intro byte held
  simp only [isBareValueByte, Bool.and_eq_true, Bool.not_eq_true', bne_iff_ne] at held
  exact ⟨(absurd · held.2), if_neg (by simp [held.1])⟩

theorem stays_quoted (mark : UInt8) : (quoted mark).Stays (· != mark) :=
  .of_after fun _ other => ⟨fun _ => rfl, if_neg (by simpa using other)⟩

/-- The automaton comes from a text to the rest of it and meets no closing angle on the way. -/
def Passes (mode : Mode) (text : List Char) (next : Mode) (rest : List Char) : Prop :=
  ∃ run, text = run ++ rest ∧ mode.angle? (octets text) = (next.angle? (octets rest)).map (byteSize run + ·)

/-- It comes to a place where a name may start, or the text runs out without a closing angle. -/
def Comes (mode : Mode) (text : List Char) : Option (List Char) → Prop
  | none => mode.angle? (octets text) = none
  | some rest => mode.Passes text beforeName rest

end Mode

namespace Mode.Passes
variable {mode between next : Mode} {text middle rest : List Char} {left : Option (List Char)}
  {test : UInt8 → Bool} {wanted : Char → Bool}

theorem of_eq (same : mode.angle? (octets text) = next.angle? (octets text)) : mode.Passes text next text := by
  refine ⟨[], rfl, ?_⟩
  rw [same]
  simp

theorem trans (first : mode.Passes text between middle) (second : between.Passes middle next rest) :
    mode.Passes text next rest := by
  obtain ⟨front, rfl, far⟩ := first
  obtain ⟨run, rfl, near⟩ := second
  refine ⟨front ++ run, by rw [List.append_assoc], ?_⟩
  rw [far, near, Option.map_map, byteSize_append]
  congr 1
  funext count
  exact (Nat.add_assoc _ _ _).symm

theorem comes (first : mode.Passes text between middle) (further : between.Comes middle left) :
    mode.Comes text left := by
  cases left with
  | some rest => exact first.trans further
  | none =>
    obtain ⟨front, rfl, far⟩ := first
    have near : between.angle? (octets middle) = none := further
    rw [Comes, far, near, Option.map_none]

/-- A run of characters is passed byte by byte. -/
theorem dropWhile (agrees : Agrees test wanted) (stays : mode.Stays test) (text : List Char) :
    mode.Passes text mode (text.dropWhile wanted) := by
  refine ⟨text.takeWhile wanted, List.takeWhile_append_dropWhile.symm, ?_⟩
  have all := agrees.forall_octets (List.all_takeWhile (l := text))
  rw [← length_octets, ← stays.append all, ← octets_append, List.takeWhile_append_dropWhile]

/-- A sign that is no closing angle takes one step. -/
theorem cons {c : Char} (ascii : c.toNat < 128) (goes : c = '>' → mode.isQuoted = true) (rest : List Char) :
    mode.Passes (c :: rest) (mode.after c.toUInt8) rest := by
  refine ⟨[c], rfl, ?_⟩
  have size : c.utf8Size = 1 := by
    rw [← String.length_utf8EncodeChar, encode_ascii ascii, List.length_singleton]
  rw [octets_cons, encode_ascii ascii, List.singleton_append, angle?_cons, byteSize_cons, size, byteSize_nil]
  · simp only [Nat.add_comm]
  · intro same
    exact goes ((toUInt8_inj ascii (by decide)).mp same)

end Mode.Passes

section Reading
open Mode
variable {text rest : List Char} {c : Char}

theorem passes_opening (quote : isQuote c = true) (rest : List Char) :
    beforeValue.Passes (c :: rest) (quoted c.toUInt8) rest := by
  simp only [isQuote, Bool.or_eq_true, decide_eq_true_eq] at quote
  rcases quote with rfl | rfl
  · exact Passes.cons (by decide) (by decide) rest
  · exact Passes.cons (by decide) (by decide) rest

/-- A quoted value is passed up to its own quote, whatever else stands in it. -/
theorem passes_quoted (ascii : c.toNat < 128) (rest : List Char) :
    (quoted c.toUInt8).Passes rest (quoted c.toUInt8) (rest.dropWhile (· != c)) :=
  .dropWhile (Agrees.sign ascii).not (stays_quoted _) rest

theorem passes_closing (ascii : c.toNat < 128) (rest : List Char) :
    (quoted c.toUInt8).Passes (c :: rest) beforeName rest := by
  have closes : (quoted c.toUInt8).after c.toUInt8 = beforeName := if_pos rfl
  exact closes ▸ Passes.cons ascii (fun _ => rfl) rest

/-- A value without quotes is passed up to the space or the angle behind it. -/
theorem passes_bare (spaceless : isSpace c = false) (unquoted : isQuote c = false) (rest : List Char) :
    beforeValue.Passes (c :: rest) beforeName ((c :: rest).dropWhile isBareValueChar) := by
  obtain ⟨first, others, encoded⟩ := exists_encode c
  have enters : beforeValue.Passes (c :: rest) bare (c :: rest) := by
    refine .of_eq (angle?_beforeValue ?_)
    intro byte bytes split
    rw [octets_cons, encoded, List.cons_append] at split
    obtain ⟨rfl, -⟩ := List.cons.inj split
    have member : first ∈ String.utf8EncodeChar c := encoded ▸ List.mem_cons_self
    exact ⟨(agrees_isSpace c first member).trans spaceless, (agrees_isQuote c first member).trans unquoted⟩
  refine (enters.trans (.dropWhile agrees_isBareValueChar stays_bare _)).trans (.of_eq (angle?_bare ?_))
  intro byte bytes split
  have stops := List.head?_dropWhile_not isBareValueChar (c :: rest)
  have held := head?_octets agrees_isBareValueChar ((c :: rest).dropWhile isBareValueChar)
  rw [split, List.head?_cons, Option.any_some] at held
  cases ended : ((c :: rest).dropWhile isBareValueChar).head? with
  | none => rw [held, ended, Option.any_none]
  | some d =>
    rw [ended] at stops
    rw [held, ended, Option.any_some]
    simpa using stops

/-- Where a value is due, the automaton passes what is read as the value. -/
theorem comes_readValue (text : List Char) :
    beforeValue.Comes (text.dropWhile isSpace) (readValue (text.dropWhile isSpace)).2 := by
  have start := List.head?_dropWhile_not isSpace text
  generalize text.dropWhile isSpace = text at start ⊢
  cases text with
  | nil => exact Passes.of_eq rfl
  | cons c rest =>
    rw [readValue]
    split
    next quote =>
      have ascii : c.toNat < 128 := by
        simp only [isQuote, Bool.or_eq_true, decide_eq_true_eq] at quote
        rcases quote with rfl | rfl <;> decide
      have passed := (passes_opening quote rest).trans (passes_quoted ascii rest)
      have closing := List.head?_dropWhile_not (· != c) rest
      split
      next ended =>
        rw [ended] at passed
        exact passed.comes rfl
      next d behind ended =>
        rw [ended] at passed closing
        obtain rfl : d = c := by simpa using closing
        exact passed.trans (passes_closing ascii behind)
    next bare =>
      exact passes_bare (by simpa using start) (by simpa using bare) rest

theorem comes_readAttribute (text : List Char) : beforeName.Comes text (readAttribute text).2 := by
  have named : beforeName.Passes text beforeName ((text.dropWhile isNameChar).dropWhile isSpace) :=
    (Passes.dropWhile agrees_isNameChar (stays_outside (by decide) (by decide)) text).trans
      (Passes.dropWhile agrees_isSpace (stays_outside (by decide) (by decide)) _)
  by_cases assigned : ∃ rest, (text.dropWhile isNameChar).dropWhile isSpace = '=' :: rest
  · obtain ⟨rest, assigned⟩ := assigned
    rw [readAttribute_of_equals assigned]
    rw [assigned] at named
    refine (named.trans (Passes.cons (by decide) (by decide) rest)).comes ?_
    exact (Passes.dropWhile agrees_isSpace stays_beforeValue rest).comes (comes_readValue rest)
  · rw [readAttribute_of_ne_equals (not_exists.mp assigned)]
    exact named

/-- The automaton comes to the closing angle that is found when the attributes are read. -/
theorem comes_readAttributes (text : List Char) :
    beforeName.Comes text ((readAttributes text).2.map ('>' :: ·)) := by
  have separated (text : List Char) : beforeName.Passes text beforeName (text.dropWhile isSeparator) :=
    .dropWhile agrees_isSeparator (stays_outside (by decide) (by decide)) text
  fun_induction readAttributes text with
  | case1 text blank =>
    have blank := blank ▸ separated text
    exact blank.comes rfl
  | case2 text rest closing =>
    have closing := closing ▸ separated text
    exact closing
  | case3 text c rest inside other first ended =>
    have read := comes_readAttribute (c :: rest)
    rw [ended] at read
    exact (inside ▸ separated text).comes read
  | case4 text c rest inside other first behind ended others ih =>
    have read := comes_readAttribute (c :: rest)
    rw [ended] at read
    exact (inside ▸ separated text).comes (read.comes ih)

theorem octets_angle (rest : List Char) : octets ('>' :: rest) = '>'.toUInt8 :: octets rest := by
  rw [octets_cons, encode_ascii (by decide), List.singleton_append]

theorem angle_mem_octets : '>'.toUInt8 ∈ octets text ↔ '>' ∈ text := by
  constructor
  · intro member
    by_contra outside
    have others : text.all (fun c => !decide (c = '>')) = true := by
      simpa [List.all_eq_true] using fun c inside (same : c = '>') => outside (same ▸ inside)
    exact absurd (agrees_angle.not.forall_octets others _ member) (by decide)
  · intro member
    obtain ⟨front, back, rfl⟩ := List.append_of_mem member
    rw [octets_append, octets_angle]
    exact List.mem_append_right _ List.mem_cons_self

theorem findIdx?_of_not_mem {bytes : List UInt8} (absent : '>'.toUInt8 ∉ bytes) :
    bytes.findIdx? (· = '>'.toUInt8) = none := by
  rw [List.findIdx?_eq_none_iff]
  intro byte member
  simpa using fun same : byte = '>'.toUInt8 => absent (same ▸ member)

/-- The first closing angle of a text is the first byte of this sort. -/
theorem findIdx?_angle {inside : List Char} (outside : '>' ∉ inside) (rest : List Char) :
    (octets (inside ++ '>' :: rest)).findIdx? (· = '>'.toUInt8) = some (byteSize inside) := by
  have absent := findIdx?_of_not_mem (mt angle_mem_octets.mp outside)
  rw [octets_append, List.findIdx?_append, absent, octets_angle, List.findIdx?_cons, if_pos (decide_eq_true rfl),
    length_octets]
  simp

theorem closingAngle?_of_not_mem {bytes : List UInt8} (absent : '>'.toUInt8 ∉ bytes) : closingAngle? bytes = none := by
  rw [closingAngle?, angle?_of_not_mem absent, Option.none_or, findIdx?_of_not_mem absent]

/-- A tag is read to the angle that closes it. -/
theorem readTag?_closingAngle {attributes : List Attribute} (found : readTag? text = some (attributes, rest)) :
    ∃ inside, text = inside ++ '>' :: rest ∧ closingAngle? (octets text) = some (byteSize inside) := by
  have comes := comes_readAttributes text
  cases closed : (readAttributes text).2 with
  | some behind =>
    have read := readAttributes_of_readTag? found (by simp [closed])
    rw [read] at comes
    obtain ⟨inside, split, met⟩ := comes
    refine ⟨inside, split, ?_⟩
    rw [closingAngle?, met, octets_angle, angle?_closing rfl]
    rfl
  | none =>
    rw [closed] at comes
    have unmet : beforeName.angle? (octets text) = none := comes
    obtain ⟨inside, split, first, -⟩ := (readTag?_of_open closed).mp found
    have outside : '>' ∉ inside := by
      intro member
      obtain ⟨front, back, rfl⟩ := List.append_of_mem member
      exact first ⟨front, back, by simp⟩
    refine ⟨inside, by simpa using split, ?_⟩
    rw [closingAngle?, unmet, Option.none_or, split, List.append_assoc]
    exact findIdx?_angle outside rest

end Reading

/-- The quote stays open, so the tag ends at its first closing angle and not at the last. -/
example : closingAngle? (octets " data-x=\"a>run()</script>".toList) = some 10 := by decide

end PageAssets.Offsets
