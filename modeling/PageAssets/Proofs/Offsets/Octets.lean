import PageAssets.Proofs.Markup.Readers
import PageAssets.Proofs.Offsets.Checked

/-! Tests on single bytes. Markup is made of ASCII signs, and no byte of another character looks like
one of them: a test that goes byte by byte comes to the same as one that goes character by character. So
a run of bytes ends between two characters. -/

namespace PageAssets.Offsets
open Text Markup

def isSpaceByte (byte : UInt8) : Bool :=
  byte = ' '.toUInt8 || byte = '\t'.toUInt8 || byte = '\n'.toUInt8 || byte = '\x0c'.toUInt8 || byte = '\r'.toUInt8

def isSeparatorByte (byte : UInt8) : Bool := isSpaceByte byte || byte = '/'.toUInt8

def isNameByte (byte : UInt8) : Bool :=
  !isSpaceByte byte && byte != '='.toUInt8 && byte != '>'.toUInt8 && byte != '/'.toUInt8

def isBareValueByte (byte : UInt8) : Bool := !isSpaceByte byte && byte != '>'.toUInt8

def isQuoteByte (byte : UInt8) : Bool := byte = '"'.toUInt8 || byte = '\''.toUInt8

def endsNameByte (byte : UInt8) : Bool := isSpaceByte byte || byte = '>'.toUInt8 || byte = '/'.toUInt8

def lowerByte (byte : UInt8) : UInt8 :=
  if 'A'.toUInt8 ≤ byte && byte ≤ 'Z'.toUInt8 then byte + 32 else byte

def sameLetters (left right : List UInt8) : Bool := left.map lowerByte = right.map lowerByte

section Encoding
variable {c : Char}

/-- What holds of every ASCII code holds of every ASCII character. -/
theorem forall_ascii {holds : Char → Prop} (all : ∀ code : Fin 128, holds (Char.ofNat code)) :
    ∀ c : Char, c.toNat < 128 → holds c := by
  intro c ascii
  have here := all ⟨c.toNat, ascii⟩
  rwa [Char.ofNat_toNat] at here

theorem toNat_toUInt8 (ascii : c.toNat < 128) : c.toUInt8.toNat = c.toNat := by
  have small : c.val.toNat < 128 := ascii
  rw [Char.toUInt8, UInt32.toNat_toUInt8]
  exact Nat.mod_eq_of_lt (by omega)

theorem toUInt8_inj {other : Char} (ascii : c.toNat < 128) (small : other.toNat < 128) :
    c.toUInt8 = other.toUInt8 ↔ c = other := by
  rw [← UInt8.toNat_inj, toNat_toUInt8 ascii, toNat_toUInt8 small, Char.toNat_inj]

theorem encode_ascii (ascii : c.toNat < 128) : String.utf8EncodeChar c = [c.toUInt8] := by
  have small : c.val ≤ 127 := UInt32.le_iff_toNat_le.mpr (Nat.le_of_lt_succ ascii)
  exact String.utf8EncodeChar_eq_singleton (Char.utf8Size_eq_one_iff.mpr small)

/-- All bytes of any other character are beyond ASCII. -/
theorem le_of_mem_encode (large : 128 ≤ c.toNat) {byte : UInt8} (member : byte ∈ String.utf8EncodeChar c) :
    128 ≤ byte.toNat := by
  have code : 128 ≤ c.val.toNat := large
  unfold String.utf8EncodeChar at member
  dsimp only at member
  split_ifs at member with one
  · omega
  all_goals
    simp only [List.mem_cons, List.not_mem_nil, or_false] at member
    rcases member with rfl | rfl | rfl | rfl
  all_goals
    rw [UInt8.toNat_ofNat']
    omega

theorem toLower_of_le (large : 128 ≤ c.toNat) : c.toLower = c := by
  have code : 128 ≤ c.val.toNat := large
  refine dif_neg ?_
  intro capital
  have last : c.val.toNat ≤ 90 := UInt32.le_iff_toNat_le.mp capital.2
  omega

theorem toLower_ascii (ascii : c.toNat < 128) :
    c.toLower.toNat < 128 ∧ lowerByte c.toUInt8 = c.toLower.toUInt8 ∧ c.toLower.utf8Size = c.utf8Size := by
  revert c
  apply forall_ascii
  decide

theorem lowerByte_of_le {byte : UInt8} (large : 128 ≤ byte.toNat) : lowerByte byte = byte := by
  have small : ¬ byte ≤ 'Z'.toUInt8 := by
    rw [UInt8.le_iff_toNat_le]
    have last : 'Z'.toUInt8.toNat = 90 := rfl
    omega
  rw [lowerByte, if_neg (by simp [small])]

theorem utf8Size_toLower (c : Char) : c.toLower.utf8Size = c.utf8Size := by
  by_cases ascii : c.toNat < 128
  · exact (toLower_ascii ascii).2.2
  · rw [toLower_of_le (by omega)]

end Encoding

theorem byteSize_of_sameName {name word : List Char} (same : sameName name word = true) :
    byteSize name = byteSize word := by
  have lower (text : List Char) : byteSize (text.map Char.toLower) = byteSize text := by
    induction text with
    | nil => rfl
    | cons c rest ih => rw [List.map_cons, byteSize_cons, byteSize_cons, ih, utf8Size_toLower]
  rw [sameName, decide_eq_true_eq] at same
  rw [← lower name, same, lower]

/-- A test of bytes that comes out for every byte of a character as another test does for the character. -/
def Agrees (test : UInt8 → Bool) (wanted : Char → Bool) : Prop :=
  ∀ c, ∀ byte ∈ String.utf8EncodeChar c, test byte = wanted c

namespace Agrees

theorem sign {letter : Char} (ascii : letter.toNat < 128) :
    Agrees (fun byte => byte = letter.toUInt8) (fun c => c = letter) := by
  intro c byte member
  by_cases small : c.toNat < 128
  · rw [encode_ascii small, List.mem_singleton] at member
    rw [member, decide_eq_decide]
    exact toUInt8_inj small ascii
  · have beyond := le_of_mem_encode (by omega) member
    have different : byte ≠ letter.toUInt8 := by
      rintro rfl
      rw [toNat_toUInt8 ascii] at beyond
      omega
    have other : c ≠ letter := by
      rintro rfl
      exact small ascii
    exact (decide_eq_false different).trans (decide_eq_false other).symm

variable {test second : UInt8 → Bool} {wanted other : Char → Bool}

theorem or (first : Agrees test wanted) (further : Agrees second other) :
    Agrees (fun byte => test byte || second byte) (fun c => wanted c || other c) := by
  intro c byte member
  simp only [first c byte member, further c byte member]

theorem and (first : Agrees test wanted) (further : Agrees second other) :
    Agrees (fun byte => test byte && second byte) (fun c => wanted c && other c) := by
  intro c byte member
  simp only [first c byte member, further c byte member]

theorem not (agrees : Agrees test wanted) : Agrees (fun byte => !test byte) (fun c => !wanted c) :=
  fun c byte member => congrArg _ (agrees c byte member)

theorem forall_octets (agrees : Agrees test wanted) {text : List Char} (all : text.all wanted = true) :
    ∀ byte ∈ octets text, test byte = true := by
  induction text with
  | nil => nofun
  | cons c rest ih =>
    rw [List.all_cons, Bool.and_eq_true] at all
    intro byte member
    rw [octets_cons, List.mem_append] at member
    rcases member with here | later
    · exact (agrees c byte here).trans all.1
    · exact ih all.2 byte later

end Agrees

theorem agrees_lower {letter : Char} (ascii : letter.toNat < 128) :
    Agrees (fun byte => lowerByte byte = letter.toUInt8) (fun c => c.toLower = letter) := by
  intro c byte member
  dsimp only
  by_cases small : c.toNat < 128
  · rw [encode_ascii small, List.mem_singleton] at member
    obtain ⟨still, lower, -⟩ := toLower_ascii small
    rw [member, lower, decide_eq_decide]
    exact toUInt8_inj still ascii
  · have beyond := le_of_mem_encode (by omega) member
    rw [lowerByte_of_le beyond, toLower_of_le (by omega)]
    exact Agrees.sign ascii c byte member

theorem agrees_isSpace : Agrees isSpaceByte isSpace :=
  ((((Agrees.sign (by decide)).or (.sign (by decide))).or (.sign (by decide))).or (.sign (by decide))).or
    (.sign (by decide))

theorem agrees_isSeparator : Agrees isSeparatorByte isSeparator := agrees_isSpace.or (.sign (by decide))

theorem agrees_isNameChar : Agrees isNameByte isNameChar :=
  ((agrees_isSpace.not.and (Agrees.sign (by decide)).not).and (Agrees.sign (by decide)).not).and
    (Agrees.sign (by decide)).not

theorem agrees_isBareValueChar : Agrees isBareValueByte isBareValueChar :=
  agrees_isSpace.not.and (Agrees.sign (by decide)).not

theorem agrees_isQuote : Agrees isQuoteByte isQuote := (Agrees.sign (by decide)).or (.sign (by decide))

theorem agrees_equals : Agrees (fun byte => byte = '='.toUInt8) (fun c => c = '=') := .sign (by decide)

theorem agrees_angle : Agrees (fun byte => byte = '>'.toUInt8) (fun c => c = '>') := .sign (by decide)

theorem agrees_endsName : Agrees endsNameByte (fun c => isSpace c || c = '>' || c = '/') :=
  (agrees_isSpace.or agrees_angle).or (.sign (by decide))

variable (document : List Char)

/-- A test of the byte at an offset, which fails at the end of the document. -/
def holdsAt (test : UInt8 → Bool) (offset : Nat) : Checked Bool :=
  if offset < byteSize document then do return test (← byteAt document offset)
  else return false

def skip (test : UInt8 → Bool) : Nat → Checked Nat :=
  loop fun offset => do
    if ← holdsAt document test offset then return .onward (offset + 1)
    else return .done offset

/-- Tells whether some word stands at an offset, in any case of its letters. -/
def wordAt (word : List Char) (offset : Nat) : Checked Bool :=
  if offset + byteSize word ≤ byteSize document then do
    return sameLetters (← byteRange document offset (offset + byteSize word)) (octets word)
  else return false

section Bytes
variable {document : List Char} {offset : Nat} {test : UInt8 → Bool} {wanted : Char → Bool}

theorem holdsAt_eq (document : List Char) (test : UInt8 → Bool) (offset : Nat) :
    holdsAt document test offset = pure (((octets document).drop offset).head?.any test) := by
  rw [List.head?_drop, holdsAt, byteAt, ← length_octets]
  split
  next inside => rw [List.getElem?_eq_getElem inside, pure_bind, Option.any_some]
  next outside => rw [List.getElem?_eq_none (Nat.le_of_not_lt outside), Option.any_none]

theorem skip_of_not (stops : holdsAt document test offset = pure false) : skip document test offset = pure offset := by
  rw [skip]
  apply loop_of_done
  rw [stops, pure_bind, if_neg Bool.false_ne_true]

theorem skip_of_holds (goes : holdsAt document test offset = pure true) :
    skip document test offset = skip document test (offset + 1) := by
  rw [skip]
  apply loop_of_onward
  rw [goes, pure_bind, if_pos rfl]

/-- A run of bytes ends in front of the first one that fails the test, or at the end of the document. -/
theorem skip_eq {left : List UInt8} (behind : (octets document).drop offset = left) :
    skip document test offset = pure (offset + (left.takeWhile test).length) := by
  have here := holdsAt_eq document test offset
  rw [behind] at here
  induction left generalizing offset with
  | nil => exact skip_of_not here
  | cons byte rest ih =>
    cases holds : test byte with
    | false =>
      rw [skip_of_not (here.trans (congrArg pure holds)), List.takeWhile_cons_of_neg (by simp [holds])]
      rfl
    | true =>
      have further : (octets document).drop (offset + 1) = rest := by rw [← List.tail_drop, behind, List.tail_cons]
      have next := holdsAt_eq document test (offset + 1)
      rw [further] at next
      rw [skip_of_holds (here.trans (congrArg pure holds)), ih further next, List.takeWhile_cons_of_pos holds,
        List.length_cons, Nat.add_assoc, Nat.add_comm 1]

theorem exists_encode (c : Char) : ∃ byte others, String.utf8EncodeChar c = byte :: others :=
  List.exists_cons_of_length_pos (by rw [String.length_utf8EncodeChar]; exact c.utf8Size_pos)

theorem head?_octets (agrees : Agrees test wanted) (text : List Char) :
    (octets text).head?.any test = text.head?.any wanted := by
  cases text with
  | nil => rfl
  | cons c rest =>
    obtain ⟨byte, others, encoded⟩ := exists_encode c
    have same := agrees c byte (encoded ▸ List.mem_cons_self)
    simp [octets_cons, encoded, same]

theorem length_takeWhile_octets (agrees : Agrees test wanted) (text : List Char) :
    ((octets text).takeWhile test).length = byteSize (text.takeWhile wanted) := by
  induction text with
  | nil => rfl
  | cons c rest ih =>
    rw [octets_cons]
    by_cases holds : wanted c = true
    · have all : ∀ byte ∈ String.utf8EncodeChar c, test byte = true :=
        fun byte member => (agrees c byte member).trans holds
      rw [List.takeWhile_append_of_pos all, List.length_append, String.length_utf8EncodeChar, ih,
        List.takeWhile_cons_of_pos holds, byteSize_cons]
    · obtain ⟨byte, others, encoded⟩ := exists_encode c
      have fails : ¬ test byte = true := by rwa [agrees c byte (encoded ▸ List.mem_cons_self)]
      rw [encoded, List.cons_append, List.takeWhile_cons_of_neg fails, List.takeWhile_cons_of_neg holds]
      rfl

theorem octets_ascii {word : List Char} (ascii : ∀ c ∈ word, c.toNat < 128) : octets word = word.map Char.toUInt8 := by
  induction word with
  | nil => rfl
  | cons c rest ih =>
    rw [octets_cons, encode_ascii (ascii c List.mem_cons_self),
      ih fun d member => ascii d (List.mem_cons_of_mem _ member)]
    rfl

/-- Words of ASCII letters are compared byte by byte as they are letter by letter. -/
theorem sameLetters_octets {word : List Char} (ascii : ∀ c ∈ word, c.toNat < 128) (text : List Char) :
    sameLetters ((octets text).take (byteSize word)) (octets word) = (afterWord? word text).isSome := by
  induction word generalizing text with
  | nil => simp [sameLetters, afterWord?]
  | cons letter word ih =>
    have small := ascii letter List.mem_cons_self
    have size : byteSize (letter :: word) = byteSize word + 1 := by
      rw [← length_octets, octets_cons, encode_ascii small, List.cons_append, List.nil_append, List.length_cons,
        length_octets]
    rw [octets_cons, encode_ascii small, size]
    obtain ⟨still, lower, -⟩ := toLower_ascii small
    cases text with
    | nil => simp [sameLetters, afterWord?]
    | cons c rest =>
      obtain ⟨byte, others, encoded⟩ := exists_encode c
      have first := agrees_lower still c byte (encoded ▸ List.mem_cons_self)
      rw [octets_cons, afterWord?]
      by_cases same : c.toLower = letter.toLower
      · have single : c.toNat < 128 := by
          rcases Nat.lt_or_ge c.toNat 128 with small | large
          · exact small
          · rwa [← same, toLower_of_le large] at still
        rw [encode_ascii single, List.cons.injEq] at encoded
        obtain ⟨rfl, -⟩ := encoded
        have further := ih (fun d member => ascii d (List.mem_cons_of_mem _ member)) rest
        rw [if_pos same, ← further, encode_ascii single]
        simp only [same, decide_true, decide_eq_true_eq] at first
        simp [sameLetters, first, lower]
      · simp only [same, decide_false, decide_eq_false_iff_not] at first
        rw [if_neg same, encoded]
        simp [sameLetters, first, lower]

theorem ascii_tagName (kind : BlockKind) : ∀ c ∈ kind.tagName, c.toNat < 128 := by
  cases kind <;> simp [BlockKind.tagName]

end Bytes

namespace At
variable {document text rest : List Char} {offset : Nat} {test : UInt8 → Bool} {wanted : Char → Bool}

/-- A test of the next byte is a test of the next character. -/
theorem holdsAt (here : At document offset text) (agrees : Agrees test wanted) :
    holdsAt document test offset = pure (text.head?.any wanted) := by
  rw [holdsAt_eq, here.drop_octets, head?_octets agrees]

theorem byteAt {c : Char} (here : At document offset (c :: text)) :
    ∃ byte ∈ String.utf8EncodeChar c, byteAt document offset = pure byte := by
  obtain ⟨byte, others, encoded⟩ := exists_encode c
  have first := congrArg List.head? here.drop_octets
  rw [List.head?_drop, octets_cons, encoded, List.cons_append, List.head?_cons] at first
  exact ⟨byte, encoded ▸ List.mem_cons_self, by rw [Offsets.byteAt, first]⟩

/-- A run of bytes is a run of characters, so it ends between two of them. -/
theorem skip (here : At document offset text) (agrees : Agrees test wanted) :
    skip document test offset = pure (offset + byteSize (text.takeWhile wanted)) ∧
      At document (offset + byteSize (text.takeWhile wanted)) (text.dropWhile wanted) := by
  refine ⟨by rw [skip_eq here.drop_octets, length_takeWhile_octets agrees], ?_⟩
  rw [← List.takeWhile_append_dropWhile (p := wanted) (l := text)] at here
  exact here.advance

theorem afterWord? {word : List Char} (here : At document offset text) (read : afterWord? word text = some rest) :
    At document (offset + byteSize word) rest := by
  obtain ⟨name, rfl, same⟩ := afterWord?_eq_some_iff.mp read
  rw [← byteSize_of_sameName same]
  exact here.advance

theorem byteRange {size : Nat} (here : At document offset text) (inside : offset + size ≤ byteSize document) :
    byteRange document offset (offset + size) = pure ((octets text).take size) := by
  rw [Offsets.byteRange, if_neg (by omega), if_neg (by omega), ← here.drop_octets, List.drop_take,
    Nat.add_sub_cancel_left]

theorem wordAt {word : List Char} (here : At document offset text) (ascii : ∀ c ∈ word, c.toNat < 128) :
    wordAt document word offset = pure (Markup.afterWord? word text).isSome := by
  rw [Offsets.wordAt]
  split
  next inside => rw [here.byteRange inside, pure_bind, sameLetters_octets ascii text]
  next outside =>
    cases read : Markup.afterWord? word text with
    | none => rfl
    | some rest => exact absurd (here.afterWord? read).le outside

end At
end PageAssets.Offsets
