import Mathlib.Tactic.SplitIfs
import PageAssets.Text.Bytes

/-! The UTF-8 encoding of text: its size, reading it back, and its order. Bytes compare as the text
does. -/

namespace PageAssets.Text

theorem utf8ByteSize_ofList (text : List Char) : (String.ofList text).utf8ByteSize = byteSize text := by
  induction text with
  | nil => rfl
  | cons c rest ih =>
    rw [← String.size_toByteArray, String.toByteArray_ofList] at ih ⊢
    rw [List.utf8Encode_cons, ByteArray.size_append, ih, byteSize_cons, List.utf8Encode_singleton,
      List.size_toByteArray, String.length_utf8EncodeChar]

theorem fromUTF8?_toUTF8 (text : String) : String.fromUTF8? text.toUTF8 = some text := by
  have valid : text.toUTF8.IsValidUTF8 := text.isValidUTF8
  rw [String.fromUTF8?, dif_pos valid]
  rfl

theorem fromUTF8?_eq_some_iff {bytes : ByteArray} {text : String} :
    String.fromUTF8? bytes = some text ↔ bytes = text.toUTF8 := by
  constructor
  · intro read
    rw [String.fromUTF8?] at read
    split at read
    next =>
      cases read
      rfl
    next => cases read
  · rintro rfl
    exact fromUTF8?_toUTF8 text

def bytes (text : String) : List UInt8 := text.toUTF8.data.toList

theorem bytes_ofList_cons (c : Char) (text : List Char) :
    bytes (String.ofList (c :: text)) = String.utf8EncodeChar c ++ bytes (String.ofList text) := by
  rw [bytes, bytes, String.toUTF8, String.toUTF8, String.toByteArray_ofList, String.toByteArray_ofList,
    List.utf8Encode_cons, List.utf8Encode_singleton, ByteArray.data_append, Array.toList_append, List.data_toByteArray]

theorem encodeChar_lt {c d : Char} (smaller : c < d) (rest others : List UInt8) :
    String.utf8EncodeChar c ++ rest < String.utf8EncodeChar d ++ others := by
  have code : c.val.toNat < d.val.toNat := smaller
  have last : d.val.toNat < 0x110000 := by
    rcases d.valid with low | high <;> omega
  unfold String.utf8EncodeChar
  generalize c.val.toNat = v at code ⊢
  generalize d.val.toNat = w at code last ⊢
  dsimp only
  split_ifs
  all_goals simp only [List.cons_append, List.nil_append, List.cons_lt_cons_iff, UInt8.lt_iff_toNat_lt,
    ← UInt8.toNat_inj, UInt8.toNat_ofNat']
  all_goals simp (disch := omega) only [Nat.mod_eq_of_lt, Nat.add_lt_add_iff_right, Nat.add_right_cancel_iff]
  all_goals omega

theorem bytes_lt {first second : String} (smaller : first < second) : bytes first < bytes second := by
  have lists : first.toList < second.toList := smaller
  rw [← String.ofList_toList (s := first), ← String.ofList_toList (s := second)]
  generalize first.toList = text at lists
  generalize second.toList = other at lists
  induction lists with
  | @nil c rest =>
    obtain ⟨byte, others, some⟩ := List.exists_cons_of_length_pos (l := String.utf8EncodeChar c)
      (by rw [String.length_utf8EncodeChar]; exact c.utf8Size_pos)
    rw [bytes_ofList_cons, some]
    exact .nil
  | rel smaller =>
    rw [bytes_ofList_cons, bytes_ofList_cons]
    exact encodeChar_lt smaller _ _
  | cons _ ih =>
    rw [bytes_ofList_cons, bytes_ofList_cons]
    exact List.append_left_lt ih

end PageAssets.Text
