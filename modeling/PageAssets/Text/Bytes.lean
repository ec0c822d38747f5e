/-! Sizes and readings of text as bytes. Offsets into a document count the bytes of its UTF-8
encoding; a file name need not be text at all and is then shown with replacement characters. -/

namespace PageAssets.Text

def byteSize : List Char → Nat
  | [] => 0
  | c :: text => c.utf8Size + byteSize text

@[simp] theorem byteSize_nil : byteSize [] = 0 := rfl

@[simp] theorem byteSize_cons (c : Char) (text : List Char) :
    byteSize (c :: text) = c.utf8Size + byteSize text := rfl

@[simp] theorem byteSize_append (first second : List Char) :
    byteSize (first ++ second) = byteSize first + byteSize second := by
  induction first with
  | nil => simp
  | cons c rest ih => simp [ih, Nat.add_assoc]

/-- The characters at the start of a text that fit into a number of bytes. -/
def takeBytes : Nat → List Char → List Char
  | _, [] => []
  | size, c :: text => if c.utf8Size ≤ size then c :: takeBytes (size - c.utf8Size) text else []

def dropBytes : Nat → List Char → List Char
  | _, [] => []
  | size, c :: text => if c.utf8Size ≤ size then dropBytes (size - c.utf8Size) text else c :: text

@[simp] theorem takeBytes_zero (text : List Char) : takeBytes 0 text = [] := by
  cases text with
  | nil => rfl
  | cons c rest => simp [takeBytes, Nat.ne_of_gt c.utf8Size_pos]

@[simp] theorem dropBytes_zero (text : List Char) : dropBytes 0 text = text := by
  cases text with
  | nil => rfl
  | cons c rest => simp [dropBytes, Nat.ne_of_gt c.utf8Size_pos]

/-- A cut at the size of the front falls between the front and the rest. -/
theorem takeBytes_append (front rest : List Char) (size : Nat) :
    takeBytes (byteSize front + size) (front ++ rest) = front ++ takeBytes size rest := by
  induction front with
  | nil => simp
  | cons c front ih =>
    have fits : c.utf8Size ≤ c.utf8Size + byteSize front + size := by omega
    have left : c.utf8Size + byteSize front + size - c.utf8Size = byteSize front + size := by omega
    simp [takeBytes, fits, left, ih]

theorem dropBytes_append (front rest : List Char) (size : Nat) :
    dropBytes (byteSize front + size) (front ++ rest) = dropBytes size rest := by
  induction front with
  | nil => simp
  | cons c front ih =>
    have fits : c.utf8Size ≤ c.utf8Size + byteSize front + size := by omega
    have left : c.utf8Size + byteSize front + size - c.utf8Size = byteSize front + size := by omega
    simp [dropBytes, fits, left, ih]

theorem takeBytes_byteSize (front rest : List Char) : takeBytes (byteSize front) (front ++ rest) = front := by
  simpa using takeBytes_append front rest 0

theorem dropBytes_byteSize (front rest : List Char) : dropBytes (byteSize front) (front ++ rest) = rest := by
  simpa using dropBytes_append front rest 0

/-- The bytes that may follow a lead byte, one range for each, and the bits that the lead byte
carries. A byte that leads nothing has no entry. -/
def tailRanges? (lead : UInt8) : Option (List (UInt8 × UInt8) × Nat) :=
  let any := (0x80, 0xbf)
  if lead < 0x80 then some ([], lead.toNat)
  else if 0xc2 ≤ lead && lead ≤ 0xdf then some ([any], lead.toNat - 0xc0)
  else if lead == 0xe0 then some ([(0xa0, 0xbf), any], 0)
  else if lead == 0xed then some ([(0x80, 0x9f), any], 0xd)
  else if 0xe1 ≤ lead && lead ≤ 0xef then some ([any, any], lead.toNat - 0xe0)
  else if lead == 0xf0 then some ([(0x90, 0xbf), any, any], 0)
  else if lead == 0xf4 then some ([(0x80, 0x8f), any, any], 4)
  else if 0xf1 ≤ lead && lead ≤ 0xf3 then some ([any, any, any], lead.toNat - 0xf0)
  else none

/-- Reads the bytes that a lead byte announces. The number counts the bytes that fit; the code
is present when all of them did. -/
def readTail (code : Nat) : List (UInt8 × UInt8) → List UInt8 → Nat × Option Nat
  | [], _ => (0, some code)
  | _ :: _, [] => (0, none)
  | range :: ranges, byte :: bytes =>
    if range.1 ≤ byte && byte ≤ range.2 then
      let (count, result) := readTail (code * 64 + (byte.toNat - 0x80)) ranges bytes
      (count + 1, result)
    else (0, none)

/-- Reads bytes as text and puts one replacement character for each longest run of bytes that
starts a character without completing it. -/
def lossyText : List UInt8 → List Char
  | [] => []
  | lead :: bytes =>
    match tailRanges? lead with
    | none => '\ufffd' :: lossyText bytes
    | some (ranges, code) =>
      let (count, result) := readTail code ranges bytes
      (result.map Char.ofNat).getD '\ufffd' :: lossyText (bytes.drop count)
termination_by bytes => bytes.length
decreasing_by all_goals simp_wf; try omega

end PageAssets.Text
