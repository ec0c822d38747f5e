import Mathlib.Data.List.Forall2
import Mathlib.Data.PFun
import PageAssets.Proofs.Text.Encoding
import PageAssets.Text.Search

/-! Reading a document by offsets, with every offset checked. An offset counts bytes; text is cut only
between two characters, and a byte is read only inside of the document. A computation that gets an offset
wrong ends with a fault, and one that never ends has no outcome. Main statement: a loop has an outcome
when its turns come to an end without a fault. -/

namespace PageAssets.Offsets
open Text

inductive Fault where
  | outsideText
  | insideCharacter
  /-- A range that ends in front of its start. -/
  | reversed
  deriving DecidableEq, Repr

abbrev Checked := ExceptT Fault Part

theorem throw_bind {α β : Type} (fault : Fault) (further : α → Checked β) :
    (throw fault : Checked α) >>= further = throw fault := Part.bind_some _ _

theorem map_throw {α β : Type} (fault : Fault) (f : α → β) : f <$> (throw fault : Checked α) = throw fault := by
  rw [map_eq_pure_bind, throw_bind]

theorem throw_ne_pure {α : Type} (fault : Fault) (value : α) : (throw fault : Checked α) ≠ pure value := by
  intro same
  cases Part.some_inj.mp same

theorem bind_eq_pure_iff {α β : Type} {first : Checked α} {further : α → Checked β} {result : β} :
    first >>= further = pure result ↔ ∃ value, first = pure value ∧ further value = pure result := by
  constructor
  · intro whole
    obtain ⟨outcome, taken, rest⟩ := Part.bind_eq_some_iff.mp whole
    cases outcome with
    | error fault => exact absurd rest (throw_ne_pure fault result)
    | ok value => exact ⟨value, taken, rest⟩
  · intro facts
    obtain ⟨value, rfl, ended⟩ := facts
    rw [pure_bind, ended]

theorem pure_inj {α : Type} {first second : α} : (pure first : Checked α) = pure second ↔ first = second := by
  constructor
  · intro same
    cases Part.some_inj.mp same
    rfl
  · rintro rfl
    rfl

theorem mapM_eq_pure {α β : Type} {read : α → Checked β} {found : List α} {shown : List β}
    (reads : List.Forall₂ (fun item result => read item = pure result) found shown) :
    found.mapM read = pure shown := by
  induction reads with
  | nil => rfl
  | cons first _ ih => rw [List.mapM_cons, first, pure_bind, ih, pure_bind]

inductive Turn (σ ρ : Type) where
  | onward (next : σ)
  | done (result : ρ)
  deriving DecidableEq, Repr

section Loops
variable {σ ρ : Type}

/-- A loop stops at a fault and when a turn is done. -/
def stopOr : Except Fault (Turn σ ρ) → Except Fault ρ ⊕ σ
  | .error fault => .inl (.error fault)
  | .ok (.done result) => .inl (.ok result)
  | .ok (.onward next) => .inr next

def loop (turn : σ → Checked (Turn σ ρ)) : σ → Checked ρ := PFun.fix fun state => Part.map stopOr (turn state)

theorem loop_of_done {turn : σ → Checked (Turn σ ρ)} {state : σ} {result : ρ}
    (ends : turn state = pure (.done result)) : loop turn state = pure result := by
  refine Part.eq_some_iff.mpr (PFun.fix_stop ?_)
  rw [ends]
  exact Part.mem_map stopOr (Part.mem_some _)

theorem loop_of_onward {turn : σ → Checked (Turn σ ρ)} {state next : σ}
    (goes : turn state = pure (.onward next)) : loop turn state = loop turn next := by
  refine PFun.fix_fwd_eq ?_
  rw [goes]
  exact Part.mem_map stopOr (Part.mem_some _)

/-- A run of a loop from a state to its result: finitely many turns, without a fault, each of which
advances. -/
inductive Runs (turn : σ → Checked (Turn σ ρ)) (advances : σ → Turn σ ρ → Prop) : σ → ρ → Prop where
  | done {state : σ} {result : ρ} (ends : turn state = pure (.done result)) (moved : advances state (.done result)) :
      Runs turn advances state result
  | onward {state next : σ} {result : ρ} (goes : turn state = pure (.onward next))
      (moved : advances state (.onward next)) (further : Runs turn advances next result) :
      Runs turn advances state result

theorem Runs.loop_eq {turn : σ → Checked (Turn σ ρ)} {advances : σ → Turn σ ρ → Prop} {state : σ} {result : ρ}
    (runs : Runs turn advances state result) : loop turn state = pure result := by
  induction runs with
  | done ends => exact loop_of_done ends
  | onward goes _ _ ih => exact (loop_of_onward goes).trans ih

end Loops

def cutAt : Nat → List Char → Checked (List Char × List Char)
  | 0, text => pure ([], text)
  | _ + 1, [] => throw .outsideText
  | size + 1, c :: text =>
    if c.utf8Size ≤ size + 1 then do
      let parts ← cutAt (size + 1 - c.utf8Size) text
      return (c :: parts.1, parts.2)
    else throw .insideCharacter

@[simp] theorem cutAt_zero (text : List Char) : cutAt 0 text = pure ([], text) := by cases text <;> rfl

theorem cutAt_byteSize (front rest : List Char) : cutAt (byteSize front) (front ++ rest) = pure (front, rest) := by
  induction front with
  | nil => exact cutAt_zero rest
  | cons c front ih =>
    obtain ⟨size, same⟩ := Nat.exists_eq_add_one_of_ne_zero (Nat.ne_of_gt c.utf8Size_pos)
    have taken : byteSize (c :: front) = size + byteSize front + 1 := by
      rw [byteSize_cons, same]
      omega
    have left : size + byteSize front + 1 - c.utf8Size = byteSize front := by omega
    rw [taken, List.cons_append, cutAt, if_pos (by omega), left, ih, pure_bind]

/-- A cut succeeds only between two characters of the text. -/
theorem cutAt_eq_pure_iff {size : Nat} {text front rest : List Char} :
    cutAt size text = pure (front, rest) ↔ text = front ++ rest ∧ byteSize front = size := by
  constructor
  · intro cut
    fun_induction cutAt size text generalizing front with
    | case1 text =>
      cases pure_inj.mp cut
      exact ⟨rfl, rfl⟩
    | case2 => exact absurd cut (throw_ne_pure _ _)
    | case3 size c text fits ih =>
      obtain ⟨⟨before, behind⟩, parts, same⟩ := bind_eq_pure_iff.mp cut
      cases pure_inj.mp same
      obtain ⟨rfl, taken⟩ := ih parts
      refine ⟨rfl, ?_⟩
      rw [byteSize_cons, taken]
      omega
    | case4 => exact absurd cut (throw_ne_pure _ _)
  · rintro ⟨rfl, rfl⟩
    exact cutAt_byteSize front rest

variable (document : List Char)

def sliceFrom (start : Nat) : Checked (List Char) := return (← cutAt start document).2

def sliceTo (stop : Nat) : Checked (List Char) := return (← cutAt stop document).1

def slice (start stop : Nat) : Checked (List Char) :=
  if stop < start then throw .reversed
  else do
    let front ← sliceTo document stop
    sliceFrom front start

theorem sliceTo_byteSize (front rest : List Char) : sliceTo (front ++ rest) (byteSize front) = pure front := by
  rw [sliceTo, cutAt_byteSize, pure_bind]

def octets : List UInt8 := bytes (String.ofList document)

def byteAt (offset : Nat) : Checked UInt8 :=
  match (octets document)[offset]? with
  | some byte => pure byte
  | none => throw .outsideText

def byteRange (start stop : Nat) : Checked (List UInt8) :=
  if stop < start then throw .reversed
  else if byteSize document < stop then throw .outsideText
  else pure (((octets document).take stop).drop start)

@[simp] theorem octets_nil : octets [] = [] := rfl

theorem octets_cons (c : Char) (text : List Char) :
    octets (c :: text) = String.utf8EncodeChar c ++ octets text := bytes_ofList_cons c text

theorem octets_append (front rest : List Char) : octets (front ++ rest) = octets front ++ octets rest := by
  induction front with
  | nil => rfl
  | cons c front ih => rw [List.cons_append, octets_cons, octets_cons, ih, List.append_assoc]

theorem length_octets (text : List Char) : (octets text).length = byteSize text := by
  induction text with
  | nil => rfl
  | cons c rest ih => rw [octets_cons, List.length_append, ih, String.length_utf8EncodeChar, byteSize_cons]

/-- The document goes on with some text at an offset. -/
structure At (document : List Char) (offset : Nat) (text : List Char) : Prop where
  ending : text <:+ document
  size : offset + byteSize text = byteSize document

namespace At
variable {document text rest : List Char} {offset : Nat}

theorem start (document : List Char) : At document 0 document := ⟨List.suffix_refl _, Nat.zero_add _⟩

theorem behind (front text : List Char) : At (front ++ text) (byteSize front) text :=
  ⟨List.suffix_append _ _, (byteSize_append _ _).symm⟩

theorem exists_front (here : At document offset text) :
    ∃ front, document = front ++ text ∧ offset = byteSize front := by
  obtain ⟨front, rfl⟩ := here.ending
  have size := here.size
  rw [byteSize_append] at size
  exact ⟨front, rfl, by omega⟩

theorem advance {run : List Char} (here : At document offset (run ++ rest)) :
    At document (offset + byteSize run) rest := by
  refine ⟨(List.suffix_append _ _).trans here.ending, ?_⟩
  rw [← here.size, byteSize_append, Nat.add_assoc]

/-- Two offsets at which the same text is left are the same. -/
theorem unique {other : Nat} (here : At document offset text) (there : At document other text) : offset = other := by
  have := here.size
  have := there.size
  omega

theorem le (here : At document offset text) : offset ≤ byteSize document := by
  have := here.size
  omega

theorem lt_iff (here : At document offset text) : offset < byteSize document ↔ text ≠ [] := by
  have size := here.size
  cases text with
  | nil => simp at size ⊢; omega
  | cons c text =>
    have := c.utf8Size_pos
    rw [byteSize_cons] at size
    simp only [ne_eq, reduceCtorEq, not_false_eq_true, iff_true]
    omega

/-- Where less text is left, the offset is larger. -/
theorem lt_of_shorter {other : Nat} (here : At document offset text) (there : At document other rest)
    (shorter : rest.length < text.length) : offset < other := by
  obtain ⟨run, rfl⟩ := List.suffix_of_suffix_length_le there.ending here.ending (Nat.le_of_lt shorter)
  have further := here.advance.unique there
  cases run with
  | nil => simp at shorter
  | cons c run =>
    have := c.utf8Size_pos
    rw [byteSize_cons] at further
    omega

/-- Between two places in a document there is some text. -/
theorem exists_run {other : Nat} (here : At document offset text) (there : At document other rest)
    (ordered : offset ≤ other) : ∃ run, text = run ++ rest ∧ other = offset + byteSize run := by
  have shorter : rest.length ≤ text.length := by
    by_contra longer
    have := there.lt_of_shorter here (by omega)
    omega
  obtain ⟨run, rfl⟩ := List.suffix_of_suffix_length_le there.ending here.ending shorter
  exact ⟨run, rfl, there.unique here.advance⟩

theorem sliceFrom (here : At document offset text) : sliceFrom document offset = pure text := by
  obtain ⟨front, rfl, rfl⟩ := here.exists_front
  rw [Offsets.sliceFrom, cutAt_byteSize, pure_bind]

theorem slice {run : List Char} (here : At document offset (run ++ rest)) :
    slice document offset (offset + byteSize run) = pure run := by
  obtain ⟨front, rfl, rfl⟩ := here.exists_front
  have before : sliceTo (front ++ (run ++ rest)) (byteSize front + byteSize run) = pure (front ++ run) := by
    rw [← byteSize_append, ← List.append_assoc, sliceTo_byteSize]
  rw [Offsets.slice, if_neg (by omega), before, pure_bind, (At.behind front run).sliceFrom]

theorem append (here : At document offset text) (more : List Char) : At (document ++ more) offset (text ++ more) := by
  obtain ⟨front, rfl, rfl⟩ := here.exists_front
  rw [List.append_assoc]
  exact At.behind _ _

theorem drop_octets (here : At document offset text) : (octets document).drop offset = octets text := by
  obtain ⟨front, rfl, rfl⟩ := here.exists_front
  rw [octets_append, ← length_octets, List.drop_left]

end At

/-- A slice succeeds only in order, inside of the document and between characters. -/
theorem slice_eq_pure_iff {document text : List Char} {start stop : Nat} :
    slice document start stop = pure text ↔
      ∃ rest, At document start (text ++ rest) ∧ stop = start + byteSize text := by
  constructor
  · intro sliced
    rw [slice] at sliced
    split at sliced
    next => exact absurd sliced (throw_ne_pure _ _)
    next =>
      simp only [sliceTo, sliceFrom, bind_eq_pure_iff, pure_inj, Prod.exists] at sliced
      obtain ⟨_, ⟨front, rest, outer, rfl⟩, before, _, inner, rfl⟩ := sliced
      obtain ⟨rfl, rfl⟩ := cutAt_eq_pure_iff.mp outer
      obtain ⟨rfl, rfl⟩ := cutAt_eq_pure_iff.mp inner
      rw [List.append_assoc]
      exact ⟨rest, At.behind _ _, byteSize_append _ _⟩
  · rintro ⟨rest, here, rfl⟩
    exact here.slice

/-- What a slice holds stays the same when the document goes on. -/
theorem slice_append {document text : List Char} {start stop : Nat} (sliced : slice document start stop = pure text)
    (more : List Char) : slice (document ++ more) start stop = pure text := by
  obtain ⟨rest, here, size⟩ := slice_eq_pure_iff.mp sliced
  refine slice_eq_pure_iff.mpr ⟨rest ++ more, ?_, size⟩
  rw [← List.append_assoc]
  exact here.append more

end PageAssets.Offsets
