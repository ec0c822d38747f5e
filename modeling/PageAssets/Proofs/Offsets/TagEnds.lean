import PageAssets.Proofs.Offsets.Automaton

/-! What is found in an opening tag stands in order. Each turn of reading its attributes finds a name and a
value ahead of what was found before, and none of them reaches the angle that closes the tag. -/

namespace PageAssets.Offsets
open Text Markup

section Ranges
variable {document : List Char} {start stop offset : Nat}

/-- Ranges that stand one behind the other, from one offset to another. -/
def InOrder (stop : Nat) : Nat → List Span → Prop
  | start, [] => start ≤ stop
  | start, span :: rest => start ≤ span.start ∧ span.start ≤ span.stop ∧ InOrder stop span.stop rest

theorem InOrder.of_le {middle : Nat} {spans : List Span} (ordered : InOrder stop middle spans)
    (before : start ≤ middle) : InOrder stop start spans := by
  cases spans with
  | nil => exact before.trans ordered
  | cons span rest => exact ⟨before.trans ordered.1, ordered.2⟩

theorem InOrder.le_of {middle : Nat} {spans : List Span} (ordered : InOrder middle start spans)
    (behind : middle ≤ stop) : InOrder stop start spans := by
  induction spans generalizing start with
  | nil => exact Nat.le_trans ordered behind
  | cons span rest ih => exact ⟨ordered.1, ordered.2.1, ih ordered.2.2⟩

theorem InOrder.append {middle : Nat} {front spans : List Span} (first : InOrder middle start front)
    (further : InOrder stop middle spans) : InOrder stop start (front ++ spans) := by
  induction front generalizing start with
  | nil => exact further.of_le first
  | cons span rest ih =>
    obtain ⟨behind, inner, left⟩ := first
    exact ⟨behind, inner, ih left⟩

def AttributeRange.spans (found : AttributeRange) : List Span := found.name :: found.value.toList

theorem skip_le {test : UInt8 → Bool} (skipped : skip document test offset = pure stop) : offset ≤ stop := by
  rw [skip_eq rfl, pure_inj] at skipped
  omega

theorem range_eq_pure {span : Span} (ranged : range document start stop = pure span) :
    span = ⟨start, stop⟩ ∧ start ≤ stop := by
  obtain ⟨text, sliced, same⟩ := bind_eq_pure_iff.mp ranged
  obtain ⟨_, -, rfl⟩ := slice_eq_pure_iff.mp sliced
  exact ⟨(pure_inj.mp same).symm, Nat.le_add_right _ _⟩

theorem valueFrom_inOrder {value : Option Span} {ends : Option Nat}
    (read : valueFrom document offset = pure (value, ends)) :
    InOrder (ends.getD (byteSize document)) offset value.toList := by
  obtain ⟨start, skipped, read⟩ := bind_eq_pure_iff.mp read
  have before := skip_le skipped
  split at read
  next =>
    obtain ⟨byte, -, read⟩ := bind_eq_pure_iff.mp read
    split at read
    next =>
      obtain ⟨closing, -, read⟩ := bind_eq_pure_iff.mp read
      cases closing with
      | some stop =>
        obtain ⟨span, ranged, same⟩ := bind_eq_pure_iff.mp read
        cases pure_inj.mp same
        obtain ⟨rfl, ordered⟩ := range_eq_pure ranged
        exact ⟨before.trans (Nat.le_succ start), ordered, Nat.le_succ stop⟩
      | none =>
        obtain ⟨span, ranged, same⟩ := bind_eq_pure_iff.mp read
        cases pure_inj.mp same
        obtain ⟨rfl, ordered⟩ := range_eq_pure ranged
        exact ⟨before.trans (Nat.le_succ start), ordered, Nat.le_refl _⟩
    next =>
      obtain ⟨stop, passed, read⟩ := bind_eq_pure_iff.mp read
      obtain ⟨span, ranged, same⟩ := bind_eq_pure_iff.mp read
      cases pure_inj.mp same
      obtain ⟨rfl, ordered⟩ := range_eq_pure ranged
      exact ⟨before, ordered, Nat.le_refl _⟩
  next =>
    cases pure_inj.mp read
    exact before

theorem attributeFrom_inOrder {found : AttributeRange} {ends : Option Nat}
    (read : attributeFrom document offset = pure (found, ends)) :
    InOrder (ends.getD (byteSize document)) offset found.spans := by
  obtain ⟨stop, -, read⟩ := bind_eq_pure_iff.mp read
  obtain ⟨name, ranged, read⟩ := bind_eq_pure_iff.mp read
  obtain ⟨next, spaced, read⟩ := bind_eq_pure_iff.mp read
  obtain ⟨assigned, -, read⟩ := bind_eq_pure_iff.mp read
  obtain ⟨rfl, ordered⟩ := range_eq_pure ranged
  have behind := skip_le spaced
  split at read
  next =>
    obtain ⟨⟨value, ends⟩, valued, same⟩ := bind_eq_pure_iff.mp read
    cases pure_inj.mp same
    exact ⟨Nat.le_refl _, ordered, (valueFrom_inOrder valued).of_le (behind.trans (Nat.le_succ next))⟩
  next =>
    cases pure_inj.mp read
    exact ⟨Nat.le_refl _, ordered, behind⟩

def Gathers (state : Nat × List AttributeRange) (stop : Nat) (found : List AttributeRange) : Prop :=
  ∃ more, found = state.2 ++ more ∧ InOrder stop state.1 (more.flatMap AttributeRange.spans)

/-- Where the inside of a tag stops: in front of its closing angle, or at the end of the document. -/
def insideStop (document : List Char) (ends : Option Nat) : Nat := ends.elim (byteSize document) (· - 1)

/-- One turn finds at most one attribute, and finds it ahead. -/
theorem attributesTurn_gathers {state : Nat × List AttributeRange}
    {turn : Turn (Nat × List AttributeRange) (List AttributeRange × Option Nat)}
    (taken : attributesTurn document state = pure turn) (inside : state.1 ≤ byteSize document) :
    match turn with
    | .onward next => Gathers state next.1 next.2
    | .done result => Gathers state (insideStop document result.2) result.1 := by
  obtain ⟨start, skipped, taken⟩ := bind_eq_pure_iff.mp taken
  have before := skip_le skipped
  split at taken
  next =>
    obtain ⟨byte, -, taken⟩ := bind_eq_pure_iff.mp taken
    split at taken
    next =>
      cases pure_inj.mp taken
      exact ⟨[], (List.append_nil _).symm, before⟩
    next =>
      obtain ⟨⟨found, ends⟩, read, taken⟩ := bind_eq_pure_iff.mp taken
      have ordered := (attributeFrom_inOrder read).of_le before
      cases ends with
      | some next =>
        cases pure_inj.mp taken
        exact ⟨[found], rfl, List.flatMap_singleton .. ▸ ordered⟩
      | none =>
        cases pure_inj.mp taken
        exact ⟨[found], rfl, List.flatMap_singleton .. ▸ ordered⟩
  next =>
    cases pure_inj.mp taken
    exact ⟨[], (List.append_nil _).symm, inside⟩

theorem Gathers.trans {state next : Nat × List AttributeRange} {found : List AttributeRange}
    (first : Gathers state next.1 next.2) (further : Gathers next stop found) : Gathers state stop found := by
  obtain ⟨some, same, ordered⟩ := first
  obtain ⟨more, rfl, left⟩ := further
  refine ⟨some ++ more, by rw [same, List.append_assoc], ?_⟩
  rw [List.flatMap_append]
  exact ordered.append left

/-- A whole run finds all of them in order. -/
theorem gathers_of_runs {state : Nat × List AttributeRange} {result : List AttributeRange × Option Nat}
    (runs : Runs (attributesTurn document) (AttributesAdvance document) state result)
    (inside : state.1 ≤ byteSize document) : Gathers state (insideStop document result.2) result.1 := by
  induction runs with
  | done ends _ => exact attributesTurn_gathers ends inside
  | onward goes moved _ ih => exact (attributesTurn_gathers goes inside).trans (ih moved.2)

theorem At.insideStop_le {text : List Char} {found : List AttributeRange} {ends : Option Nat}
    (here : At document offset text) (read : attributesFrom document offset = pure (found, ends)) :
    insideStop document ends ≤ byteSize document := by
  obtain ⟨all, last, runs, -, reached⟩ := here.attributes
  cases pure_inj.mp (read.symm.trans (runs []).loop_eq)
  generalize (readAttributes text).2 = left at reached
  cases reached with
  | none => exact Nat.le_refl _
  | some there => exact (Nat.pred_le _).trans there.le

theorem At.attributesFrom_inOrder {text : List Char} {found : List AttributeRange} {ends : Option Nat}
    (here : At document offset text) (read : attributesFrom document offset = pure (found, ends)) :
    InOrder (insideStop document ends) offset (found.flatMap AttributeRange.spans) := by
  obtain ⟨all, last, runs, -⟩ := here.attributes
  cases pure_inj.mp (read.symm.trans (runs []).loop_eq)
  obtain ⟨more, rfl, ordered⟩ := gathers_of_runs (runs []) here.le
  exact ordered

/-- What is found in a tag stands in front of its closing angle, also when it is read once more. -/
theorem At.tagFrom_inOrder {text : List Char} {found : List AttributeRange} (here : At document offset text)
    (read : tagFrom document offset = pure (some (found, stop))) :
    InOrder (stop - 1) offset (found.flatMap AttributeRange.spans) := by
  obtain ⟨⟨all, ends⟩, first, read⟩ := bind_eq_pure_iff.mp read
  cases ends with
  | some last =>
    cases pure_inj.mp read
    exact here.attributesFrom_inOrder first
  | none =>
    obtain ⟨angle, met, read⟩ := bind_eq_pure_iff.mp read
    cases angle with
    | none => cases pure_inj.mp read
    | some angle =>
      obtain ⟨front, cut, read⟩ := bind_eq_pure_iff.mp read
      obtain ⟨⟨again, last⟩, second, same⟩ := bind_eq_pure_iff.mp read
      cases pure_inj.mp same
      rw [here.find, pure_inj] at met
      obtain ⟨⟨inside, behind⟩, marked, rfl⟩ := Option.map_eq_some_iff.mp met
      obtain ⟨_, rfl, -⟩ := cutAtFirst?_eq_some_iff.mp marked
      obtain ⟨before, rfl, rfl⟩ := here.exists_front
      rw [← List.append_assoc, ← byteSize_append, sliceTo_byteSize, pure_inj] at cut
      subst cut
      have there := At.behind before inside
      have last := there.insideStop_le second
      rw [byteSize_append] at last
      exact (there.attributesFrom_inOrder second).le_of last

end Ranges

/-- However broken its quotes are, an opening tag is read without a fault, and it ends if any angle closes
it: behind the one that the automaton meets, or else behind the first. The names and values that are found
stand in front of that angle, one behind the other. -/
theorem tagFrom_ends (front text : List Char) :
    ∃ found, tagFrom (front ++ text) (byteSize front) = pure found ∧
      (found = none ↔ '>'.toUInt8 ∉ octets text) ∧
      found.map Prod.snd = (closingAngle? (octets text)).map (byteSize front + · + 1) ∧
      (∀ attributes stop, found = some (attributes, stop) →
        byteSize front < stop ∧ (octets (front ++ text))[stop - 1]? = some '>'.toUInt8 ∧
          InOrder (stop - 1) (byteSize front) (attributes.flatMap AttributeRange.spans)) ∧
      Option.Rel (TagHolds (front ++ text)) found (readTag? text) := by
  have here := At.behind front text
  obtain ⟨found, read, holds⟩ := here.tag
  cases parsed : readTag? text with
  | none =>
    have absent : '>'.toUInt8 ∉ octets text := mt angle_mem_octets.mp (readTag?_eq_none_iff.mp parsed)
    rw [parsed] at holds
    cases holds
    refine ⟨none, read, by simp [absent], ?_, nofun, .none⟩
    rw [closingAngle?_of_not_mem absent]
    rfl
  | some tag =>
    rw [parsed] at holds
    cases holds with
    | @some found _ holds =>
      obtain ⟨attributes, stop⟩ := found
      obtain ⟨inside, rfl, met⟩ := readTag?_closingAngle parsed
      have closing : At (front ++ (inside ++ '>' :: tag.2)) (byteSize front + byteSize inside) ('>' :: tag.2) :=
        here.advance
      have next : At (front ++ (inside ++ '>' :: tag.2)) (_ + byteSize ['>']) tag.2 := closing.advance
      obtain rfl : stop = byteSize front + byteSize inside + 1 := holds.behind.unique next
      have byte := congrArg List.head? closing.drop_octets
      rw [List.head?_drop, octets_angle, List.head?_cons] at byte
      refine ⟨_, read, ?_, ?_, ?_, .some holds⟩
      · simp [octets_append, octets_angle]
      · rw [met]
        rfl
      · rintro _ _ ⟨rfl, rfl⟩
        exact ⟨by omega, byte, here.tagFrom_inOrder read⟩

end PageAssets.Offsets
