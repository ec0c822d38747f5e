import PageAssets.Files.Operation

/-! Paths that are joined. Joining a name adds one step, whatever way the path before it is written,
and the parent of the joined path is that path again, up to steps that stay where they are. -/

namespace PageAssets.Files

/-- A part of a path that counts as one step down. -/
structure IsName (part : String) : Prop where
  nonempty : part.toList ≠ []
  slashless : '/' ∉ part.toList
  notHere : part.toList ≠ ['.']
  notUp : part.toList ≠ ['.', '.']

theorem IsName.isComponent {part : String} (named : IsName part) : FilePath.isComponent part.toList = true := by
  simp [FilePath.isComponent, named.nonempty, named.notHere]

theorem IsName.ofPart? {part : String} (named : IsName part) :
    Step.ofPart? part.toList = some (.enter (.text part)) := by
  have nonempty := named.nonempty
  have notHere := named.notHere
  have notUp := named.notUp
  unfold Step.ofPart?
  split <;> simp_all

section Parts

theorem slashParts_of_slashless {text : List Char} (slashless : '/' ∉ text) : slashParts text = [text] := by
  induction text with
  | nil => rfl
  | cons c rest ih =>
    simp only [List.mem_cons, not_or] at slashless
    rw [slashParts, if_neg (Ne.symm slashless.1), ih slashless.2]

theorem slashParts_ne_nil (text : List Char) : slashParts text ≠ [] := by
  fun_induction slashParts text <;> simp_all

theorem slashParts_append (front back : List Char) :
    slashParts (front ++ '/' :: back) = slashParts front ++ slashParts back := by
  induction front with
  | nil => simp [slashParts]
  | cons c rest ih =>
    rw [List.cons_append, slashParts, slashParts, ih]
    split
    · rfl
    · obtain ⟨part, parts, same⟩ := List.exists_cons_of_ne_nil (slashParts_ne_nil rest)
      rw [same]
      rfl

theorem slashless_of_mem_slashParts {text part : List Char} (member : part ∈ slashParts text) : '/' ∉ part := by
  fun_induction slashParts text generalizing part with
  | case1 => simp_all
  | case2 rest ih =>
    rcases List.mem_cons.mp member with rfl | inside
    · simp
    · exact ih inside
  | case3 c rest differs empty => exact absurd empty (slashParts_ne_nil rest)
  | case4 c rest differs first others same ih =>
    rw [same] at ih
    rcases List.mem_cons.mp member with rfl | inside
    · simp [Ne.symm differs, ih List.mem_cons_self]
    · exact ih (List.mem_cons_of_mem _ inside)

theorem intercalate_slashParts (text : List Char) : ['/'].intercalate (slashParts text) = text := by
  fun_induction slashParts text with
  | case1 => rfl
  | case2 rest ih =>
    obtain ⟨part, parts, same⟩ := List.exists_cons_of_ne_nil (slashParts_ne_nil rest)
    rw [same] at ih ⊢
    rw [List.intercalate_cons_cons, ih]
    rfl
  | case3 c rest differs empty => exact absurd empty (slashParts_ne_nil rest)
  | case4 c rest differs first others same ih =>
    rw [same] at ih
    cases others with
    | nil => simpa using ih
    | cons next others =>
      rw [List.intercalate_cons_cons] at ih ⊢
      simp [← ih]

theorem slashParts_intercalate {parts : List (List Char)} (some : parts ≠ []) (slashless : ∀ part ∈ parts, '/' ∉ part) :
    slashParts (['/'].intercalate parts) = parts := by
  induction parts with
  | nil => exact absurd rfl some
  | cons part rest ih =>
    have here := slashParts_of_slashless (slashless part List.mem_cons_self)
    cases rest with
    | nil => simpa using here
    | cons next others =>
      have further := ih (List.cons_ne_nil _ _) fun other inside => slashless other (List.mem_cons_of_mem _ inside)
      rw [List.intercalate_cons_cons, List.append_assoc, List.singleton_append, slashParts_append, here, further]
      rfl

end Parts

namespace FilePath

theorem steps_eq (path : FilePath) :
    path.steps = (if path.isAbsolute then [.top] else []) ++ (slashParts path.text.toList).filterMap Step.ofPart? := by
  rw [steps]
  split <;> rfl

def frontParts (base : FilePath) : List (List Char) :=
  if base.isEmpty then []
  else if base.endsInSlash then (slashParts base.text.toList).dropLast
  else slashParts base.text.toList

section Join
variable {base : FilePath} {part : String}

theorem isAbsolute_of_slashless {text : String} (slashless : '/' ∉ text.toList) : isAbsolute ⟨text⟩ = false := by
  rw [isAbsolute, decide_eq_false_iff_not]
  exact fun head => slashless (List.mem_of_mem_head? (Option.mem_def.mpr head))

/-- The text of a joined path, up to the name, is empty or ends in a slash. -/
theorem slashParts_join (named : IsName part) :
    slashParts (base.join part).text.toList = base.frontParts ++ [part.toList] := by
  have alone := slashParts_of_slashless named.slashless
  rw [join, isAbsolute_of_slashless named.slashless, Bool.false_or, frontParts]
  split
  next => exact alone
  next =>
    split
    next slash =>
      rw [endsInSlash, decide_eq_true_eq] at slash
      obtain ⟨front, written⟩ := List.getLast?_eq_some_iff.mp slash
      rw [String.toList_append, written, List.append_assoc, List.singleton_append, slashParts_append, slashParts_append,
        alone]
      simp [slashParts]
    next =>
      have written : (base.text ++ "/" ++ part).toList = base.text.toList ++ '/' :: part.toList := by simp
      rw [written, slashParts_append, alone]

theorem isAbsolute_join (named : IsName part) : (base.join part).isAbsolute = base.isAbsolute := by
  rw [join, isAbsolute_of_slashless named.slashless, Bool.false_or]
  split
  next empty =>
    rw [isEmpty, decide_eq_true_eq] at empty
    rw [isAbsolute_of_slashless named.slashless, isAbsolute, empty]
    rfl
  next some =>
    rw [isEmpty, decide_eq_true_eq] at some
    obtain ⟨c, rest, written⟩ := List.exists_cons_of_ne_nil some
    split <;> simp [isAbsolute, String.toList_append, written]

theorem endsInSlash_join (named : IsName part) : (base.join part).endsInSlash = false := by
  obtain ⟨front, last, written⟩ := (List.eq_nil_or_concat part.toList).resolve_left named.nonempty
  have plain : last ≠ '/' := by
    rintro rfl
    exact named.slashless (by simp [written])
  have ends (text : List Char) : (text ++ part.toList).getLast? ≠ some '/' := by simp [written, plain]
  rw [join, isAbsolute_of_slashless named.slashless, Bool.false_or]
  split
  next => exact decide_eq_false (ends [])
  next =>
    split
    next => simpa [endsInSlash] using ends base.text.toList
    next => simpa [endsInSlash] using ends (base.text.toList ++ ['/'])

theorem filterMap_frontParts (base : FilePath) :
    base.frontParts.filterMap Step.ofPart? = (slashParts base.text.toList).filterMap Step.ofPart? := by
  rw [frontParts]
  split
  next empty =>
    rw [isEmpty, decide_eq_true_eq] at empty
    rw [empty]
    rfl
  next =>
    split
    next slash =>
      rw [endsInSlash, decide_eq_true_eq] at slash
      obtain ⟨front, written⟩ := List.getLast?_eq_some_iff.mp slash
      rw [written, slashParts_append]
      simp [slashParts, Step.ofPart?]
    next => rfl

theorem steps_join (named : IsName part) : (base.join part).steps = base.steps ++ [.enter (.text part)] := by
  rw [steps_eq, steps_eq, isAbsolute_join named, slashParts_join named, List.filterMap_append, filterMap_frontParts,
    List.append_assoc]
  simp [named.ofPart?]

theorem slashless_of_mem_frontParts {front : List Char} (member : front ∈ base.frontParts) : '/' ∉ front := by
  rw [frontParts] at member
  split at member
  next => cases member
  next =>
    split at member
    next => exact slashless_of_mem_slashParts (List.dropLast_subset _ member)
    next => exact slashless_of_mem_slashParts member

def keptParts (more : List (List Char)) : List (List Char) :=
  (more.reverse.dropWhile (!isComponent ·)).reverse

/-- The text of the parent of a name, given the parts in front of the name. -/
def parentText (first : List Char) (more : List (List Char)) : List Char :=
  if first = [] ∧ keptParts more = [] then ['/'] else ['/'].intercalate (first :: keptParts more)

theorem parent?_join (named : IsName part) :
    (base.join part).parent? =
      match base.frontParts with
      | [] => some ⟨""⟩
      | first :: more => some ⟨String.ofList (parentText first more)⟩ := by
  have stops (rest : List (List Char)) :
      (part.toList :: rest).dropWhile (!isComponent ·) = part.toList :: rest := by simp [named.isComponent]
  rw [parent?, slashParts_join named]
  cases base.frontParts with
  | nil => simp [named.nonempty]
  | cons first more =>
    have reversed : (more ++ [part.toList]).reverse = part.toList :: more.reverse := by simp
    have kept : (more.reverse.dropWhile (!isComponent ·)).reverse = keptParts more := rfl
    simp only [List.cons_append, reversed, stops, kept, parentText]
    cases keptParts more with
    | nil => cases first <;> simp
    | cons next others => simp

theorem join_eq_parts (named : IsName part) :
    base.join part = ⟨String.ofList (['/'].intercalate (base.frontParts ++ [part.toList]))⟩ := by
  rw [← slashParts_join named, intercalate_slashParts, String.ofList_toList]

theorem isEmpty_join (named : IsName part) : (base.join part).isEmpty = false := by
  rw [isEmpty, decide_eq_false_iff_not]
  intro empty
  have parts : slashParts (base.join part).text.toList = _ := slashParts_join named
  rw [empty] at parts
  have last := congrArg List.getLast? parts
  simp [slashParts] at last
  exact named.nonempty (by simp [last])

/-- A name in a directory can be joined in one go. -/
theorem join_join {name : String} (directory : IsName part) (relative : isAbsolute ⟨name⟩ = false) :
    (base.join part).join name = base.join (part ++ "/" ++ name) := by
  have alone : isAbsolute ⟨part⟩ = false := isAbsolute_of_slashless directory.slashless
  have whole : isAbsolute ⟨part ++ "/" ++ name⟩ = false := by
    obtain ⟨c, rest, written⟩ := List.exists_cons_of_ne_nil directory.nonempty
    simpa [isAbsolute, String.toList_append, written] using alone
  have joined : (base.join part).join name = ⟨(base.join part).text ++ "/" ++ name⟩ := by
    rw [join, relative, isEmpty_join directory, endsInSlash_join directory]
    rfl
  rw [joined, join, join, alone, whole]
  cases base.isEmpty <;> cases base.endsInSlash <;> simp [String.append_assoc]

theorem frontParts_join (named : IsName part) :
    (base.join part).frontParts = base.frontParts ++ [part.toList] := by
  rw [frontParts, isEmpty_join named, endsInSlash_join named, slashParts_join named]
  rfl

/-- The parent of a name in a directory is the directory, as it is written. -/
theorem parent?_join_join {name : String} (directory : IsName part) (named : IsName name) :
    ((base.join part).join name).parent? = some (base.join part) := by
  have stops (rest : List (List Char)) :
      (part.toList :: rest).dropWhile (!isComponent ·) = part.toList :: rest := by simp [directory.isComponent]
  rw [parent?_join named, frontParts_join directory, join_eq_parts directory]
  cases base.frontParts with
  | nil => simp [parentText, keptParts, directory.nonempty]
  | cons first more =>
    have reversed : (more ++ [part.toList]).reverse = part.toList :: more.reverse := by simp
    simp only [List.cons_append, parentText, keptParts, reversed, stops]
    simp

theorem filterMap_of_not_isComponent {parts : List (List Char)} (idle : ∀ part ∈ parts, isComponent part = false) :
    ∃ count, parts.filterMap Step.ofPart? = List.replicate count .here := by
  induction parts with
  | nil => exact ⟨0, rfl⟩
  | cons part rest ih =>
    obtain ⟨count, same⟩ := ih fun other inside => idle other (List.mem_cons_of_mem _ inside)
    have here := idle part List.mem_cons_self
    simp only [isComponent, Bool.and_eq_false_iff, decide_eq_false_iff_not, Decidable.not_not] at here
    rcases here with rfl | rfl
    · exact ⟨count, same⟩
    · exact ⟨count + 1, congrArg (Step.here :: ·) same⟩

/-- The parts at the end that count for nothing are steps that stay where they are. -/
theorem steps_keptParts (more : List (List Char)) :
    ∃ idle, more.filterMap Step.ofPart? =
      (keptParts more).filterMap Step.ofPart? ++ List.replicate idle .here := by
  have split := congrArg List.reverse (List.takeWhile_append_dropWhile (p := (!isComponent ·)) (l := more.reverse))
  rw [List.reverse_append, List.reverse_reverse] at split
  have dropped : ∀ part ∈ (more.reverse.takeWhile (!isComponent ·)).reverse, isComponent part = false := by
    intro part inside
    simpa using List.all_eq_true.mp List.all_takeWhile part (List.mem_reverse.mp inside)
  obtain ⟨idle, same⟩ := filterMap_of_not_isComponent dropped
  refine ⟨idle, ?_⟩
  rw [← same, keptParts, ← List.filterMap_append, split]

theorem isAbsolute_parts {first next : List Char} {others : List (List Char)} (slashless : '/' ∉ first) :
    isAbsolute ⟨String.ofList (['/'].intercalate (first :: next :: others))⟩ = decide (first = []) := by
  rw [isAbsolute, String.toList_ofList, List.intercalate_cons_cons]
  cases first with
  | nil => simp
  | cons c rest =>
    have plain : c ≠ '/' := fun same => slashless (same ▸ List.mem_cons_self)
    simp [plain]

theorem isEmpty_parentText (first : List Char) (more : List (List Char)) :
    isEmpty ⟨String.ofList (parentText first more)⟩ = false := by
  rw [isEmpty, String.toList_ofList, parentText, decide_eq_false_iff_not]
  split
  next => simp
  next some =>
    cases kept : keptParts more with
    | nil => simpa [kept] using some
    | cons next others =>
      rw [List.intercalate_cons_cons]
      simp

theorem steps_parentText {first : List Char} {more : List (List Char)}
    (slashless : ∀ part ∈ first :: more, '/' ∉ part) :
    steps ⟨String.ofList (parentText first more)⟩ =
      (if first = [] then [.top] else []) ++ (first :: keptParts more).filterMap Step.ofPart? := by
  have keptSlashless : ∀ part ∈ first :: keptParts more, '/' ∉ part := by
    intro part inside
    rcases List.mem_cons.mp inside with rfl | kept
    · exact slashless _ List.mem_cons_self
    · refine slashless _ (List.mem_cons_of_mem _ ?_)
      exact List.mem_reverse.mp ((List.dropWhile_suffix _).subset (List.mem_reverse.mp kept))
  have here := keptSlashless first List.mem_cons_self
  rw [steps_eq, parentText]
  split
  next both =>
    rw [both.1, both.2]
    rfl
  next some =>
    rw [String.toList_ofList, slashParts_intercalate (List.cons_ne_nil _ _) keptSlashless]
    cases kept : keptParts more with
    | nil =>
      rw [List.intercalate_singleton, isAbsolute_of_slashless (by simpa using here)]
      simp_all
    | cons next others =>
      rw [isAbsolute_parts here]
      simp

/-- The directory beside which a name is staged is the one that it is joined to, up to steps that
stay where they are. -/
theorem steps_stagingDirectory (base : FilePath) (named : IsName part) :
    ∃ steps idle extra, base.steps = steps ++ List.replicate idle .here ∧
      (FileSystem.stagingDirectory (base.join part)).steps = steps ++ List.replicate extra .here := by
  have absolute : (base.join part).isAbsolute = base.isAbsolute := isAbsolute_join named
  have whole := filterMap_frontParts base
  have slashless : ∀ front ∈ base.frontParts, '/' ∉ front := fun front => slashless_of_mem_frontParts
  rw [join_eq_parts named] at absolute
  rw [FileSystem.stagingDirectory, parent?_join named, steps_eq base, ← whole, ← absolute]
  cases parts : base.frontParts with
  | nil =>
    refine ⟨[], 0, 1, ?_, rfl⟩
    have relative := isAbsolute_of_slashless named.slashless
    simpa using relative
  | cons first more =>
    rw [parts] at slashless
    obtain ⟨next, others, behind⟩ := List.exists_cons_of_ne_nil (l := more ++ [part.toList]) (by simp)
    rw [List.cons_append, behind, isAbsolute_parts (slashless first List.mem_cons_self)]
    obtain ⟨idle, same⟩ := steps_keptParts more
    refine ⟨(if first = [] then [.top] else []) ++ (first :: keptParts more).filterMap Step.ofPart?, idle, 0, ?_, ?_⟩
    · cases ofPart : Step.ofPart? first <;> simp [ofPart, same]
    · simp only [isEmpty_parentText, Bool.false_eq_true, ↓reduceIte]
      rw [steps_parentText slashless, List.replicate_zero, List.append_nil]

end Join
end FilePath
end PageAssets.Files
