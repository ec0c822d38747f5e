import PageAssets.Proofs.Batch.Locality

/-! One action after the other, whatever becomes of each. Where every action keeps to locations of its
own, each comes to what it comes to alone, in whatever order they are taken. -/

namespace PageAssets.Batch
open Files FileSystem

variable {α : Type} {faults : Faults} (action : String → ExceptT Failure (FaultyDisk faults) α)

/-- What comes of an action for several names: the outcomes in the order of the names, and the files
that are left. -/
def inTurn : List String → FileSystem → List (Outcome α) × FileSystem
  | [], files => ([], files)
  | name :: rest, files =>
    let first := faults.attempt (action name) files
    let others := inTurn rest first.2
    (⟨name, first.1⟩ :: others.1, others.2)

/-- Each action has come to what it comes to alone from the start, at the locations that are its own;
all others are as they were before the first turn. -/
structure Undisturbed (own : String → List Location) (start now : FileSystem) (names : List String)
    (outcome : List (Outcome α) × FileSystem) : Prop where
  working : outcome.2.working = now.working
  results : outcome.1 = names.map fun name => ⟨name, (faults.attempt (action name) start).1⟩
  slots : ∀ name ∈ names, ∀ location ∈ own name,
    outcome.2.get? location = (faults.attempt (action name) start).2.get? location
  others : ∀ location, (∀ name ∈ names, location ∉ own name) → outcome.2.get? location = now.get? location

/-- Each action has come to what it comes to alone: what it changes alone is as it leaves it, and what
none of them changes is as it was. -/
structure EachAlone (start : FileSystem) (names : List String) (outcome : List (Outcome α) × FileSystem) : Prop where
  working : outcome.2.working = start.working
  results : outcome.1 = names.map fun name => ⟨name, (faults.attempt (action name) start).1⟩
  changed : ∀ name ∈ names, ∀ location,
    (faults.attempt (action name) start).2.get? location ≠ start.get? location →
      outcome.2.get? location = (faults.attempt (action name) start).2.get? location
  others : ∀ location, (∀ name ∈ names, (faults.attempt (action name) start).2.get? location = start.get? location) →
    outcome.2.get? location = start.get? location

section Locality
variable {action} {footing : Footing} {own : String → List Location} {start now : FileSystem} {names : List String}

/-- The actions to come find everything that is their own as it was at the start. -/
theorem inTurn_undisturbed (keeps : ∀ name ∈ names, Local faults footing (own name) (action name))
    (first : footing.holds start) (stands : footing.holds now)
    (plain : ∀ name ∈ names, ∀ location ∈ own name, start.NoLinkAt location)
    (agree : ∀ name ∈ names, Agree (own name) now start)
    (apart : names.Pairwise fun one other => (own one).Disjoint (own other)) :
    Undisturbed action own start now names (inTurn action names now) := by
  induction names generalizing now with
  | nil => exact ⟨rfl, rfl, nofun, fun _ _ => rfl⟩
  | cons name rest ih =>
    obtain ⟨head, tail⟩ := List.pairwise_cons.mp apart
    have keeping := keeps name List.mem_cons_self
    have agreed := agree name List.mem_cons_self
    have before : Ready footing (own name) start := ⟨first, plain name List.mem_cons_self⟩
    have ready : Ready footing (own name) now := by
      refine ⟨stands, ?_⟩
      intro location inside target
      rw [agreed.entry location inside]
      exact before.plain location inside target
    have touches := keeping.touches now ready
    obtain ⟨result, left⟩ := keeping.agrees now start ready before agreed
    have others := ih (fun other later => keeps other (List.mem_cons_of_mem _ later))
      (footing.lasts stands touches.ways touches.working)
      (fun other later => plain other (List.mem_cons_of_mem _ later))
      (fun other later => {
        working := touches.working.trans (agree other (List.mem_cons_of_mem _ later)).working
        entry := fun location inside => by
          rw [touches.others fun own => head other later own inside]
          exact (agree other (List.mem_cons_of_mem _ later)).entry location inside })
      tail
    constructor
    · exact others.working.trans touches.working
    · rw [inTurn, List.map_cons, ← others.results, ← result]
    · intro other member location inside
      rcases List.mem_cons.mp member with rfl | later
      · exact (others.others location fun another later => head another later inside).trans (left.entry location inside)
      · exact others.slots other later location inside
    · intro location outside
      refine (others.others location fun other later => outside other (List.mem_cons_of_mem _ later)).trans ?_
      exact touches.others (outside name List.mem_cons_self)

theorem inTurn_eachAlone (keeps : ∀ name ∈ names, Local faults footing (own name) (action name))
    (stands : footing.holds start) (plain : ∀ name ∈ names, ∀ location ∈ own name, start.NoLinkAt location)
    (apart : names.Pairwise fun one other => (own one).Disjoint (own other)) :
    EachAlone action start names (inTurn action names start) := by
  have undisturbed := inTurn_undisturbed keeps stands stands plain (fun _ _ => ⟨rfl, fun _ _ => rfl⟩) apart
  have touches (name : String) (member : name ∈ names) :=
    (keeps name member).touches start ⟨stands, plain name member⟩
  refine ⟨undisturbed.working, undisturbed.results, ?_, ?_⟩
  · intro name member location differs
    have inside : location ∈ own name := by
      by_contra outside
      exact differs ((touches name member).others outside)
    exact undisturbed.slots name member location inside
  · intro location same
    by_cases inside : ∃ name ∈ names, location ∈ own name
    · obtain ⟨name, member, own⟩ := inside
      rw [undisturbed.slots name member location own, same name member]
    · exact undisturbed.others location fun name member own => inside ⟨name, member, own⟩

end Locality

theorem map_document_inTurn (names : List String) (files : FileSystem) :
    (inTurn action names files).1.map Outcome.document = names := by
  induction names generalizing files with
  | nil => rfl
  | cons name rest ih => rw [inTurn, List.map_cons, ih]

/-- Every outcome is that of one turn, on the files that the turns before it have left. -/
theorem exists_turn_of_mem {names : List String} {files : FileSystem} {outcome : Outcome α}
    (member : outcome ∈ (inTurn action names files).1) :
    outcome.document ∈ names ∧ ∃ now, outcome.result = (faults.attempt (action outcome.document) now).1 := by
  induction names generalizing files with
  | nil => cases member
  | cons name rest ih =>
    rw [inTurn] at member
    rcases List.mem_cons.mp member with rfl | later
    · exact ⟨List.mem_cons_self, files, rfl⟩
    · obtain ⟨named, now, turn⟩ := ih later
      exact ⟨List.mem_cons_of_mem _ named, now, turn⟩

/-- Where no action changes anything, all of them start from the same files. -/
theorem inTurn_of_still {action} {start : FileSystem} {names : List String}
    (still : ∀ name ∈ names, (faults.attempt (action name) start).2 = start) :
    inTurn action names start =
      (names.map fun name => (⟨name, (faults.attempt (action name) start).1⟩ : Outcome α), start) := by
  induction names with
  | nil => rfl
  | cons name rest ih =>
    rw [inTurn, still name List.mem_cons_self, ih fun other later => still other (List.mem_cons_of_mem _ later)]
    rfl

namespace EachAlone
variable {action} {start : FileSystem} {names order : List String} {outcome second : List (Outcome α) × FileSystem}

theorem of_still (still : ∀ name ∈ names, (faults.attempt (action name) start).2 = start) :
    EachAlone action start names (inTurn action names start) := by
  rw [inTurn_of_still still]
  refine ⟨rfl, rfl, ?_, fun _ _ => rfl⟩
  intro name member location differs
  rw [still name member] at differs
  exact absurd rfl differs

theorem failures_eq (each : EachAlone action start names outcome) :
    (summarize outcome.1).failures = names.filterMap fun name =>
      (⟨name, (faults.attempt (action name) start).1⟩ : Outcome α).failed? := by
  rw [summarize, each.results, List.filterMap_map]
  rfl

/-- In another order, the outcomes are the same. -/
theorem results_perm (each : EachAlone action start names outcome) (again : EachAlone action start order second)
    (same : order.Perm names) : second.1.Perm outcome.1 := by
  rw [each.results, again.results]
  exact same.map _

/-- In another order, the same is left. -/
theorem get?_perm (each : EachAlone action start names outcome) (again : EachAlone action start order second)
    (same : order.Perm names) (location : Location) : second.2.get? location = outcome.2.get? location := by
  by_cases changes : ∃ name ∈ names, (faults.attempt (action name) start).2.get? location ≠ start.get? location
  · obtain ⟨name, member, differs⟩ := changes
    rw [each.changed name member location differs, again.changed name (same.symm.subset member) location differs]
  · have untouched : ∀ name ∈ names, (faults.attempt (action name) start).2.get? location = start.get? location := by
      intro name member
      by_contra differs
      exact changes ⟨name, member, differs⟩
    rw [each.others location untouched, again.others location fun name member => untouched name (same.subset member)]

end EachAlone
end PageAssets.Batch
