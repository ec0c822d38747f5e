import PageAssets.Failure

/-! What a batch reports. A page that fails does not stop the others; the summary counts the pages
and lists those that failed, in the order in which they were tried. What is said on the way is
kept apart from what is reported. -/

namespace PageAssets.Batch

structure Narration where
  out : List String
  err : List String
  deriving DecidableEq, Repr

namespace Narration

def silence : Narration := ⟨[], []⟩

def say (line : String) : Narration := ⟨[line], []⟩

def complain (line : String) : Narration := ⟨[], [line]⟩

def append (first second : Narration) : Narration :=
  ⟨first.out ++ second.out, first.err ++ second.err⟩

instance : Append Narration := ⟨append⟩

def concat (narrations : List Narration) : Narration :=
  ⟨narrations.flatMap Narration.out, narrations.flatMap Narration.err⟩

/-- Nothing is said when silence is asked for. -/
def hushed (silent : Bool) (narration : Narration) : Narration :=
  if silent then silence else narration

end Narration

structure Outcome (α : Type) where
  document : String
  result : Except Failure α

structure Failed where
  document : String
  failure : Failure
  deriving DecidableEq, Repr

structure Summary where
  total : Nat
  succeeded : Nat
  failures : List Failed
  deriving DecidableEq, Repr

namespace Summary

def isSuccess (summary : Summary) : Bool := summary.failures.isEmpty

def display (summary : Summary) : String :=
  toString summary.succeeded ++ "/" ++ toString summary.total ++ " documents processed"

end Summary

variable {α : Type}

def Outcome.failed? (outcome : Outcome α) : Option Failed :=
  match outcome.result with
  | .ok _ => none
  | .error failure => some ⟨outcome.document, failure⟩

def summarize (outcomes : List (Outcome α)) : Summary where
  total := outcomes.length
  succeeded := outcomes.countP fun outcome => outcome.failed?.isNone
  failures := outcomes.filterMap Outcome.failed?

def complaint (document : String) (failure : Failure) : Narration :=
  .complain ("✗ " ++ document ++ ": " ++ failure.message)

end PageAssets.Batch
