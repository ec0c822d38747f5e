import PageAssets.Text.Alphanumeric
import PageAssets.Text.Search

/-! Paths that mention variables. A path is read as a sequence of plain text and references, the
references are resolved, and a tilde at the front stands for the home directory. A reference in
braces may carry a default for a variable that is not set; the default is taken as it is. -/

namespace PageAssets

structure Environment where
  bindings : List (String × String)

namespace Environment

/-- The value of a variable. A binding is a text with an equals sign behind the name, so a name that
holds such a sign itself finds the rest of a value that goes on like the name. -/
def get? (environment : Environment) (name : String) : Option String :=
  match Text.cutAtMark? ['='] name.toList with
  | none => environment.bindings.lookup name
  | some (front, inside) =>
    (environment.bindings.lookup (String.ofList front)).bind fun value =>
      ((inside ++ ['=']).isPrefixOf? value.toList).map String.ofList

/-- A home that is set to nothing counts as not set. -/
def home? (environment : Environment) : Option String :=
  (environment.get? "HOME").filter fun home => !home.isEmpty

inductive Fragment where
  | plain (text : List Char)
  | reference (name : List Char) (default? : Option (List Char))
  deriving DecidableEq, Repr

def isVariableChar (c : Char) : Bool := Text.isAlphanumeric c || c = '_'

/-- The reference between a pair of braces. A default needs a name in front of it. -/
def bracedReference (inside : List Char) : Fragment :=
  match Text.cutAtMark? [':', '-'] inside with
  | some (c :: name, default) => .reference (c :: name) (some default)
  | _ => .reference inside none

/-- Reads what follows a dollar sign. A sign that starts no reference stands for itself, and so
do two in a row and an open brace that is never closed. -/
def readReference : List Char → Fragment × List Char
  | [] => (.plain ['$'], [])
  | c :: text =>
    if c = '{' then
      match Text.cutAtMark? ['}'] text with
      | some (inside, rest) => (bracedReference inside, rest)
      | none => (.plain ['$', '{'], text)
    else if isVariableChar c then
      (.reference (c :: text.takeWhile isVariableChar) none, text.dropWhile isVariableChar)
    else if c = '$' then (.plain ['$'], text)
    else (.plain ['$'], c :: text)

theorem readReference_length_le (text : List Char) :
    (readReference text).2.length ≤ text.length := by
  fun_cases readReference text with
  | case1 => simp
  | case2 text inside rest cut =>
    have := ((Text.cutAtFirst?_suffix (fun _ _ => Text.isPrefixOf?_suffix) cut).trans
      (List.drop_suffix _ _)).length_le
    simp; omega
  | case3 => simp
  | case4 c text =>
    have := (List.dropWhile_suffix isVariableChar (l := text)).length_le
    simp; omega
  | case5 => simp
  | case6 => simp

def fragments : List Char → List Fragment
  | [] => []
  | c :: text =>
    if c = '$' then (readReference text).1 :: fragments (readReference text).2
    else .plain [c] :: fragments text
termination_by text => text.length
decreasing_by
  · have := readReference_length_le text
    simp only [List.length_cons]
    omega
  · simp

/-- The text that a fragment stands for. A variable without a value or a default is an error. -/
def resolve (environment : Environment) : Fragment → Except String (List Char)
  | .plain text => .ok text
  | .reference name default? =>
    match environment.get? (String.ofList name), default? with
    | some value, _ => .ok value.toList
    | none, some default => .ok default
    | none, none => .error (String.ofList name)

/-- Resolves fragments from left to right; the first missing variable is reported. -/
def resolveAll (environment : Environment) : List Fragment → Except String (List Char)
  | [] => .ok []
  | fragment :: rest => do
    let first ← environment.resolve fragment
    let others ← environment.resolveAll rest
    return first ++ others

/-- Puts the home directory for a tilde that stands alone or in front of a slash. -/
def expandTilde (environment : Environment) (text : List Char) : List Char :=
  match text, environment.home? with
  | ['~'], some home => home.toList
  | '~' :: '/' :: rest, some home => home.toList ++ '/' :: rest
  | _, _ => text

/-- Expands variables and the tilde. A tilde that a variable brought to the front stands for
itself. The error names a variable that is not set. -/
def expand (environment : Environment) (text : List Char) : Except String (List Char) := do
  let resolved ← environment.resolveAll (fragments text)
  if text.head? ≠ some '~' && resolved.head? = some '~' then return resolved
  else return environment.expandTilde resolved

end Environment
end PageAssets
