import PageAssets.Files.Name

/-! Paths as they are written. Joining changes nothing in either part, so a path is shown the way
it was given; only the steps that it denotes leave out empty parts. -/

namespace PageAssets.Files

structure FilePath where
  text : String
  deriving DecidableEq, Repr

inductive Step where
  /-- Back to the top, from where an absolute path starts. -/
  | top
  | here
  | up
  | enter (name : Name)
  deriving DecidableEq

def slashParts : List Char → List (List Char)
  | [] => [[]]
  | c :: rest =>
    if c = '/' then [] :: slashParts rest
    else
      match slashParts rest with
      | [] => [[c]]
      | part :: parts => (c :: part) :: parts

namespace Step

/-- An empty part is no step. -/
def ofPart? (part : List Char) : Option Step :=
  match part with
  | [] => none
  | ['.'] => some here
  | ['.', '.'] => some up
  | _ => some (enter (.text (String.ofList part)))

def ofBytes? (bytes : ByteArray) : Option Step :=
  match Name.ofBytes bytes with
  | .text text => ofPart? text.toList
  | .raw bytes => some (enter (.raw bytes))

end Step

namespace FilePath

def current : FilePath := ⟨"."⟩

def isEmpty (path : FilePath) : Bool := path.text.toList = []

def isAbsolute (path : FilePath) : Bool := path.text.toList.head? = some '/'

/-- A slash at the end asks for a directory. -/
def endsInSlash (path : FilePath) : Bool := path.text.toList.getLast? = some '/'

/-- Appends a part behind one slash. An absolute part stands alone, and an empty path gives no
slash. -/
def join (base : FilePath) (part : String) : FilePath :=
  if isAbsolute ⟨part⟩ || base.isEmpty then ⟨part⟩
  else if base.endsInSlash then ⟨base.text ++ part⟩
  else ⟨base.text ++ "/" ++ part⟩

def steps (path : FilePath) : List Step :=
  let parts := (slashParts path.text.toList).filterMap Step.ofPart?
  if path.isAbsolute then .top :: parts else parts

/-- Whether a part behind the first slash counts as a component. -/
def isComponent (part : List Char) : Bool := part ≠ [] && part ≠ ['.']

/-- The path without its last component, cut where the component before it ends. The empty path
and the top have no parent. -/
def parent? (path : FilePath) : Option FilePath :=
  match slashParts path.text.toList with
  | [] => none
  | first :: others =>
    match others.reverse.dropWhile (!isComponent ·) with
    | [] => if first = [] then none else some ⟨""⟩
    | _ :: before =>
      match (before.dropWhile (!isComponent ·)).reverse with
      | [] => some (if first = [] then ⟨"/"⟩ else ⟨String.ofList first⟩)
      | kept => some ⟨String.ofList (['/'].intercalate (first :: kept))⟩

end FilePath
end PageAssets.Files
