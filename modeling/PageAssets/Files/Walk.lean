import PageAssets.Files.FileSystem
import PageAssets.Files.Cause

/-! Following a path through a file system. Every step needs a directory to start from; a link is
replaced by the steps of its target, and a path through too many links leads nowhere. -/

namespace PageAssets.Files

def maxLinks : Nat := 40

def maxNameLength : Nat := 255

def maxPathLength : Nat := 4095

def Name.byteSize : Name → Nat
  | .text spelling => spelling.utf8ByteSize
  | .raw bytes => bytes.size

namespace FilePath

def byteSize (path : FilePath) : Nat := path.text.utf8ByteSize

def hasNul (path : FilePath) : Bool := path.text.toList.contains '\x00'

/-- Why a path cannot be followed, whatever stands where. -/
def fault? (path : FilePath) : Option Cause :=
  if path.hasNul then some .nulInPath
  else if path.isEmpty then some .notFound
  else if maxPathLength < path.byteSize then some .nameTooLong
  else none

end FilePath

inductive Purpose where
  | find
  /-- To write a file, whose name no slash may follow. -/
  | create
  deriving DecidableEq, Repr

/-- Where a path leads: to something, or to a free name in a directory. -/
inductive Place where
  | present (location : Location)
  | absent (location : Location)
  deriving DecidableEq

namespace FileSystem

/-- Takes steps from a location while no more than `links` links are met. The flag tells that a
slash ends the path, which asks for a directory; so does a slash at the end of a link that stands
last. -/
def walk (files : FileSystem) (purpose : Purpose) (links : Nat) (location : Location)
    (slash : Bool) : List Step → Except Cause Place
  | [] =>
    if slash && !files.isDirectoryAt location then .error .notADirectory
    else .ok (.present location)
  | step :: rest =>
    if files.isDirectoryAt location then
      match step with
      | .top => files.walk purpose links [] slash rest
      | .here => files.walk purpose links location slash rest
      | .up => files.walk purpose links location.dropLast slash rest
      | .enter name =>
        if purpose = .create && slash && rest.isEmpty then .error .isADirectory
        else if maxNameLength < name.byteSize then .error .nameTooLong
        else
          match files.get? (location ++ [name]) with
          | none =>
            if rest.isEmpty && !slash then .ok (.absent (location ++ [name]))
            else .error .notFound
          | some (.link target) =>
            match links with
            | 0 => .error .tooManyLinks
            | links + 1 =>
              files.walk purpose links location
                (slash || (rest.isEmpty && target.endsInSlash)) (target.steps ++ rest)
          | some _ => files.walk purpose links (location ++ [name]) slash rest
    else .error .notADirectory
termination_by steps => (links, steps.length)

def place (files : FileSystem) (path : FilePath) : Except Cause Place :=
  match path.fault? with
  | some cause => .error cause
  | none => files.walk .find maxLinks files.working path.endsInSlash path.steps

def find (files : FileSystem) (path : FilePath) : Except Cause (Location × Entry) := do
  match ← files.place path with
  | .absent _ => .error .notFound
  | .present location =>
    match files.get? location with
    | none => .error .notFound
    | some entry => .ok (location, entry)

def leads (files : FileSystem) (path : FilePath) : Bool := (files.find path).isOk

/-- The directory that the last of some steps starts from, and that step. -/
def lastStep (files : FileSystem) (steps : List Step) : Except Cause (Location × Option Step) := do
  match ← files.walk .find maxLinks files.working false steps.dropLast with
  | .absent _ => .error .notFound
  | .present location =>
    if !files.isDirectoryAt location then .error .notADirectory
    else
      match steps.getLast? with
      | some (.enter name) =>
        if maxNameLength < name.byteSize then .error .nameTooLong
        else .ok (location, some (.enter name))
      | last => .ok (location, last)

end FileSystem
end PageAssets.Files
