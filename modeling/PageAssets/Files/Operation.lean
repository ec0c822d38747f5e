import PageAssets.Files.Walk

/-! The operations on files. Each returns its outcome together with the file system it leaves
behind, because one that fails may have done a part of its work. Replacing a file is done in
stages: the content is written beside it under a fresh name, gets the permissions of what the path
leads to, and is then renamed over it; whatever goes wrong, the staged file is taken away again. -/

namespace PageAssets.Files.FileSystem

/-- The bytes of a file, read as text. -/
def read (files : FileSystem) (path : FilePath) : Except Cause String := do
  match ← files.find path with
  | (_, .file content _) =>
    match String.fromUTF8? content with
    | some text => .ok text
    | none => .error .notText
  | _ => .error .isADirectory

/-- The regular files of a directory whose names are text. Links do not count. -/
def fileNames (files : FileSystem) (path : FilePath) : Except Cause (List String) := do
  match ← files.find path with
  | (location, .directory _) =>
    .ok ((files.children location).filterMap fun (name, entry) =>
      match entry with
      | .file _ _ => name.text?
      | _ => none)
  | _ => .error .notADirectory

def makeDirectory (files : FileSystem) (steps : List Step) : Except Cause FileSystem := do
  match ← files.lastStep steps with
  | (location, some (.enter name)) =>
    match files.get? (location ++ [name]) with
    | none => .ok (files.put (location ++ [name]) (.directory directoryMode))
    | some _ => .error .alreadyExists
  | _ => .error .alreadyExists

def leadsToDirectory (files : FileSystem) (steps : List Step) : Bool :=
  match files.walk .find maxLinks files.working false steps with
  | .ok (.present location) => files.isDirectoryAt location
  | _ => false

def ensureDirectory (files : FileSystem) (steps : List Step) : Except Cause Unit × FileSystem :=
  match files.makeDirectory steps with
  | .ok made => (.ok (), made)
  | .error cause => (if files.leadsToDirectory steps then .ok () else .error cause, files)

/-- Makes a directory and those above it that are missing. The way is tried from its far end:
only a name that is not found sends the attempt one step back. -/
def ensureDirectories (files : FileSystem) (steps : List Step) : Except Cause Unit × FileSystem :=
  match files.makeDirectory steps with
  | .error .notFound =>
    if _longer : steps = [] then (.error .notFound, files)
    else
      match files.ensureDirectories steps.dropLast with
      | (.error cause, after) => (.error cause, after)
      | (.ok (), after) => after.ensureDirectory steps
  | _ => files.ensureDirectory steps
termination_by steps.length
decreasing_by
  have := List.length_pos_iff.2 _longer
  simp only [List.length_dropLast]
  omega

/-- Makes the directory of a path; the empty path asks for nothing. -/
def makeDirectories (files : FileSystem) (path : FilePath) : Except Cause Unit × FileSystem :=
  if path.isEmpty then (.ok (), files)
  else
    match path.fault? with
    | some cause => (.error cause, files)
    | none => files.ensureDirectories path.steps

/-- The permissions of a staged file until it gets those of its target. -/
def stagedMode : Nat := 0o600

def stagingDirectory (path : FilePath) : FilePath :=
  match path.parent? with
  | some parent => if parent.isEmpty then .current else parent
  | none => .current

def namesLength : List (Name × Entry) → Nat
  | [] => 0
  | row :: rest => row.1.byteSize + namesLength rest

/-- A name that nothing has in a directory and that a path does not end in: it is longer than the
path and all the names together. -/
def freshName (files : FileSystem) (location : Location) (path : FilePath) : Name :=
  let taken := namesLength (files.children location) + path.text.utf8ByteSize
  .text (".tmp" ++ String.ofList (List.replicate taken 'x'))

/-- How long a location is when it is written from the top, with a slash before each name. -/
def writtenSize : Location → Nat
  | [] => 0
  | name :: rest => 1 + name.byteSize + writtenSize rest

/-- The room kept for the name of a staged file, in bytes. -/
def stagedNameRoom : Nat := 10

/-- How long the path of a file staged in a directory may become. It is written from the top, so
the way to the working directory counts. -/
def stagedPathSize (files : FileSystem) (directory : FilePath) : Nat :=
  let above := if directory.isAbsolute then 0 else writtenSize files.working + 1
  above + directory.byteSize + 1 + stagedNameRoom

/-- Writes the content meant for a path beside it, under a fresh name. -/
def stage (files : FileSystem) (path : FilePath) (content : ByteArray) :
    Except Cause (Location × FileSystem) := do
  let directory := stagingDirectory path
  if directory.hasNul then .error .nulInPath
  else if maxPathLength < files.stagedPathSize directory then .error .nameTooLong
  else
    match ← files.find directory with
    | (location, .directory _) =>
      let staged := location ++ [files.freshName location path]
      .ok (staged, files.put staged (.file content stagedMode))
    | _ => .error .notADirectory

/-- The permissions of what a path leads to, or those of a new file. -/
def modeFor (files : FileSystem) (path : FilePath) : Nat :=
  match files.find path with
  | .ok (_, entry) => entry.permissions
  | .error _ => defaultMode

def setMode (files : FileSystem) (location : Location) (mode : Nat) : FileSystem :=
  match files.get? location with
  | some (.file content _) => files.put location (.file content mode)
  | _ => files

/-- Moves the file at a location to where a path points. A link there is replaced and not
followed; a directory is in the way. -/
def rename (files : FileSystem) (source : Location) (path : FilePath) :
    Except Cause FileSystem := do
  match path.fault? with
  | some .nulInPath => .error .invalidArgument
  | some cause => .error cause
  | none =>
    match ← files.lastStep path.steps with
    | (location, some (.enter name)) =>
      if path.endsInSlash then .error .notADirectory
      else
        match files.get? (location ++ [name]), files.get? source with
        | some (.directory _), _ => .error .isADirectory
        | _, some entry => .ok ((files.erase source).put (location ++ [name]) entry)
        | _, none => .error .notFound
    | _ => .error .busy

/-- Gives a path new content, all of it or nothing. -/
def replace (files : FileSystem) (path : FilePath) (content : ByteArray) :
    Except Cause Unit × FileSystem :=
  match files.stage path content with
  | .error cause => (.error cause, files)
  | .ok (location, staged) =>
    match (staged.setMode location (files.modeFor path)).rename location path with
    | .error cause => (.error cause, staged.erase location)
    | .ok renamed => (.ok (), renamed)

/-- Writes a file at some steps, through a link if there is one. An existing file keeps its
permissions unless others are given. -/
def overwriteAt (files : FileSystem) (steps : List Step) (slash : Bool) (content : ByteArray)
    (mode : Option Nat) : Except Cause FileSystem := do
  match ← files.walk .create maxLinks files.working slash steps with
  | .absent location => .ok (files.put location (.file content (mode.getD defaultMode)))
  | .present location =>
    match files.get? location with
    | some (.file _ old) => .ok (files.put location (.file content (mode.getD old)))
    | _ => .error .isADirectory

def overwrite (files : FileSystem) (path : FilePath) (content : ByteArray) :
    Except Cause Unit × FileSystem :=
  let written : Except Cause FileSystem :=
    match path.fault? with
    | some cause => .error cause
    | none => files.overwriteAt path.steps path.endsInSlash content none
  match written with
  | .ok after => (.ok (), after)
  | .error cause => (.error cause, files)

end PageAssets.Files.FileSystem
