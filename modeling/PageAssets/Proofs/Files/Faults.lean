import PageAssets.Files.Access

/-! A disk on which operations fail that could have been done: it is full, worn out or not to be
written to. What such a disk does otherwise is what every disk does. -/

namespace PageAssets.Files

/-- Which operations fail, path by path. A fault in finishing strikes when the staged file is there
already: while it is filled, gets its permissions or is renamed. -/
structure Faults where
  reading : FilePath → Option Cause
  listing : FilePath → Option Cause
  making : FilePath → Option Cause
  staging : FilePath → Option Cause
  finishing : FilePath → Option Cause

namespace Faults

def none : Faults :=
  ⟨fun _ => .none, fun _ => .none, fun _ => .none, fun _ => .none, fun _ => .none⟩

variable (faults : Faults) (files : FileSystem) (path : FilePath)

def read : Except Cause String :=
  match faults.reading path with
  | some cause => .error cause
  | .none => files.read path

def fileNames : Except Cause (List String) :=
  match faults.listing path with
  | some cause => .error cause
  | .none => files.fileNames path

def makeDirectories : Except Cause Unit × FileSystem :=
  match faults.making path with
  | some cause => (.error cause, files)
  | .none => files.makeDirectories path

/-- Whatever goes wrong, the staged file is taken away again. -/
def replace (content : ByteArray) : Except Cause Unit × FileSystem :=
  match faults.staging path with
  | some cause => (.error cause, files)
  | .none =>
    match files.stage path content with
    | .error cause => (.error cause, files)
    | .ok (location, staged) =>
      let finished : Except Cause FileSystem :=
        match faults.finishing path with
        | some cause => .error cause
        | .none => (staged.setMode location (files.modeFor path)).rename location path
      match finished with
      | .error cause => (.error cause, staged.erase location)
      | .ok renamed => (.ok (), renamed)

end Faults

/-- Actions on a disk with some faults. Only the operations that pages and assets need can fail. -/
def FaultyDisk (_ : Faults) : Type → Type := StateM FileSystem

namespace FaultyDisk
variable {faults : Faults}

instance : Monad (FaultyDisk faults) := inferInstanceAs (Monad (StateM FileSystem))

instance : FileAccess (FaultyDisk faults) where
  readText path := fun files => (faults.read files path, files)
  fileNames path := fun files => (faults.fileNames files path, files)
  leads path := fun files => (files.leads path, files)
  makeDirectories path := fun files => faults.makeDirectories files path
  replaceFile path text := fun files => faults.replace files path text.toUTF8
  overwriteFile path text := fun files => files.overwrite path text.toUTF8

end FaultyDisk
end PageAssets.Files
