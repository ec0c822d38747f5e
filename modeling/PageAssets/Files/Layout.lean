import PageAssets.Files.Operation

/-! Laying out a file system by hand: a machine with an empty working directory, and putting
something at a place, with the directories above it, or taking it away. -/

namespace PageAssets.Files.FileSystem

/-- A new directory with its whole way from the top, for relative paths to start from. -/
def withWorking (files : FileSystem) (working : Location) : FileSystem :=
  let ways := (List.range working.length).map fun depth => working.take (depth + 1)
  { ways.foldl (fun files way => files.put way (.directory directoryMode)) files with working }

def machineDirectories : List String :=
  ["bin", "boot", "dev", "etc", "home", "lib", "media", "mnt", "opt", "proc", "root", "run", "sbin",
    "srv", "sys", "tmp", "usr", "var"]

/-- A machine with an empty working directory among its temporary files. One device is there too,
which reads as an empty file. -/
def machine : FileSystem :=
  let bare := machineDirectories.foldl (fun files name => files.put [.text name] (.directory directoryMode)) empty
  (bare.put [.text "dev", .text "null"] (.file ByteArray.empty 0o666)).withWorking
    [.text "tmp", .text ".workspace"]

inductive Fixture where
  | file (content : ByteArray) (mode : Nat)
  | directory
  | link (target : FilePath)
  | nothing

private def prepare (files : FileSystem) (steps : List Step) : Except Cause FileSystem :=
  if steps.dropLast = [] then .ok files
  else
    match files.ensureDirectories steps.dropLast with
    | (.ok (), after) => .ok after
    | (.error cause, _) => .error cause

def arrange (files : FileSystem) (steps : List Step) (fixture : Fixture) :
    Except Cause FileSystem := do
  let files ← files.prepare steps
  match fixture with
  | .file content mode => files.overwriteAt steps false content (some (mode % permissionBits))
  | .directory =>
    match files.ensureDirectories steps with
    | (.ok (), after) => .ok after
    | (.error cause, _) => .error cause
  | .link target =>
    match ← files.lastStep steps with
    | (location, some (.enter name)) =>
      match files.get? (location ++ [name]) with
      | none => .ok (files.put (location ++ [name]) (.link target))
      | some _ => .error .alreadyExists
    | _ => .error .alreadyExists
  | .nothing =>
    match ← files.lastStep steps with
    | (location, some (.enter name)) => .ok (files.eraseTree (location ++ [name]))
    | _ => .error .busy

end PageAssets.Files.FileSystem
