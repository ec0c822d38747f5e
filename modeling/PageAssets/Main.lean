import PageAssets.CommandLine.Run

/-! The program: commands carried out on the disk of the machine. Permissions cannot be read here,
so a file that takes the place of another one gets those of a new file. -/

namespace PageAssets.Disk
open Files

def causeOf : IO.Error → Cause
  | .noFileOrDirectory .. => .notFound
  | .alreadyExists .. => .alreadyExists
  | .inappropriateType _ code _ => if code = 21 then .isADirectory else .notADirectory
  | .resourceBusy .. => .busy
  | .invalidArgument _ code _ => if code = 36 then .nameTooLong else .invalidArgument
  | error => .stated (toString error)

def attempt {α : Type} (action : IO α) : IO (Except Cause α) := do
  return (← action.toBaseIO).mapError causeOf

def readText (path : FilePath) : IO (Except Cause String) := do
  match ← attempt (IO.FS.readBinFile path.text) with
  | .error cause => return .error cause
  | .ok bytes =>
    match String.fromUTF8? bytes with
    | some text => return .ok text
    | none => return .error .notText

def fileNames (path : FilePath) : IO (Except Cause (List String)) :=
  attempt do
    let directory ← IO.FS.realPath path.text
    let entries ← directory.readDir
    let regular ← entries.filterM fun entry => return (← entry.path.symlinkMetadata).type == .file
    return regular.toList.map fun entry => entry.fileName

def leads (path : FilePath) : IO Bool := do
  let found ← attempt do
    let target ← IO.FS.realPath path.text
    target.metadata
  return found.isOk

def makeDirectories (path : FilePath) : IO (Except Cause Unit) :=
  if path.isEmpty then return .ok () else attempt (IO.FS.createDirAll path.text)

def overwriteFile (path : FilePath) (text : String) : IO (Except Cause Unit) :=
  attempt (IO.FS.writeFile path.text text)

def newFileRights : IO.FileRight where
  user := { read := true, write := true }
  group := { read := true }
  other := { read := true }

/-- Stages the text beside the path and renames it, so that nobody sees a part of it. -/
def replaceFile (path : FilePath) (text : String) : IO (Except Cause Unit) :=
  attempt do
    let name := ".tmp" ++ toString (← IO.rand 0 999999999)
    let staged := ((FileSystem.stagingDirectory path).join name).text
    let handle ← IO.FS.Handle.mk staged .writeNew
    try
      handle.putStr text
      handle.flush
      IO.setAccessRights staged newFileRights
      IO.FS.rename staged path.text
    catch error =>
      IO.FS.removeFile staged
      throw error

instance : FileAccess IO where
  readText := readText
  fileNames := fileNames
  leads := leads
  makeDirectories := makeDirectories
  replaceFile := replaceFile
  overwriteFile := overwriteFile

def splitBytes (separator : UInt8) : List UInt8 → List (List UInt8)
  | [] => [[]]
  | byte :: rest =>
    match splitBytes separator rest with
    | [] => [[byte]]
    | part :: parts => if byte = separator then [] :: part :: parts else (byte :: part) :: parts

/-- A variable and its value, around the first equals sign. -/
def bindingOf? (bytes : List UInt8) : Option (String × String) := do
  let text ← String.fromUTF8? (ByteArray.mk bytes.toArray)
  let (name, value) ← Text.cutAtMark? ['='] text.toList
  return (String.ofList name, String.ofList value)

def readEnvironment : IO Environment := do
  match ← attempt (IO.FS.readBinFile "/proc/self/environ") with
  | .ok bytes => return ⟨(splitBytes 0 bytes.toList).filterMap bindingOf?⟩
  | .error _ => return ⟨[]⟩

def logLine (record : Batch.Failed) : String :=
  "WARN document failed document=" ++ record.document.quote ++ " error=" ++ record.failure.message

/-- Prints each record of the log behind what is said of the same page. -/
def printErrors : List String → List Batch.Failed → IO Unit
  | line :: lines, record :: log => do
    IO.eprintln line
    IO.eprintln (logLine record)
    printErrors lines log
  | lines, log => do
    lines.forM IO.eprintln
    log.forM fun record => IO.eprintln (logLine record)

end PageAssets.Disk

open PageAssets in
def main (arguments : List String) : IO UInt32 := do
  match CommandLine.parse? arguments with
  | none =>
    IO.eprintln CommandLine.usage
    return CommandLine.usageCode.toUInt32
  | some request =>
    let environment ← Disk.readEnvironment
    let finish : CommandLine.Finish ← CommandLine.run environment request
    finish.narration.out.forM IO.println
    Disk.printErrors finish.narration.err (finish.logAt (CommandLine.levelIn environment request.level?))
    return finish.code.toUInt32
