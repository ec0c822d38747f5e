import PageAssets.Files.Operation

/-! What the pipelines ask of a disk. They are written against these six operations, so that one
text serves a file system held as a value and a real one. -/

namespace PageAssets.Files

class FileAccess (m : Type → Type) where
  readText : FilePath → m (Except Cause String)
  /-- The names of the regular files of a directory, in no particular order. -/
  fileNames : FilePath → m (Except Cause (List String))
  leads : FilePath → m Bool
  makeDirectories : FilePath → m (Except Cause Unit)
  /-- Gives a file new content in one step. -/
  replaceFile : FilePath → String → m (Except Cause Unit)
  overwriteFile : FilePath → String → m (Except Cause Unit)

instance : FileAccess (StateM FileSystem) where
  readText path := fun files => (files.read path, files)
  fileNames path := fun files => (files.fileNames path, files)
  leads path := fun files => (files.leads path, files)
  makeDirectories path := fun files => files.makeDirectories path
  replaceFile path text := fun files => files.replace path text.toUTF8
  overwriteFile path text := fun files => files.overwrite path text.toUTF8

end PageAssets.Files
