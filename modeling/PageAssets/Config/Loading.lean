import PageAssets.Config.Decoding
import PageAssets.Page.Storage
import PageAssets.Style.Bundle

/-! Finding and loading the configuration. A path given outright comes before the one that the
environment names, and that one before the places where a file is looked for; without any file the
defaults hold. The environment then overrides what the file says. -/

namespace PageAssets.Config
open Files Page

/-- Where a configuration file is looked for, in this order. -/
def searchPaths : List String :=
  ["extricate.toml", ".extricate.toml", "~/.config/extricate/config.toml"]

variable {m : Type → Type} [Monad m] [FileAccess m]

def checked {α : Type} (result : Except ConfigFault α) : ExceptT Failure m α :=
  ExceptT.mk (pure (result.mapError Failure.configuration))

def loadFile (path : FilePath) : ExceptT Failure m Settings := do
  let text ← failingWith (fun cause => .configuration (.unreadable path cause))
    (FileAccess.readText path)
  match readSettings? text with
  | some settings => return settings
  | none => throw (.configuration (.malformed path))

def search (environment : Environment) : List String → ExceptT Failure m Settings
  | [] => return .default
  | candidate :: rest => do
    let path : FilePath := ⟨String.ofList (environment.expandTilde candidate.toList)⟩
    if ← ExceptT.lift (FileAccess.leads path) then loadFile path
    else search environment rest

def loadNamed (path : FilePath) : ExceptT Failure m Settings := do
  if ← ExceptT.lift (FileAccess.leads path) then loadFile path
  else throw (.configuration (.fileMissing path))

/-- Loads the settings, lets the environment override them and checks them. -/
def load (environment : Environment) (explicit : Option FilePath) : ExceptT Failure m Settings := do
  let named ← checked
    ((Environment.configSetting.lookup environment).mapError ConfigFault.setting)
  let settings ←
    match explicit.or named with
    | some path => loadNamed path
    | none => search environment searchPaths
  let settings ← checked (settings.applyEnvironment environment)
  checked settings.validate
  return settings

/-- The shared style in force: that of the configured file, or the one that comes along. -/
def sharedStyle : Option FilePath → ExceptT Failure m String
  | some path => readDocument path
  | none => pure Style.Bundle.builtin.shared

def addPageStyles (bundle : Style.Bundle) :
    List (String × FilePath) → ExceptT Failure m Style.Bundle
  | [] => pure bundle
  | (identity, path) :: rest => do
    let style ← readDocument path
    addPageStyles (bundle.withPage identity style) rest

def styleBundle (settings : Settings) : ExceptT Failure m Style.Bundle := do
  let shared ← sharedStyle settings.unify.sharedStyle
  addPageStyles { Style.Bundle.builtin with shared } settings.unify.pageStyles.rows

def writeExample (path : FilePath) : ExceptT Failure m Unit :=
  failingWith (.unwritable path) (FileAccess.overwriteFile path exampleText)

end PageAssets.Config
