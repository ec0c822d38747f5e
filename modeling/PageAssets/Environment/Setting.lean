import PageAssets.Environment.Expansion
import PageAssets.Files.FilePath
import PageAssets.Text.Blank

/-! The settings that the environment makes. Each is a variable with a name, a description and a
way to read its text, and some have a value of their own when they are not set. -/

namespace PageAssets.Environment
open Files

inductive LogLevel where
  | trace
  | debug
  | info
  | warn
  | error
  deriving DecidableEq, Repr

namespace LogLevel

def all : List LogLevel := [.trace, .debug, .info, .warn, .error]

def name : LogLevel → String
  | trace => "trace"
  | debug => "debug"
  | info => "info"
  | warn => "warn"
  | error => "error"

/-- Reads a level; blanks around it and the case of its letters do not matter. -/
def ofText? (text : String) : Option LogLevel :=
  let word := (Text.trim text.toList).map Char.toLower
  all.find? fun level => level.name.toList = word

end LogLevel

inductive Problem where
  | unknownLevel (text : String)
  | emptyPath
  | undefined (name : String)
  | notSet
  deriving DecidableEq, Repr

def Problem.message : Problem → String
  | unknownLevel text =>
    "Invalid log level '" ++ text ++ "'. Use: trace, debug, info, warn, error"
  | emptyPath => "Path must not be empty"
  | undefined name =>
    "Failed to expand path: error looking key '" ++ name ++ "' up: environment variable not found"
  | notSet => "Required environment variable not set"

structure SettingFault where
  variableName : String
  problem : Problem
  deriving DecidableEq, Repr

def SettingFault.message (fault : SettingFault) : String :=
  "Environment variable '" ++ fault.variableName ++ "': " ++ fault.problem.message

structure Setting (α : Type) where
  name : String
  description : String
  defaultText : String
  /-- The value of a variable that is not set. -/
  default? : Option α
  read : Environment → String → Except Problem α

namespace Setting

variable {α : Type} (setting : Setting α) (environment : Environment)

def parse (text : String) : Except SettingFault α :=
  (setting.read environment text).mapError fun problem => ⟨setting.name, problem⟩

/-- The value, if there is one; a text that cannot be read is a fault. -/
def lookup : Except SettingFault (Option α) :=
  match environment.get? setting.name with
  | some text => (setting.parse environment text).map some
  | none => .ok none

def get : Except SettingFault α := do
  match ← setting.lookup environment with
  | some value => return value
  | none =>
    match setting.default? with
    | some value => return value
    | none => .error ⟨setting.name, .notSet⟩

def getD (other : α) : α :=
  match setting.get environment with
  | .ok value => value
  | .error _ => other

end Setting

def readPath (environment : Environment) (text : String) : Except Problem FilePath :=
  match Text.trim text.toList with
  | [] => .error .emptyPath
  | trimmed =>
    match environment.expand trimmed with
    | .ok expanded => .ok ⟨String.ofList expanded⟩
    | .error name => .error (.undefined name)

def logLevel : Setting LogLevel where
  name := "EXTRICATE_LOG_LEVEL"
  description := "Log level: trace, debug, info, warn, error"
  defaultText := "warn"
  default? := some .warn
  read _ text :=
    match LogLevel.ofText? text with
    | some level => .ok level
    | none => .error (.unknownLevel text)

/-- Any text but the empty one asks for output without colour. -/
def noColor : Setting Bool where
  name := "NO_COLOR"
  description := "Disable colored output when set to any value"
  defaultText := "unset"
  default? := some false
  read _ text := .ok (!text.toList.isEmpty)

def webDirSetting : Setting FilePath where
  name := "EXTRICATE_WEB_DIR"
  description := "Directory containing the HTML documents"
  defaultText := "from configuration"
  default? := none
  read := readPath

def configSetting : Setting FilePath where
  name := "EXTRICATE_CONFIG"
  description := "Path of the configuration file"
  defaultText := "search extricate.toml, .extricate.toml, ~/.config/extricate/config.toml"
  default? := none
  read := readPath

def Setting.documentation {α : Type} (setting : Setting α) : String :=
  "- `" ++ setting.name ++ "`: " ++ setting.description ++
    " (default: " ++ setting.defaultText ++ ")"

def documentation : List String := [
  "# Environment Variables Documentation",
  "",
  "## Core Configuration",
  "",
  logLevel.documentation,
  noColor.documentation,
  "",
  "## Paths",
  "",
  webDirSetting.documentation,
  configSetting.documentation]

def documentationText : String := String.join (documentation.map (· ++ "\n"))

end PageAssets.Environment
