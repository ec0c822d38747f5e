import PageAssets.Batch.Extraction
import PageAssets.Batch.Unification
import PageAssets.CommandLine.Grammar
import PageAssets.Config.Loading

/-! Running commands. A command ends with an exit code and with what it said. All that can fail
before the first page is touched is tried first. -/

namespace PageAssets.CommandLine
open Files Environment Batch Config

/-- How a command ends. A page that has failed is recorded in the log, whether or not anything is
said of it. -/
structure Finish where
  code : Nat
  narration : Narration
  log : List Failed
  deriving DecidableEq, Repr

/-- The level of the log: that of the command line comes before that of the environment. -/
def levelIn (environment : Environment) (given : Option LogLevel) : LogLevel :=
  given.getD (logLevel.getD environment .warn)

/-- The records that show at a level. Each of them is a warning. -/
def Finish.logAt (finish : Finish) (level : LogLevel) : List Failed :=
  if level = .error then [] else finish.log

def versionText : String := "extricate 0.3.0"

def usage : String :=
  "usage: extricate [-c FILE] [--log-level LEVEL] [-s] " ++
  "(extract [-w DIR] | unify [-w DIR] [TARGETS] | init-config [PATH] | env-docs)"

def usageCode : Nat := 2

/-- How a batch ends: the last line counts its pages, and any failure shows in the exit code. -/
def report (summary : Summary) (narration : Narration) : Finish where
  code := if summary.isSuccess then 0 else 1
  narration := narration ++ .say ("Done: " ++ summary.display)
  log := summary.failures

variable {m : Type → Type} [Monad m] [FileAccess m]

def settingsFor (environment : Environment) (config webDir : Option FilePath) :
    ExceptT Failure m Settings := do
  let settings ← load environment config
  return { settings with webDir := webDir.getD settings.webDir }

/-- Targets on the command line take the place of the configured ones and are checked again. -/
def withTargets (settings : Settings) (targets : List String) : ExceptT Failure m Settings :=
  if targets = [] then return settings
  else do
    let settings := { settings with unify := { settings.unify with targets } }
    checked settings.validate
    return settings

def perform (environment : Environment) (config : Option FilePath) (silent : Bool) :
    Command → ExceptT Failure m Finish
  | .extract webDir => do
    let settings ← settingsFor environment config webDir
    let (summary, narration) ← runExtraction settings.webDir silent
    return report summary narration
  | .unify webDir targets => do
    let settings ← settingsFor environment config webDir
    let settings ← withTargets settings targets
    let bundle ← styleBundle settings
    let outcomes ← ExceptT.lift (runUnification settings.webDir bundle settings.unify.targets)
    return report (summarize outcomes) (.hushed silent (narrateUnifications outcomes))
  | .initConfig path => do
    writeExample path
    return ⟨0, .say ("Wrote " ++ path.text), []⟩
  | .environmentDocs => return ⟨0, ⟨documentation, []⟩, []⟩

/-- Runs a command. The level of the log has no part in it. -/
def run (environment : Environment) : Request → m Finish
  | .help => return ⟨0, .say usage, []⟩
  | .version => return ⟨0, .say versionText, []⟩
  | .run config _ silent command => do
    match ← (perform environment config silent command).run with
    | .ok finish => return finish
    | .error failure => return ⟨1, .complain failure.message, []⟩

end PageAssets.CommandLine
