import PageAssets.NameTable
import PageAssets.Page.Identity

/-! The configuration: where the pages are, which of them get the common style, and which files
replace the styles that come with the program. -/

namespace PageAssets.Config
open Files

structure Unify where
  targets : List String
  sharedStyle : Option FilePath
  /-- The files with styles for single pages, by identity. -/
  pageStyles : NameTable FilePath

structure Settings where
  webDir : FilePath
  unify : Unify

def defaultWebDir : FilePath := ⟨"lua/web"⟩

def defaultTargets : List String :=
  ["rule_management", "proxy_management", "features", "user_settings"]

def Unify.default : Unify := ⟨defaultTargets, none, .empty⟩

namespace Settings

def default : Settings := ⟨defaultWebDir, .default⟩

/-- Refuses identities that cannot name a page; the first one is reported. -/
def checkIdentities : List String → Except ConfigFault Unit
  | [] => .ok ()
  | identity :: rest =>
    if Page.isIdentity identity then checkIdentities rest else .error (.invalidIdentity identity)

def validate (settings : Settings) : Except ConfigFault Unit :=
  if settings.webDir.isEmpty then .error .emptyWebDir
  else checkIdentities (settings.unify.targets ++ settings.unify.pageStyles.names)

def applyEnvironment (environment : Environment) (settings : Settings) :
    Except ConfigFault Settings :=
  match Environment.webDirSetting.lookup environment with
  | .error fault => .error (.setting fault)
  | .ok none => .ok settings
  | .ok (some webDir) => .ok { settings with webDir }

end Settings
end PageAssets.Config
