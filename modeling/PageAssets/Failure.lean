import PageAssets.Markup.Block
import PageAssets.Files.Cause
import PageAssets.Environment.Setting

/-! Why a page, a configuration or a command cannot be processed. Each failure names the path or
the identity it is about, so that a report needs nothing else. -/

namespace PageAssets
open Files Markup Environment

inductive ConfigFault where
  | setting (fault : SettingFault)
  | fileMissing (path : FilePath)
  | unreadable (path : FilePath) (cause : Cause)
  | malformed (path : FilePath)
  | emptyWebDir
  | invalidIdentity (identity : String)
  | stated (text : String)
  deriving DecidableEq, Repr

inductive Failure where
  | missingDocument (path : FilePath)
  | missingBlock (path : FilePath) (kind : BlockKind)
  | unreadable (path : FilePath) (cause : Cause)
  | unwritable (path : FilePath) (cause : Cause)
  | invalidIdentity (identity : String)
  | configuration (fault : ConfigFault)
  deriving DecidableEq, Repr

def invalidIdentityMessage (identity : String) : String :=
  "invalid document identity \"" ++ identity ++ "\""

def ConfigFault.message : ConfigFault → String
  | setting fault => fault.message
  | fileMissing path => "config file not found: " ++ path.text
  | unreadable path cause => "failed to read " ++ path.text ++ ": " ++ cause.message
  | malformed path => "failed to parse " ++ path.text
  | emptyWebDir => "web_dir must not be empty"
  | invalidIdentity identity => "unify: " ++ invalidIdentityMessage identity
  | stated text => text

def Failure.message : Failure → String
  | missingDocument path => "file not found: " ++ path.text
  | missingBlock path kind =>
    "no <" ++ String.ofList kind.tagName ++ "> block found in " ++ path.text
  | unreadable path cause => "failed to read " ++ path.text ++ ": " ++ cause.message
  | unwritable path cause => "failed to write " ++ path.text ++ ": " ++ cause.message
  | invalidIdentity identity => invalidIdentityMessage identity
  | configuration fault => "configuration error: " ++ fault.message

end PageAssets
