import PageAssets.Config.Settings
import PageAssets.Toml.Document

/-! Reading settings from a document. Keys that mean nothing here are ignored and missing ones
take their defaults; a value of the wrong kind makes the document malformed. -/

namespace PageAssets.Config
open Files Toml

/-- The key under which a date shows its text where a table is expected. -/
def dateKey : String := "$__toml_private_datetime"

/-- A value seen as a table. A date counts as a table of one row. -/
def rowsOf? : Value → Option Rows
  | .table _ rows => some rows
  | .dateTime text => some [(dateKey, .string text)]
  | _ => none

def textOf? : Value → Option String
  | .string text => some text
  | _ => none

def pathOf? (value : Value) : Option FilePath := (textOf? value).map FilePath.mk

def textsOf? : Value → Option (List String)
  | .array items => items.mapM textOf?
  | _ => none

def pathTableOf? (value : Value) : Option (NameTable FilePath) := do
  let rows ← rowsOf? value
  let paths ← rows.mapM fun row => (pathOf? row.2).map fun path => (row.1, path)
  return .ofList paths

def orDefault {α : Type} (decode : Value → Option α) (default : α) : Option Value → Option α
  | none => some default
  | some value => decode value

def unifyOf? (targets sharedStyle pageStyles : Option Value) : Option Unify := do
  return {
    targets := ← orDefault textsOf? defaultTargets targets
    sharedStyle := ← orDefault (fun value => (pathOf? value).map some) none sharedStyle
    pageStyles := ← orDefault pathTableOf? .empty pageStyles }

/-- The unification settings, as a table or as a list of its values in order. -/
def decodeUnify? (value : Value) : Option Unify :=
  match value with
  | .array items => unifyOf? items[0]? items[1]? items[2]?
  | .tables items =>
    unifyOf? (items[0]?.map (.table .header)) (items[1]?.map (.table .header))
      (items[2]?.map (.table .header))
  | _ =>
    (rowsOf? value).bind fun rows =>
      unifyOf? (rows.lookup "targets") (rows.lookup "shared_style") (rows.lookup "page_styles")

def decodeSettings? (rows : Rows) : Option Settings := do
  return {
    webDir := ← orDefault pathOf? defaultWebDir (rows.lookup "web_dir")
    unify := ← orDefault decodeUnify? .default (rows.lookup "unify") }

def readSettings? (text : String) : Option Settings :=
  (readDocument text.toList).bind decodeSettings?

/-- A configuration file to start from. It describes the default settings. -/
def exampleText : String :=
  "web_dir = \"lua/web\"\n\n[unify]\ntargets = [\n" ++
  "    \"rule_management\",\n    \"proxy_management\",\n" ++
  "    \"features\",\n    \"user_settings\",\n" ++
  "]\n\n[unify.page_styles]\n"

end PageAssets.Config
