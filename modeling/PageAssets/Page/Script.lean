import PageAssets.Markup.Placement

/-! Scripts that hold code and scripts that only point at a file. The attributes of the opening
tag decide; the body does not. -/

namespace PageAssets.Page
open Markup

inductive ScriptClass where
  /-- The tag names a file; the block stays as it is. -/
  | external
  | inline
  deriving DecidableEq, Repr

def sourceName : List Char := ['s', 'r', 'c']

def namesSource (name : List Char) : Bool := sameName name sourceName

def scriptClass (block : Block) : ScriptClass :=
  if block.attributes.any fun candidate => namesSource candidate.name then .external else .inline

def scriptClassOfTag? (text : List Char) : Option ScriptClass :=
  ((blocks text).find? fun block => block.kind = .script).map scriptClass

inductive Role where
  | style
  | inlineScript
  | externalScript
  deriving DecidableEq, Repr

def role (block : Block) : Role :=
  match block.kind, scriptClass block with
  | .style, _ => .style
  | .script, .inline => .inlineScript
  | .script, .external => .externalScript

end PageAssets.Page
