import PageAssets.Markup.Tag

/-! Style and script blocks: an opening tag, a body and the nearest closing tag of the same name.
Main statement: what a reader leaves is an ending of what it was given. -/

namespace PageAssets.Markup

inductive BlockKind where
  | style
  | script
  deriving DecidableEq, Repr

namespace BlockKind

def all : List BlockKind := [.style, .script]

def tagName : BlockKind → List Char
  | .style => ['s', 't', 'y', 'l', 'e']
  | .script => ['s', 'c', 'r', 'i', 'p', 't']

end BlockKind

structure Block where
  kind : BlockKind
  opening : List Char
  attributes : List Attribute
  inner : List Char
  closing : List Char
  deriving DecidableEq, Repr

namespace Block

def outer (block : Block) : List Char := block.opening ++ block.inner ++ block.closing

/-- The first attribute of a name, in any case of its letters. -/
def attribute? (block : Block) (name : List Char) : Option Attribute :=
  block.attributes.find? fun candidate => sameName candidate.name name

end Block

/-- The text behind the name of a tag of this kind. The name has to end there. -/
def afterName? (kind : BlockKind) (text : List Char) : Option (List Char) :=
  (afterWord? kind.tagName text).filter fun rest =>
    match rest with
    | [] => false
    | c :: _ => isSpace c || c = '>' || c = '/'

/-- The kind of block that starts here, behind the opening angle, and the text behind its name. -/
def openingName? (text : List Char) : Option (BlockKind × List Char) :=
  BlockKind.all.findSome? fun kind => (afterName? kind text).map fun rest => (kind, rest)

def openingTag? (text : List Char) : Option (BlockKind × List Attribute × List Char) :=
  (openingName? text).bind fun (kind, rest) =>
    (readTag? rest).map fun (attributes, body) => (kind, attributes, body)

/-- The text behind a closing tag of this kind. Only space may follow its name. -/
def afterClosingTag? (kind : BlockKind) (text : List Char) : Option (List Char) :=
  (List.isPrefixOf? ['<', '/'] text).bind fun name =>
    (afterWord? kind.tagName name).bind fun rest =>
      List.isPrefixOf? ['>'] (rest.dropWhile isSpace)

/-- The text before the nearest closing tag of a kind, and the text behind that tag. -/
def cutAtClosingTag? (kind : BlockKind) (text : List Char) : Option (List Char × List Char) :=
  Text.cutAtFirst? (afterClosingTag? kind) text

theorem openingTag?_suffix {text rest : List Char} {kind : BlockKind} {attributes : List Attribute}
    (found : openingTag? text = some (kind, attributes, rest)) : rest <:+ text := by
  obtain ⟨⟨first, behind⟩, named, tagged⟩ := Option.bind_eq_some_iff.1 found
  obtain ⟨⟨_, body⟩, read, same⟩ := Option.map_eq_some_iff.1 tagged
  cases same
  obtain ⟨_, _, matched⟩ := List.exists_of_findSome?_eq_some named
  obtain ⟨_, word, same⟩ := Option.map_eq_some_iff.1 matched
  cases same
  exact (readTag?_suffix read).trans (afterWord?_suffix (Option.eq_some_of_filter_eq_some word))

theorem afterClosingTag?_suffix {kind : BlockKind} {text rest : List Char}
    (found : afterClosingTag? kind text = some rest) : rest <:+ text := by
  obtain ⟨name, marked, closed⟩ := Option.bind_eq_some_iff.1 found
  obtain ⟨space, word, angle⟩ := Option.bind_eq_some_iff.1 closed
  exact ((Text.isPrefixOf?_suffix angle).trans (List.dropWhile_suffix _)).trans
    ((afterWord?_suffix word).trans (Text.isPrefixOf?_suffix marked))

end PageAssets.Markup
