import Tagweave.Markup.Attribute

/-!
# Document nodes

A document is a forest of nodes. An element has a name, attributes and children in order; a
text node holds raw text. Text is never unescaped: entity references and markup characters
that were not markup stay as written.
-/

namespace Tagweave

/-- A node of a document. -/
inductive Node where
  /-- A tag with its attributes and children. -/
  | element (name : String) (attrs : Attributes) (children : List Node)
  /-- Raw text. -/
  | text (data : String)
  deriving Inhabited

namespace Node

/-- The name of an element, none for text. -/
def name? : Node → Option String
  | .element name _ _ => some name
  | .text _ => none

/-- The children of an element, none for text. -/
def children : Node → List Node
  | .element _ _ cs => cs
  | .text _ => []

/-- Whether a text node. -/
def isText : Node → Bool
  | .text _ => true
  | .element .. => false

end Node

end Tagweave
