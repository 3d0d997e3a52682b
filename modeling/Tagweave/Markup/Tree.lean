import Tagweave.Markup.Node
import Tagweave.Markup.Token
import Tagweave.Markup.AttributeText

/-!
# Reading a document

`Document.parse` turns text into a forest of nodes. The text is cut at its literal `<`s
(`Angle.pieces`); each piece is tokenized on its own (`TokenStream.read`), a literal `<`
goes in between as text, and the tokens build the tree (`TreeBuilder`):

* text, entity references (written back as `&name;`) and CDATA content are text, and text
  next to text merges into one node; empty text adds nothing;
* comments, declarations, processing instructions and doctypes add nothing;
* a start tag opens an element, unless its name is a void element name (`br`, `img`, …, any
  ASCII case), which is a childless element like an empty tag `<x/>`;
* a closing tag closes the innermost open element of the same name (ASCII case
  ignored) with everything opened inside it; a closing tag with no such element is ignored
  for a void name and is the error `unexpectedEndTag` otherwise;
* elements still open at the end are closed.

The name of a tag is its content up to the first white space; the rest, without leading
white space, is its attribute text (`Attributes.read`).
-/

namespace Tagweave

/-- Element names that never take children. -/
def voidElementNames : List String :=
  ["area", "base", "basefont", "br", "col", "embed", "frame", "hr", "img", "input", "isindex",
   "link", "meta", "param", "source", "track", "wbr"]

/-- Equality up to ASCII case. -/
def equalsIgnoringAsciiCase (a b : String) : Bool :=
  a.toList.map Char.toLower == b.toList.map Char.toLower

/-- Whether a name is a void element name, in any ASCII case. -/
def isVoidElement (name : String) : Bool :=
  voidElementNames.any (equalsIgnoringAsciiCase · name)

/-- An element whose closing tag has not been read yet; children newest first. -/
structure OpenElement where
  name : String
  attrs : Attributes
  revChildren : List Node

/-- The node an open element becomes when it is closed. -/
def OpenElement.toNode (e : OpenElement) : Node := .element e.name e.attrs e.revChildren.reverse

/-- A tree under construction: the top-level nodes read so far (newest first) and the open
elements (innermost first). -/
structure TreeBuilder where
  revRoot : List Node
  stack : List OpenElement

namespace TreeBuilder

/-- Nothing read yet. -/
def empty : TreeBuilder := ⟨[], []⟩

/-- Add a node to the innermost open element, or to the top level. -/
def addNode (b : TreeBuilder) (n : Node) : TreeBuilder :=
  match b.stack with
  | [] => { b with revRoot := n :: b.revRoot }
  | e :: es => { b with stack := { e with revChildren := n :: e.revChildren } :: es }

/-- Append text to the last child when that is text, else add a text node. -/
def mergeText (s : String) : List Node → List Node
  | .text d :: rest => .text (d ++ s) :: rest
  | nodes => .text s :: nodes

/-- Add text, merging it with a text node just before it. Empty text adds nothing. -/
def addText (b : TreeBuilder) (s : String) : TreeBuilder :=
  if s.isEmpty then b
  else match b.stack with
    | [] => { b with revRoot := mergeText s b.revRoot }
    | e :: es => { b with stack := { e with revChildren := mergeText s e.revChildren } :: es }

/-- Add a childless element. -/
def addLeaf (b : TreeBuilder) (name : String) (attrs : Attributes) : TreeBuilder :=
  b.addNode (.element name attrs [])

/-- Open an element. -/
def openElement (b : TreeBuilder) (name : String) (attrs : Attributes) : TreeBuilder :=
  { b with stack := ⟨name, attrs, []⟩ :: b.stack }

/-- Close the innermost open element. -/
def pop (b : TreeBuilder) : TreeBuilder :=
  match b.stack with
  | [] => b
  | e :: es => ({ b with stack := es } : TreeBuilder).addNode e.toNode

/-- Close the innermost `n` open elements. -/
def popN : Nat → TreeBuilder → TreeBuilder
  | 0, b => b
  | n + 1, b => popN n b.pop

/-- Close the innermost open element named `name` (ASCII case ignored) and everything inside
it; none when no open element has that name. -/
def close? (b : TreeBuilder) (name : String) : Option TreeBuilder :=
  (b.stack.findIdx? (fun e => equalsIgnoringAsciiCase e.name name)).map fun i => popN (i + 1) b

/-- Close every open element and give the forest. -/
def finish (b : TreeBuilder) : List Node := (popN b.stack.length b).revRoot.reverse

end TreeBuilder

/-- A tag's name (its content up to the first white space) and its attributes (the rest,
without leading white space). -/
def splitTag (content : String) : String × Attributes :=
  let cs := content.toList
  let name := cs.takeWhile (fun c => !Unicode.isWhiteSpace c)
  let raw := (cs.drop name.length).dropWhile Unicode.isWhiteSpace
  (String.ofList name, if raw.isEmpty then .empty else Attributes.read (String.ofList raw))

/-- Feed one token to the builder. `position` is the absolute offset just past the token; a
closing tag that closes nothing and is not void is an error there. -/
def TreeBuilder.feed (b : TreeBuilder) (token : Token) (position : Nat) :
    Except ParseError TreeBuilder :=
  match token with
  | .text s => .ok (b.addText s)
  | .cdata s => .ok (b.addText s)
  | .ref name => .ok (b.addText ("&" ++ name ++ ";"))
  | .start content =>
    let (name, attrs) := splitTag content
    .ok (if isVoidElement name then b.addLeaf name attrs else b.openElement name attrs)
  | .empty content =>
    let (name, attrs) := splitTag content
    .ok (b.addLeaf name attrs)
  | .close name =>
    match b.close? name with
    | some b => .ok b
    | none => if isVoidElement name then .ok b else .error (.unexpectedEndTag name position)
  | .comment _ | .declaration _ | .instruction _ | .doctype _ => .ok b

/-- Feed the tokens of one piece at byte offset `base`, then its fault if it has one. -/
def TreeBuilder.feedPiece (b : TreeBuilder) (base : Nat) (stream : TokenStream) :
    Except ParseError TreeBuilder := do
  let b ← stream.tokens.foldlM (fun b (t, pos) => b.feed t (base + pos)) b
  match stream.fault with
  | some (fault, pos) => .error (.malformed (base + pos) fault)
  | none => .ok b

/-- Read a document into its forest of nodes. -/
def Document.parse (input : String) : Except ParseError (List Node) := do
  match Angle.pieces input with
  | [] => .ok []
  | (base, cs) :: rest =>
    let b ← TreeBuilder.empty.feedPiece base (TokenStream.read cs)
    let b ← rest.foldlM (fun b (base, cs) => (b.addText "<").feedPiece base (TokenStream.read cs)) b
    .ok b.finish

end Tagweave
