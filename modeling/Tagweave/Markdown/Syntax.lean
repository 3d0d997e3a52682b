/-!
# The markdown document

A markdown document is a list of blocks; paragraphs, headings and table cells hold inline
content. This is the tree the reader builds and the HTML writer walks.

* Tight lists: in a tight list the paragraphs directly inside an item are written without
  their `<p>` tags. The list carries the flag.
* A task list item starts with a `taskMarker` block, written as a disabled checkbox.
* Links keep their destination and title as read, with escapes and character references
  already resolved; the writer escapes them for HTML.
-/

namespace Tagweave

namespace Markdown

/-- The alignment of a table column. -/
inductive Alignment where
  | none
  | left
  | center
  | right
  deriving DecidableEq, Repr

/-- Inline content. -/
inductive Inline where
  /-- Plain text. -/
  | text (s : String)
  /-- A code span, by its content. -/
  | code (s : String)
  /-- Raw inline HTML, written as it is. -/
  | html (s : String)
  /-- A line break inside a paragraph that is not a hard break. -/
  | softBreak
  /-- A hard line break. -/
  | hardBreak
  /-- Emphasis. -/
  | emphasis (children : List Inline)
  /-- Strong emphasis. -/
  | strong (children : List Inline)
  /-- Struck-out text. -/
  | strikethrough (children : List Inline)
  /-- A link. -/
  | link (dest title : String) (children : List Inline)
  /-- An image; its children are its description. -/
  | image (dest title : String) (children : List Inline)
  /-- A reference to a footnote, by its label. -/
  | footnoteRef (label : String)
  deriving Repr

/-- Block content. -/
inductive Block where
  /-- A paragraph. -/
  | paragraph (content : List Inline)
  /-- A heading of level one to six. -/
  | heading (level : Nat) (content : List Inline)
  /-- A thematic break. -/
  | rule
  /-- A code block with its info string (fenced blocks) and its text. -/
  | code (info : Option String) (text : String)
  /-- An HTML block, written as it is. -/
  | html (text : String)
  /-- A block quote. -/
  | quote (children : List Block)
  /-- A list: its start number when ordered, whether it is tight, and its items. -/
  | list (start : Option Nat) (tight : Bool) (items : List (List Block))
  /-- The checkbox of a task list item. -/
  | taskMarker (checked : Bool)
  /-- A table: column alignments, the header cells and the body rows. -/
  | table (aligns : List Alignment) (head : List (List Inline)) (rows : List (List (List Inline)))
  /-- A footnote definition. -/
  | footnote (label : String) (children : List Block)
  deriving Repr

end Markdown

end Tagweave
