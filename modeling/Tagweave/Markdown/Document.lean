import Tagweave.Markdown.Blocks
import Tagweave.Markdown.Inlines

/-!
# Reading a markdown document

`Markdown.parse` reads the block structure first, collecting every link reference
definition and footnote definition, and then the inline content of every paragraph, heading
and table cell, so that references may come before their definitions.

A list is tight unless an item other than the last ends with a blank line, or some block of
an item other than the very last ends with one (looking into the last item of nested lists).
-/

namespace Tagweave

namespace Markdown

mutual
/-- Whether a block ends with a blank line: its own last line, or for lists and items, that of
their last child. -/
def endsWithBlank : RawBlock → Bool → Bool
  | .container (.list _) children, b => b || lastEndsWithBlank children
  | .container (.item _ _ _) children, b => b || lastEndsWithBlank children
  | _, b => b

/-- Whether the last of some blocks ends with a blank line. -/
def lastEndsWithBlank : List (RawBlock × Bool) → Bool
  | [] => false
  | [(c, b)] => endsWithBlank c b
  | _ :: rest => lastEndsWithBlank rest
end

/-- The children of a list item. -/
def itemChildren : RawBlock → List (RawBlock × Bool)
  | .container _ children => children
  | _ => []

/-- Whether a list with these items is tight. -/
def isTight (items : List (RawBlock × Bool)) : Bool :=
  let n := items.length
  (items.zipIdx).all fun ((item, blank), i) =>
    let last := i + 1 = n
    let children := itemChildren item
    let m := children.length
    !(blank && !last) &&
      (children.zipIdx).all fun ((c, b), j) => !((!last || j + 1 < m) && endsWithBlank c b)

mutual
/-- The footnote labels defined in a block, case folded. -/
def footnoteLabels : RawBlock → List String
  | .container (.footnote label) children => Unicode.caseFold label :: footnoteLabelsIn children
  | .container _ children => footnoteLabelsIn children
  | _ => []

/-- The footnote labels defined in some blocks. -/
def footnoteLabelsIn : List (RawBlock × Bool) → List String
  | [] => []
  | (b, _) :: rest => footnoteLabels b ++ footnoteLabelsIn rest
end

mutual
/-- A block with its inline content read. -/
def RawBlock.toBlock (ctx : InlineContext) : RawBlock → Block
  | .paragraph text => .paragraph (parseInlines ctx text)
  | .heading level text => .heading level (parseInlines ctx text)
  | .rule => .rule
  | .code info text => .code (info.map String.ofList) (String.ofList text)
  | .html text => .html (String.ofList text)
  | .table aligns head rows => .table aligns (head.map (parseInlines ctx)) (rows.map (·.map (parseInlines ctx)))
  | .taskMarker checked => .taskMarker checked
  | .container (.list marker) items =>
    let start := match marker with
      | .ordered n _ => some n
      | .bullet _ => none
    .list start (isTight items) (itemsToBlocks ctx items)
  | .container (.footnote label) children => .footnote label (toBlocks ctx children)
  | .container _ children => .quote (toBlocks ctx children)

/-- Blocks with their inline content read. -/
def toBlocks (ctx : InlineContext) : List (RawBlock × Bool) → List Block
  | [] => []
  | (b, _) :: rest => b.toBlock ctx :: toBlocks ctx rest

/-- The items of a list with their inline content read. -/
def itemsToBlocks (ctx : InlineContext) : List (RawBlock × Bool) → List (List Block)
  | [] => []
  | (.container _ children, _) :: rest => toBlocks ctx children :: itemsToBlocks ctx rest
  | _ :: rest => itemsToBlocks ctx rest
end

/-- Read a markdown document. -/
def parse (opts : Options) (text : String) : List Block :=
  let (raw, definitions) := readBlocks opts text
  let ctx : InlineContext := ⟨opts, definitions, footnoteLabelsIn raw⟩
  toBlocks ctx raw

end Markdown

end Tagweave
