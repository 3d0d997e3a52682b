import Tagweave.Markdown.Scan
import Tagweave.Markdown.Definition
import Tagweave.Markdown.Options

/-!
# Block structure

The reader takes a text line by line and keeps the containers that are open (block quotes,
lists, list items, footnote definitions, inside the document) and at most one open leaf
(paragraph, code block, HTML block or table) in the innermost of them. For every line:

1. each open container, outermost first, tries to continue: a quote needs its `>`, an item
   enough indentation (or a blank line when it has content), a footnote definition four
   columns (or a blank line);
2. the open leaf continues if every container did: a fenced code block until its closing
   fence, an indented one on indented or blank lines, an HTML block until its end
   condition, a paragraph or table on non-blank lines; a delimiter row under a paragraph
   line with a `|` and as many cells turns that line into the head of a table (the lines
   before it stay a paragraph);
3. the rest of the line may start new blocks: quotes, list items and footnote definitions
   nest (a footnote definition right inside another one closes it first, and after a task
   list marker no container starts), a heading, a fence, an HTML block, a setext underline,
   a thematic break or an indented code line end the search;
4. a line that starts nothing new, is not blank and meets an open paragraph whose containers
   did not all continue is a lazy continuation of that paragraph; otherwise the containers
   and leaf that did not continue are closed, the new blocks are opened, and the text goes
   to the innermost block.

Every block records whether its last line was blank; a list is loose when an item other than
the last ends with a blank line, or two blocks of an item are separated by one.

The reader produces `RawBlock`s: the inline content of paragraphs, headings and table cells
is still text, to be read once every link reference definition is known.
-/

namespace Tagweave

namespace Markdown

/-- What an open container is. -/
inductive ContainerKind where
  | document
  | quote
  | list (marker : ListMarker)
  /-- A list item with its marker, the column its content starts at, and its first line. -/
  | item (marker : ListMarker) (contentIndent : Nat) (startLine : Nat)
  | footnote (label : String)
  deriving Repr

/-- A closed block whose inline content is not read yet. -/
inductive RawBlock where
  | paragraph (text : List Char)
  | heading (level : Nat) (text : List Char)
  | rule
  | code (info : Option (List Char)) (text : List Char)
  | html (text : List Char)
  | table (aligns : List Alignment) (head : List (List Char)) (rows : List (List (List Char)))
  | taskMarker (checked : Bool)
  /-- A closed container with its children, each with whether its last line was blank. -/
  | container (kind : ContainerKind) (children : List (RawBlock × Bool))
  deriving Repr

/-- A leaf still taking lines; lines newest first. -/
inductive OpenLeaf where
  | paragraph (lines : List (List Char))
  | fenced (fence : Char) (length : Nat) (indent : Nat) (info : List Char) (lines : List (List Char))
  | indented (lines : List (List Char))
  | html (kind : Nat) (lines : List (List Char))
  | table (aligns : List Alignment) (head : List (List Char)) (rows : List (List (List Char)))

/-- An open container: its kind, its closed children (newest first) and whether its last
line was blank. -/
structure OpenContainer where
  kind : ContainerKind
  children : List (RawBlock × Bool)
  lastBlank : Bool

/-- The state of the block reader. -/
structure BlockReader where
  options : Options
  /-- The open containers, innermost first; the document is last. -/
  containers : List OpenContainer
  leaf : Option OpenLeaf
  leafBlank : Bool
  /-- Link reference definitions, in the order read. -/
  definitions : List (String × LinkTarget)
  /-- The number of the line being read. -/
  lineNo : Nat

namespace BlockReader

/-- Add definitions, keeping the first of each label. -/
def addDefinitions (r : BlockReader) (defs : List (String × LinkTarget)) : BlockReader :=
  { r with definitions := defs.foldl (fun acc (l, t) =>
      if acc.any (·.1 = l) then acc else acc ++ [(l, t)]) r.definitions }

/-- The text of lines kept newest first, joined by line breaks. -/
def joinLines (lines : List (List Char)) : List Char := ['\n'].intercalate lines.reverse

/-- Split a text at its line breaks. -/
def splitLines (cs : List Char) : List (List Char) := go cs [] []
where
  /-- Collect lines; `cur` is the line being read, reversed. -/
  go : List Char → List Char → List (List Char) → List (List Char)
    | [], cur, acc => (cur.reverse :: acc).reverse
    | '\n' :: rest, cur, acc => go rest [] (cur.reverse :: acc)
    | c :: rest, cur, acc => go rest (c :: cur) acc

/-- Close a leaf into a block, if anything is left of it. Paragraphs give up their link
reference definitions here. -/
def closeLeaf (r : BlockReader) (leaf : OpenLeaf) : BlockReader × Option RawBlock :=
  match leaf with
  | .paragraph lines =>
    let text := joinLines lines
    let (defs, left) := takeDefinitions text.length text
    let r := r.addDefinitions defs
    let left := trimEndBlanks left
    (r, if left.isEmpty then none else some (.paragraph left))
  | .fenced _ _ _ info lines => (r, some (.code (some info) lines.reverse.flatten))
  | .indented lines =>
    let kept := lines.dropWhile fun l => isBlankText (l.filter (· ≠ '\n'))
    (r, some (.code none kept.reverse.flatten))
  | .html _ lines => (r, some (.html lines.reverse.flatten))
  | .table aligns head rows => (r, some (.table aligns head rows.reverse))

/-- Add a closed child to the innermost open container. -/
def addChild (r : BlockReader) (b : RawBlock) (blank : Bool) : BlockReader :=
  match r.containers with
  | c :: cs => { r with containers := { c with children := (b, blank) :: c.children } :: cs }
  | [] => r

/-- Close the open leaf, if any. -/
def closeOpenLeaf (r : BlockReader) : BlockReader :=
  match r.leaf with
  | none => r
  | some leaf =>
    let blank := r.leafBlank
    let (r, b) := closeLeaf { r with leaf := none, leafBlank := false } leaf
    match b with
    | some b => r.addChild b blank
    | none => r

/-- Close the innermost open container (after its leaf) and add it to its parent. The
document is never closed this way. -/
def closeInnermost (r : BlockReader) : BlockReader :=
  let r := r.closeOpenLeaf
  match r.containers with
  | c :: parent :: rest =>
    let closed := RawBlock.container c.kind c.children.reverse
    { r with containers := { parent with children := (closed, c.lastBlank) :: parent.children } :: rest }
  | _ => r

/-- Close containers until `keep` are left open (and the leaf). -/
def closeTo (r : BlockReader) (keep : Nat) : BlockReader :=
  go (r.containers.length - keep) r
where
  /-- Close `n` containers. -/
  go : Nat → BlockReader → BlockReader
    | 0, r => r
    | n + 1, r => go n r.closeInnermost

/-- Open a container inside the innermost one. -/
def openContainer (r : BlockReader) (kind : ContainerKind) : BlockReader :=
  { r with containers := ⟨kind, [], false⟩ :: r.containers }

/-- Whether the open container at depth `i` (counted from the outermost, the document being
0) has content. -/
def hasContent (r : BlockReader) (i : Nat) : Bool :=
  let n := r.containers.length
  match r.containers[n - 1 - i]? with
  | none => false
  | some c => !c.children.isEmpty || i + 1 < n || r.leaf.isSome

/-- Try to continue the open containers on a line: the number that continue (the document
always does) and the rest of the line. -/
def continueContainers (r : BlockReader) (line : Line) : Nat × Line :=
  go (r.containers.reverse.drop 1) 1 line
where
  /-- Continue the containers from depth `i` on. -/
  go : List OpenContainer → Nat → Line → Nat × Line
    | [], i, l => (i, l)
    | c :: cs, i, l =>
      match c.kind with
      | .document | .list _ => go cs (i + 1) l
      | .quote =>
        if l.indent ≤ 3 && l.afterIndent.head? = some '>' then
          let l := (l.skipBlanks.dropChars 1)
          go cs (i + 1) (l.skipColumns (min 1 l.indent))
        else (i, l)
      | .item _ contentIndent _ =>
        if contentIndent ≤ l.indent then go cs (i + 1) (l.skipColumns contentIndent)
        else if l.isBlank && r.hasContent i then go cs (i + 1) l.skipBlanks
        else (i, l)
      | .footnote _ =>
        if 4 ≤ l.indent then go cs (i + 1) (l.skipColumns 4)
        else if l.isBlank then go cs (i + 1) l.skipBlanks
        else (i, l)

end BlockReader

/-- How a line opens a new block, after the new containers. -/
inductive Opening where
  | quote
  | item (marker : ListMarker) (contentIndent : Nat) (task : Option Bool)
  | footnote (label : String)
  deriving Repr

/-- The leaf that ends the search for new blocks on a line. -/
inductive LeafStart where
  /-- Nothing: the rest of the line is text. -/
  | none
  | heading (level : Nat) (text : List Char)
  | fence (c : Char) (length : Nat) (indent : Nat) (info : List Char)
  | html (kind : Nat)
  | setext (level : Nat)
  | rule
  | indentedCode
  deriving Repr

/-- A footnote definition start `[^label]:`: the label (trimmed, inner white space
collapsed) and the length. -/
def footnoteStart? (cs : List Char) : Option (String × Nat) :=
  match cs with
  | '[' :: '^' :: rest =>
    match linkLabel? ('[' :: rest) with
    | some (label, n) =>
      if (rest.drop (n - 1)).head? = some ':' then some (collapseLabel label, n + 2) else none
    | none => none
  | _ => none

/-- A task list marker `[ ]`, `[x]` or `[X]` followed by white space (a line break too, when
the line has one): whether it is checked and the rest after the `]`. -/
def taskMarker? (l : Line) (ending : Bool) : Option (Bool × Line) :=
  let l2 := l.skipColumns (min 3 l.indent)
  let spaced := fun (cs : List Char) => match cs with
    | d :: _ => isAsciiWhiteSpace d
    | [] => ending
  match l2.chars with
  | '[' :: c :: ']' :: after =>
    if !spaced after then none
    else if c = ' ' || c = '\t' || c = '\x0b' || c = '\x0c' then some (false, l2.dropChars 3)
    else if c = 'x' || c = 'X' then some (true, l2.dropChars 3)
    else none
  | _ => none

/-- Look for new blocks at the start of the rest of a line. `paragraphOpen` when the
innermost continuing block is a paragraph, `maybeLazy` when the open leaf is a paragraph.
Gives the containers to open, the leaf that ends the search and the rest of the line. -/
def scanOpenings (opts : Options) (paragraphOpen maybeLazy ending : Bool) :
    Nat → Line → Bool → Bool → List Opening × LeafStart × Line
  | 0, l, _, _ => ([], .none, l)
  | fuel + 1, l, first, containers =>
    let indent := l.indent
    let text := l.afterIndent
    let indented := 4 ≤ indent
    let lazy := first && maybeLazy
    let canInterrupt := first && paragraphOpen
    if containers && !indented && text.head? = some '>' then
      let l := l.skipBlanks.dropChars 1
      let l := l.skipColumns (min 1 l.indent)
      let (more, leaf, rest) := scanOpenings opts paragraphOpen maybeLazy ending fuel l false true
      (.quote :: more, leaf, rest)
    else if !indented && (atxHeading? text).isSome then
      match atxHeading? text with
      | some (level, content) => ([], .heading level content, ⟨[], l.col⟩)
      | none => ([], .none, l)
    else if !indented && (fenceStart? text).isSome then
      match fenceStart? text with
      | some (c, n, info) => ([], .fence c n indent info, ⟨[], l.col⟩)
      | none => ([], .none, l)
    else if !indented && (htmlBlockStart? text canInterrupt).isSome then
      match htmlBlockStart? text canInterrupt with
      | some kind => ([], .html kind, l)
      | none => ([], .none, l)
    else if !indented && canInterrupt && (setextLevel? text).isSome then
      match setextLevel? text with
      | some level => ([], .setext level, l)
      | none => ([], .none, l)
    else if !indented && isThematicBreak text then ([], .rule, ⟨[], l.col⟩)
    else if containers && !indented && opts.footnotes && (footnoteStart? text).isSome then
      match footnoteStart? text with
      | some (label, n) =>
        let l := l.skipBlanks.dropChars n
        let (more, leaf, rest) :=
          scanOpenings opts paragraphOpen maybeLazy ending fuel l.skipBlanks false true
        (.footnote label :: more, leaf, rest)
      | none => ([], .none, l)
    else if containers && !indented && (listMarker? text).isSome then
      match listMarker? text with
      | some (marker, width) =>
        let afterMarker := l.skipBlanks.dropChars width
        let blankItem := afterMarker.isBlank
        let startOk := match marker with
          | .ordered start _ => start = 1
          | .bullet _ => true
        if canInterrupt && (blankItem || !startOk) then ([], .none, l)
        else
          let spaces := afterMarker.indent
          let (padding, rest) :=
            if 5 ≤ spaces || spaces < 1 || blankItem then
              (width + 1, afterMarker.skipColumns (min 1 spaces))
            else (width + spaces, afterMarker.skipColumns spaces)
          let task := if opts.tasklists && !blankItem then taskMarker? rest ending else none
          match task with
          | some (checked, rest) =>
            let (_, leaf, rest) :=
              scanOpenings opts paragraphOpen maybeLazy ending fuel rest.skipBlanks false false
            ([.item marker (indent + padding) (some checked)], leaf, rest)
          | none =>
            let (more, leaf, rest) := scanOpenings opts paragraphOpen maybeLazy ending fuel rest false true
            (.item marker (indent + padding) none :: more, leaf, rest)
      | none => ([], .none, l)
    else if indented && !lazy && !l.isBlank then ([], .indentedCode, l.skipColumns 4)
    else ([], .none, l)

/-- Whether a line would interrupt a table: a thematic break, a heading, a fence, a quote,
any list item (an empty one, or one with any start number, too), an HTML block of the first
six kinds, or a footnote definition. -/
def interruptsTable (opts : Options) (cs : List Char) : Bool :=
  isThematicBreak cs || (atxHeading? cs).isSome || (fenceStart? cs).isSome ||
    cs.head? = some '>' || (htmlBlockStart? cs true).isSome || (listMarker? cs).isSome ||
    (opts.footnotes && (footnoteStart? cs).isSome)

/-- The cells of a table row, exactly `cols` of them: extra cells are dropped and missing
ones are empty. A `|` right after a backslash stays in its cell, without the backslash. -/
def splitRow (cs : List Char) (cols : Nat) : List (List Char) :=
  let cells := go cs.length cs []
  cells.take cols ++ List.replicate (cols - cells.length) []
where
  /-- Read the text of one cell up to an unescaped `|`. -/
  cell : List Char → List Char → List Char × List Char
    | [], acc => (acc.reverse, [])
    | '|' :: rest, acc => (acc.reverse, '|' :: rest)
    | '\\' :: '|' :: rest, acc => cell rest ('|' :: acc)
    | c :: rest, acc => cell rest (c :: acc)
  /-- Read cells, at most `fuel` of them. -/
  go : Nat → List Char → List (List Char) → List (List Char)
    | 0, _, acc => acc.reverse
    | fuel + 1, cs, acc =>
      let cs := match cs with
        | '|' :: rest => rest
        | _ => cs
      let cs := cs.dropWhile isLineBlank
      if cs.isEmpty then acc.reverse
      else
        let (text, rest) := cell cs []
        go fuel rest (trimEndBlanks text :: acc)

/-- Whether a paragraph line can head a table: it has a separating `|` and does not end with
an odd number of backslashes (a line break escaped into a hard break). -/
def isHeaderLine (cs : List Char) : Bool :=
  0 < (pipeCount cs).1 && (cs.reverse.takeWhile (· = '\\')).length % 2 = 0

namespace BlockReader

/-- Clear the blank flag of every open container. -/
def clearBlank (r : BlockReader) : BlockReader :=
  { r with containers := r.containers.map fun c => { c with lastBlank := false } }

/-- Record whether the line just read was blank, the innermost open container having taken
it: its newest child ends with a blank line if so, and the container itself too unless it is
a quote; an item opened on this line with nothing in it but a task list marker takes no
blank line at all. -/
def markBlank (r : BlockReader) (blank : Bool) : BlockReader :=
  match r.clearBlank.containers with
  | c :: cs =>
    let emptyFreshItem := match c.kind with
      | .item _ _ start =>
        start = r.lineNo && c.children.all fun
          | (.taskMarker _, _) => true
          | _ => false
      | _ => false
    let children := match blank && !emptyFreshItem, c.children with
      | true, (b, _) :: more => (b, true) :: more
      | _, children => children
    let flag := blank && !emptyFreshItem && match c.kind with
      | .quote => false
      | _ => true
    { r with containers := { c with children := children, lastBlank := flag } :: cs }
  | [] => r

/-- Record that the open leaf took the line. -/
def markLeaf (r : BlockReader) (blank : Bool) : BlockReader :=
  { r.clearBlank with leafBlank := blank }

/-- The text of a line for a code or HTML block: with its line break when it had one. -/
def lineText (l : Line) (ending : Bool) : List Char :=
  if ending then l.chars ++ ['\n'] else l.chars

/-- Open a container that is not a list item: a list cannot hold it, so an innermost list is
closed first. -/
def openNonItem (r : BlockReader) (kind : ContainerKind) : BlockReader :=
  let r := match r.containers with
    | ⟨.list _, _, _⟩ :: _ => r.closeInnermost
    | _ => r
  r.openContainer kind

/-- Open a list item, in the innermost list when its marker fits, in a new list otherwise. -/
def openItem (r : BlockReader) (marker : ListMarker) (contentIndent : Nat) (task : Option Bool) :
    BlockReader :=
  let (r, inList) := match r.containers with
    | ⟨.list m, _, _⟩ :: _ => if m.sameList marker then (r, true) else (r.closeInnermost, false)
    | _ => (r, false)
  let r := if inList then r else r.openContainer (.list marker)
  let r := r.openContainer (.item marker contentIndent r.lineNo)
  match task with
  | some checked => r.addChild (.taskMarker checked) false
  | none => r

/-- Open the new containers of a line. -/
def applyOpenings (r : BlockReader) : List Opening → BlockReader
  | [] => r
  | .quote :: more => (r.openNonItem .quote).applyOpenings more
  | .footnote label :: more =>
    let r := match r.containers with
      | ⟨.footnote _, _, _⟩ :: _ => r.closeInnermost
      | _ => r
    (r.openNonItem (.footnote label)).applyOpenings more
  | .item marker ci task :: more => (r.openItem marker ci task).applyOpenings more

/-- Put a leaf into the innermost container: a list cannot hold it, so an innermost list is
closed first. -/
def prepareLeaf (r : BlockReader) : BlockReader :=
  match r.containers with
  | ⟨.list _, _, _⟩ :: _ => r.closeInnermost
  | _ => r

/-- Read one line (without its line break; `ending` when it had one). -/
def readLine (r : BlockReader) (raw : List Char) (ending : Bool) : BlockReader :=
  let r := { r with lineNo := r.lineNo + 1 }
  let (matched, rest) := r.continueContainers ⟨raw, 0⟩
  let allMatched := matched = r.containers.length
  let blank := rest.isBlank
  -- the open leaf, when every container continued
  let leafStep : Option BlockReader × Bool :=
    if !allMatched then (none, false)
    else match r.leaf with
      | some (.fenced c n indent info lines) =>
        if rest.indent ≤ 3 && isClosingFence c n rest.afterIndent then (some r.closeOpenLeaf, false)
        else
          let content := rest.skipColumns (min indent rest.indent)
          (some ({ r with leaf := some (.fenced c n indent info (lineText content ending :: lines)) }.markLeaf
            false), false)
      | some (.indented lines) =>
        if 4 ≤ rest.indent then
          (some ({ r with leaf := some (.indented (lineText (rest.skipColumns 4) ending :: lines)) }.markLeaf
            blank), false)
        else if blank then
          (some ({ r with leaf := some (.indented (lineText rest.skipBlanks ending :: lines)) }.markLeaf
            true), false)
        else (none, false)
      | some (.html kind lines) =>
        if (kind = 6 || kind = 7) && blank then (none, false)
        else
          let r := { r with leaf := some (.html kind (lineText rest ending :: lines)) }.markLeaf blank
          (some (if kind ≤ 5 && htmlBlockEnds kind rest.chars then r.closeOpenLeaf else r), false)
      | some (.table aligns head rows) =>
        if blank || interruptsTable r.options rest.afterIndent then (none, false)
        else
          (some ({ r with leaf := some (.table aligns head (splitRow rest.afterIndent aligns.length :: rows)) }.markLeaf
            false), false)
      | some (.paragraph (last :: earlier)) =>
        if blank then (none, false)
        else
          let table := if r.options.tables && isHeaderLine last && rest.indent ≤ 3 then
              match delimiterRow? rest.afterIndent with
              | some aligns => if aligns.length = headerCount last then some aligns else none
              | none => none
            else none
          match table with
          | some aligns =>
            let r := if earlier.isEmpty then { r with leaf := none }
              else { r with leaf := some (.paragraph earlier) }.closeOpenLeaf
            (some ({ r with leaf := some (.table aligns (splitRow last aligns.length) []) }.markLeaf false), false)
          | none => (none, true)
      | some (.paragraph []) => (none, !blank)
      | none => (none, false)
  match leafStep with
  | (some r, _) => r
  | (none, paragraphMatched) =>
    let maybeLazy := match r.leaf with
      | some (.paragraph _) => true
      | _ => false
    let (openings, start, rest) :=
      scanOpenings r.options paragraphMatched maybeLazy ending (raw.length + 1) rest true true
    let nothingNew := openings.isEmpty && match start with
      | .none => true
      | _ => false
    if nothingNew && !rest.isBlank && maybeLazy && !paragraphMatched then
      -- a lazy continuation line
      match r.leaf with
      | some (.paragraph lines) =>
        let r := { r with leaf := some (.paragraph (rest.afterIndent :: lines)) }
        let keep := r.containers.length - matched
        { r with containers := (r.containers.drop keep |>.map fun c => { c with lastBlank := false }) |>
            (r.containers.take keep ++ ·) }
      | _ => r
    else
      -- close what did not continue
      let keepLeaf := paragraphMatched && match start with
        | .none | .setext _ => openings.isEmpty
        | _ => false
      let r := if keepLeaf then r else r.closeOpenLeaf
      let r := r.closeTo matched
      let r := match start with
        | .setext _ => r
        | _ => r.applyOpenings openings
      match start with
      | .heading level text =>
        (r.prepareLeaf.addChild (.heading level text) false).markBlank false |>.clearBlank
      | .rule => (r.prepareLeaf.addChild .rule false).clearBlank
      | .fence c n indent info =>
        let info := trimEndBlanks (info.dropWhile isLineBlank)
        { r.prepareLeaf with leaf := some (.fenced c n indent (unescape info) []) }.markLeaf false
      | .html kind =>
        let r := { r.prepareLeaf with leaf := some (.html kind [lineText rest ending]) }.markLeaf false
        if kind ≤ 5 && htmlBlockEnds kind rest.chars then r.closeOpenLeaf else r
      | .indentedCode =>
        { r.prepareLeaf with leaf := some (.indented [lineText rest ending]) }.markLeaf false
      | .setext level =>
        match r.leaf with
        | some (.paragraph lines) =>
          let text := joinLines lines
          let (defs, left) := takeDefinitions text.length text
          let r := r.addDefinitions defs
          let left := trimEndBlanks left
          if left.isEmpty then
            { r with leaf := some (.paragraph [rest.afterIndent]) }.markLeaf false
          else ({ r with leaf := none }.addChild (.heading level left) false).clearBlank
        | _ => r
      | .none =>
        if rest.isBlank then r.markBlank true
        else match r.leaf with
          | some (.paragraph lines) =>
            { r with leaf := some (.paragraph (rest.afterIndent :: lines)) }.markLeaf false
          | _ => { r.prepareLeaf with leaf := some (.paragraph [rest.afterIndent]) }.markLeaf false

/-- Close everything at the end of the text. -/
def finish (r : BlockReader) : BlockReader × List (RawBlock × Bool) :=
  let r := (r.closeTo 1).closeOpenLeaf
  match r.containers with
  | [doc] => (r, doc.children.reverse)
  | _ => (r, [])

end BlockReader

/-- The lines of a text, each with whether a line break ended it. -/
def textLines (cs : List Char) : List (List Char × Bool) :=
  go cs [] []
where
  /-- Collect lines; `cur` is the line being read, reversed. -/
  go : List Char → List Char → List (List Char × Bool) → List (List Char × Bool)
    | [], cur, acc => (if cur.isEmpty then acc else (cur.reverse, false) :: acc).reverse
    | '\r' :: '\n' :: rest, cur, acc => go rest [] ((cur.reverse, true) :: acc)
    | '\n' :: rest, cur, acc => go rest [] ((cur.reverse, true) :: acc)
    | '\r' :: rest, cur, acc => go rest [] ((cur.reverse, true) :: acc)
    | c :: rest, cur, acc => go rest (c :: cur) acc

/-- Read the block structure of a text: the blocks and the link reference definitions. -/
def readBlocks (opts : Options) (text : String) : List (RawBlock × Bool) × List (String × LinkTarget) :=
  let start : BlockReader := ⟨opts, [⟨.document, [], false⟩], none, false, [], 0⟩
  let r := (textLines text.toList).foldl (fun r (line, ending) => r.readLine line ending) start
  let (r, blocks) := r.finish
  (blocks, r.definitions)

end Markdown

end Tagweave
