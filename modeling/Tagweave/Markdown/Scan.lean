import Tagweave.Markdown.HtmlSyntax
import Tagweave.Markdown.Syntax

/-!
# Reading the start of a line

A line is read from left to right while block structure is recognised: container markers
are consumed, then the rest is tested for the start of a leaf block. `Line` keeps the rest
of a line with the column it starts at, so that tabs count to the next multiple of four; a
tab consumed only in part leaves its remaining columns as spaces.

The tests here look at the text after the indentation:

* a thematic break is three or more of one of `*`, `-`, `_`, with spaces and tabs between;
* an ATX heading is one to six `#` followed by a blank or the end of the line;
* a code fence is three or more backquotes or tildes (an info string after backquotes has
  none), and a closing fence is at least as long as the opening one with only blanks after;
* a setext underline is a run of `=` or of `-` with only blanks after;
* a list marker is `-`, `+` or `*`, or one to nine digits and `.` or `)`, followed by a blank
  or the end of the line;
* an HTML block starts with one of the seven kinds of opening of CommonMark;
* a table delimiter row is cells of `-` with optional `:` at either end, separated by `|`.
-/

namespace Tagweave

namespace Markdown

/-- The rest of a line and the column it starts at. -/
structure Line where
  chars : List Char
  col : Nat

namespace Line

/-- The width in columns of the spaces and tabs at the start. -/
def indent (l : Line) : Nat :=
  go l.chars l.col 0
where
  /-- Count whitespace columns from column `col`. -/
  go : List Char → Nat → Nat → Nat
    | ' ' :: r, col, w => go r (col + 1) (w + 1)
    | '\t' :: r, col, w => go r (col + (4 - col % 4)) (w + (4 - col % 4))
    | _, _, w => w

/-- Consume `n` columns of leading whitespace, or all of it when there is less. -/
def skipColumns (l : Line) : Nat → Line
  | 0 => l
  | n + 1 =>
    match l.chars with
    | ' ' :: r => skipColumns ⟨r, l.col + 1⟩ n
    | '\t' :: r =>
      let t := 4 - l.col % 4
      if t ≤ n + 1 then skipColumns ⟨r, l.col + t⟩ (n + 1 - t)
      else ⟨List.replicate (t - (n + 1)) ' ' ++ r, l.col + n + 1⟩
    | _ => l
termination_by n => n
decreasing_by all_goals omega

/-- Consume all leading spaces and tabs. -/
def skipBlanks (l : Line) : Line := l.skipColumns l.indent

/-- The characters after the leading spaces and tabs. -/
def afterIndent (l : Line) : List Char := l.chars.dropWhile isSpaceOrTab

/-- Drop `n` characters that are not tabs (markers). -/
def dropChars (l : Line) (n : Nat) : Line := ⟨l.chars.drop n, l.col + n⟩

/-- Whether nothing but line blanks is left. -/
def isBlank (l : Line) : Bool := l.chars.all isLineBlank

end Line

/-- Whether the text is only line blanks. -/
def isBlankText (cs : List Char) : Bool := cs.all isLineBlank

/-- Whether the text is a thematic break. -/
def isThematicBreak (cs : List Char) : Bool :=
  match cs with
  | c :: _ =>
    (c = '*' || c = '-' || c = '_') &&
      cs.all (fun d => d = c || isLineBlank d) && 3 ≤ cs.countP (· = c)
  | [] => false

/-- Remove trailing line blanks. -/
def trimEndBlanks (cs : List Char) : List Char := (cs.reverse.dropWhile isLineBlank).reverse

/-- An ATX heading: its level and its raw content. -/
def atxHeading? (cs : List Char) : Option (Nat × List Char) :=
  let level := (cs.takeWhile (· = '#')).length
  let rest := cs.drop level
  if level = 0 || 6 < level then none
  else match rest with
    | c :: _ => if isLineBlank c then some (level, content rest) else none
    | [] => some (level, [])
where
  /-- The content without surrounding blanks and without a closing run of `#`. -/
  content (rest : List Char) : List Char :=
    let body := trimEndBlanks (rest.dropWhile isLineBlank)
    let rev := body.reverse
    let hashes := (rev.takeWhile (· = '#')).length
    let before := rev.drop hashes
    if hashes = 0 then body
    else match before with
      | [] => []
      | c :: _ => if isLineBlank c then trimEndBlanks before.reverse else body

/-- An opening code fence: its character, its length and the raw info string. -/
def fenceStart? (cs : List Char) : Option (Char × Nat × List Char) :=
  match cs with
  | c :: _ =>
    if c = '`' || c = '~' then
      let n := (cs.takeWhile (· = c)).length
      let info := cs.drop n
      if n < 3 then none
      else if c = '`' && info.contains '`' then none
      else some (c, n, info)
    else none
  | [] => none

/-- Whether the text (after at most three columns of indent) closes a fence of `c` of
length `n`. -/
def isClosingFence (c : Char) (n : Nat) (cs : List Char) : Bool :=
  let k := (cs.takeWhile (· = c)).length
  n ≤ k && isBlankText (cs.drop k)

/-- A setext underline: the heading level it makes. -/
def setextLevel? (cs : List Char) : Option Nat :=
  match cs with
  | c :: _ =>
    if c = '=' || c = '-' then
      let k := (cs.takeWhile (· = c)).length
      if isBlankText (cs.drop k) then some (if c = '=' then 1 else 2) else none
    else none
  | [] => none

/-- How a list item is marked. -/
inductive ListMarker where
  /-- A bullet `-`, `+` or `*`. -/
  | bullet (c : Char)
  /-- A number and its delimiter `.` or `)`. -/
  | ordered (start : Nat) (delim : Char)
  deriving DecidableEq, Repr

/-- Whether two markers belong to the same list. -/
def ListMarker.sameList : ListMarker → ListMarker → Bool
  | .bullet c, .bullet d => c = d
  | .ordered _ c, .ordered _ d => c = d
  | _, _ => false

/-- A list marker at the start and its width in characters. -/
def listMarker? (cs : List Char) : Option (ListMarker × Nat) :=
  let followed := fun (n : Nat) => match cs.drop n with
    | [] => true
    | c :: _ => c = ' ' || c = '\t'
  match cs with
  | c :: _ =>
    if c = '-' || c = '+' || c = '*' then
      if followed 1 then some (.bullet c, 1) else none
    else
      let digits := cs.takeWhile isDigit
      let n := digits.length
      if n = 0 || 9 < n then none
      else match cs.drop n with
        | d :: _ =>
          if (d = '.' || d = ')') && followed (n + 1) then
            some (.ordered (digits.foldl (fun acc c => acc * 10 + (c.toNat - '0'.toNat)) 0) d, n + 1)
          else none
        | [] => none
  | [] => none

/-- The block-level tag names of HTML blocks of the sixth kind. -/
def blockTagNames : List String :=
  ["address", "article", "aside", "base", "basefont", "blockquote", "body", "caption", "center",
   "col", "colgroup", "dd", "details", "dialog", "dir", "div", "dl", "dt", "fieldset",
   "figcaption", "figure", "footer", "form", "frame", "frameset", "h1", "h2", "h3", "h4", "h5",
   "h6", "head", "header", "hr", "html", "iframe", "legend", "li", "link", "main", "menu",
   "menuitem", "nav", "noframes", "ol", "optgroup", "option", "p", "param", "search", "section",
   "summary", "table", "tbody", "td", "tfoot", "th", "thead", "title", "tr", "track", "ul"]

/-- The tag names of HTML blocks of the first kind. -/
def rawTagNames : List String := ["pre", "script", "style", "textarea"]

/-- Whether `cs` starts with `word` in any ASCII case. -/
def startsWithUncased (word : String) (cs : List Char) : Bool :=
  let w := word.toList
  w.length ≤ cs.length && (cs.take w.length).map asciiLower == w.map asciiLower

/-- The kind (one to seven) of HTML block that `cs` opens. The seventh kind cannot
interrupt a paragraph. -/
def htmlBlockStart? (cs : List Char) (interrupting : Bool) : Option Nat :=
  match cs with
  | '<' :: rest =>
    let nameEnds := fun (k : Nat) (slashOk : Bool) => match rest.drop k with
      | [] => true
      | c :: more => c = ' ' || c = '\t' || c = '>' || (slashOk && c = '/' && more.head? = some '>')
    if rawTagNames.any (fun t => startsWithUncased t rest && nameEnds t.length false) then some 1
    else if "!--".toList.isPrefixOf rest then some 2
    else if rest.head? = some '?' then some 3
    else if "![CDATA[".toList.isPrefixOf rest then some 5
    else if rest.head? = some '!' && (rest.drop 1).head?.any isAsciiLetter then some 4
    else
      let nameAt := match rest with
        | '/' :: _ => 1
        | _ => 0
      let name := (rest.drop nameAt).takeWhile isAsciiAlphanumeric
      if blockTagNames.any (fun t => t.length = name.length && startsWithUncased t name) &&
          nameEnds (nameAt + name.length) true then some 6
      else if interrupting then none
      else
        let tag := (HtmlSyntax.openTagLength cs).orElse fun _ => HtmlSyntax.closingTagLength cs
        match tag with
        | some n =>
          let tagName := ((rest.drop nameAt).takeWhile fun c => isAsciiAlphanumeric c || c = '-').map asciiLower
          if rawTagNames.any (fun t => t.toList = tagName) then none
          else if isBlankText (cs.drop n) then some 7 else none
        | none => none
  | _ => none

/-- Whether a line ends an HTML block of kind one to five. -/
def htmlBlockEnds (kind : Nat) (cs : List Char) : Bool :=
  let lower := cs.map asciiLower
  let has := fun (s : String) => (HtmlSyntax.findPattern s.toList lower).isSome
  match kind with
  | 1 => has "</script>" || has "</pre>" || has "</style>" || has "</textarea>"
  | 2 => has "-->"
  | 3 => has "?>"
  | 4 => has ">"
  | 5 => has "]]>"
  | _ => false

/-- A table delimiter row: the alignment of each column. -/
def delimiterRow? (cs : List Char) : Option (List Alignment) :=
  let (cs, pipe) := match cs with
    | '|' :: r => (r, true)
    | r => (r, false)
  go cs true .none false pipe false []
where
  /-- Read cells; `start` while no `:` or `-` of the cell has been read. -/
  go : List Char → Bool → Alignment → Bool → Bool → Bool → List Alignment → Option (List Alignment)
    | [], start, active, _, pipe, hyphen, cols =>
      let cols := if start then cols else active :: cols
      if pipe && hyphen then some cols.reverse else none
    | c :: rest, start, active, inCol, pipe, hyphen, cols =>
      if c = ' ' then go rest start active inCol pipe hyphen cols
      else if c = ':' then
        let active := match start, active with
          | true, .none => .left
          | false, .left => .center
          | false, .none => .right
          | _, a => a
        go rest false active inCol pipe hyphen cols
      else if c = '-' then go rest false active true pipe true cols
      else if c = '|' then
        if inCol then go rest true .none false true hyphen (active :: cols) else none
      else if c = '\r' && rest.isEmpty then go rest start active inCol pipe hyphen cols
      else none

/-- The number of `|` in a line that separate cells, and the characters after the last one.
A `|` right after a backslash is a plain character, whatever comes before the backslash. -/
def pipeCount (cs : List Char) : Nat × List Char :=
  go cs false 0 []
where
  /-- Count pipes; `escaped` right after a backslash. -/
  go : List Char → Bool → Nat → List Char → Nat × List Char
    | [], _, n, after => (n, after)
    | '|' :: rest, escaped, n, after =>
      if escaped then go rest false n after else go rest false (n + 1) rest
    | c :: rest, _, n, after => go rest (c = '\\') n after

/-- The number of header cells a line gives a table, counted by its pipes. -/
def headerCount (cs : List Char) : Nat :=
  let (pipes, after) := pipeCount cs
  let lead := if (cs.dropWhile isLineBlank).head? = some '|' then 1 else 0
  let trail := if isBlankText after then 1 else 0
  pipes - lead - trail + 1

end Markdown

end Tagweave
