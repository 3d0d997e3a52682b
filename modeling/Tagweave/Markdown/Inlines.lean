import Tagweave.Markdown.Syntax
import Tagweave.Markdown.Definition
import Tagweave.Markdown.HtmlSyntax
import Tagweave.Markdown.Options

/-!
# Inline content

The inline reader goes through a paragraph's text from left to right and produces pieces:
finished inline nodes, runs of emphasis delimiters, smart quotes and link openers. Code
spans, autolinks, raw HTML, escapes, character references and line breaks become nodes as
they are met. At a `]` the nearest link opener is looked up: when the text after the `]` makes
a link (inline, full, collapsed or shortcut reference, or a footnote reference), the pieces
since the opener become the link's content; a link deactivates the link openers before it,
as links do not nest. A footnote reference deactivates every opener before it, image openers
too; made from `![`, it keeps the `!` as text.

Emphasis is then resolved level by level (the top level and each link's content), left to
right, with a stack of open runs. Each closing run looks down the stack for the nearest run
of its character that may pair with it (`~` only with a run of the same length; for `*` and
`_` the sum of the run lengths is not a multiple of three when either run may both open and
close, unless the closer's is), but no lower than where an earlier closer of its kind gave
up. The pair takes as many delimiters as both have: pairs of two make strong emphasis, a
single one emphasis, `~` makes struck-out text; the runs between lose their meaning. Smart
quotes pair in a simpler way: a single quote with the latest waiting one, a double quote by
turns.

Whether a run may open or close depends on the characters around it: white space,
punctuation, and for `_` (and single `~`) the stricter rule that forbids emphasis inside
words.
-/

namespace Tagweave

namespace Markdown

/-- What inline reading needs to know about the document. -/
structure InlineContext where
  options : Options
  definitions : List (String × LinkTarget)
  /-- The labels of the footnote definitions, case folded. -/
  footnotes : List String

/-- A piece of inline content before emphasis is resolved. -/
inductive Piece where
  | node (i : Inline)
  /-- A run of `*`, `_` or `~`: the character, how many are left, whether it may open and
  close, and the length of the run as written. -/
  | delim (c : Char) (count : Nat) (canOpen canClose : Bool) (runLength : Nat)
  /-- A straight quote to be made curly. -/
  | quote (c : Char) (canOpen canClose : Bool)
  /-- A `[` or `![` that may start a link; `start` is the index just past it. -/
  | opener (image : Bool) (active : Bool) (start : Nat)

/-- Whether a delimiter run may open, from the character before it (none at the start), the
run's character and length, and the character after it. -/
def canOpen (prev : Option Char) (delim : Char) (runLength : Nat) (next : Option Char) : Bool :=
  match next with
  | none => false
  | some n =>
    if Unicode.isWhiteSpace n then false
    else match prev with
      | none => true
      | some p =>
        if delim = '*' && !isPunctuation n then true
        else if delim = '~' && 1 < runLength then true
        else if delim = '~' && p = '~' && !isPunctuation n then true
        else Unicode.isWhiteSpace p || (isPunctuation p && (delim ≠ '\'' || (p ≠ ']' && p ≠ ')')))

/-- Whether a delimiter run may close. -/
def canClose (prev : Option Char) (delim : Char) (runLength : Nat) (next : Option Char) : Bool :=
  match prev with
  | none => false
  | some p =>
    if Unicode.isWhiteSpace p then false
    else match next with
      | none => true
      | some n =>
        if (delim = '*' || (delim = '~' && 1 < runLength)) && !isPunctuation p then true
        else if delim = '~' && p = '~' then true
        else Unicode.isWhiteSpace n || isPunctuation n

/-! ### Emphasis -/

/-- A piece as plain inline content, once it has no more syntactic role. -/
def Piece.toInlines : Piece → List Inline
  | .node i => [i]
  | .delim c count _ _ _ => if count = 0 then [] else [.text (String.ofList (List.replicate count c))]
  | .quote c _ _ => [.text (String.singleton c)]
  | .opener image _ _ => [.text (if image then "![" else "[")]

/-- Merge neighbouring text nodes. -/
def mergeText : List Inline → List Inline
  | .text a :: .text b :: rest => mergeText (.text (a ++ b) :: rest)
  | i :: rest => i :: mergeText rest
  | [] => []
termination_by l => l.length

/-- Pieces as inline content. -/
def piecesToInlines (ps : List Piece) : List Inline := mergeText (ps.flatMap Piece.toInlines)

/-- A run of emphasis delimiters waiting for a closer: its character, the delimiters left,
the length of the run as written, and whether it may both open and close. -/
structure OpenRun where
  c : Char
  count : Nat
  runLength : Nat
  both : Bool

/-- Content of one level as far as it is resolved: inline content, or a run still open. -/
inductive Resolved where
  | inline (i : Inline)
  | run (r : OpenRun)

/-- Resolved content as plain inline content. -/
def Resolved.toInlines : Resolved → List Inline
  | .inline i => [i]
  | .run r => if r.count = 0 then [] else [.text (String.ofList (List.replicate r.count r.c))]

/-! The open runs form a stack. A closer that finds no partner records how far down the
stack the next closer of its kind need look: a slot for `~`, and for `*` and `_` one slot per
run length modulo three for runs that may both open and close and one for those that may
not. A slot never points above the stack. -/

/-- The lowest stack place a closer of `c` with run length `len` looks at. -/
def lowerBound (bounds : List Nat) (c : Char) (len : Nat) (both : Bool) : Nat :=
  if c = '_' then
    let m := bounds.getD (6 + len % 3) 0
    if both then m else min m (bounds.getD 0 0)
  else if c = '*' then
    let m := bounds.getD (2 + len % 3) 0
    if both then m else min m (bounds.getD 1 0)
  else bounds.getD 5 0

/-- Record that a closer of `c` with run length `len` found no partner below `v`. -/
def setLowerBound (bounds : List Nat) (c : Char) (len : Nat) (both : Bool) (v : Nat) : List Nat :=
  if c = '_' then (if both then bounds.set (6 + len % 3) v else bounds.set 0 v)
  else if c = '*' then
    let bounds := bounds.set (2 + len % 3) v
    if both then bounds else bounds.set 1 v
  else bounds.set 5 v

/-- Whether an open run pairs with a closer of `c` with run length `len`: `~` runs of equal
length; `*` and `_` runs unless one of them may both open and close and the lengths add up to
a multiple of three (while the closer's is not one). -/
def OpenRun.pairsWith (r : OpenRun) (c : Char) (len : Nat) (both : Bool) : Bool :=
  r.c = c && (c ≠ '~' || r.runLength = len) &&
    ((!both && !r.both) || (len + r.runLength) % 3 ≠ 0 || len % 3 = 0)

/-- The state of emphasis resolution: resolved content (newest first), the number of open
runs in it, and the lower bounds of the closers' searches. -/
structure EmphasisState where
  out : List Resolved
  depth : Nat
  bounds : List Nat

/-- The open run a closer pairs with: its position in `out`, its place on the stack and the
run. `place` is the number of open runs from the start of `out` on. -/
def findRun (c : Char) (len : Nat) (both : Bool) (lb : Nat) :
    List Resolved → Nat → Nat → Option (Nat × Nat × OpenRun)
  | [], _, _ => none
  | .inline _ :: rest, pos, place => findRun c len both lb rest (pos + 1) place
  | .run r :: rest, pos, place =>
    if place ≤ lb then none
    else if r.pairsWith c len both then some (pos, place - 1, r)
    else findRun c len both lb rest (pos + 1) (place - 1)

/-- Push an open run; a `~` run lowers the `~` slot to its place. -/
def EmphasisState.push (s : EmphasisState) (r : OpenRun) : EmphasisState :=
  let bounds := if r.c = '~' then s.bounds.set 5 (min (s.bounds.getD 5 0) s.depth) else s.bounds
  ⟨.run r :: s.out, s.depth + 1, bounds⟩

/-- Wrap content in `used` delimiters' worth of emphasis, from the inside out: pairs make
strong emphasis, a single one emphasis, `~` strikes through. -/
def nestEmphasis (c : Char) : Nat → List Inline → List Inline
  | 0, content => content
  | 1, content => [if c = '~' then .strikethrough content else .emphasis content]
  | k + 2, content => nestEmphasis c k [if c = '~' then .strikethrough content else .strong content]

/-- A closing run of `count` delimiters meets the open runs: while it finds a partner, the
content since the partner becomes emphasis and the runs between lose their meaning. What is
left of the closer is pushed as an open run when it may open, and is text otherwise. -/
def closeRun (c : Char) (len : Nat) (both canOpen : Bool) : Nat → Nat → EmphasisState → EmphasisState
  | fuel + 1, count + 1, s =>
    let lb := min s.depth (lowerBound s.bounds c len both)
    match findRun c len both lb s.out 0 s.depth with
    | some (pos, place, r) =>
      let content := mergeText ((s.out.take pos).reverse.flatMap Resolved.toInlines)
      let used := min (count + 1) r.count
      let node := (nestEmphasis c used content).reverse.map Resolved.inline
      let s : EmphasisState := ⟨s.out.drop (pos + 1), place, s.bounds.map (min · place)⟩
      let s := if used < r.count then s.push { r with count := r.count - used } else s
      let s := { s with out := node ++ s.out }
      closeRun c len both canOpen fuel (count + 1 - used) s
    | none =>
      let s := { s with bounds := setLowerBound s.bounds c len both s.depth }
      closeRun c len both canOpen 0 (count + 1) s
  | _, 0, s => s
  | 0, count, s =>
    if canOpen then s.push ⟨c, count, len, both⟩
    else { s with out := .inline (.text (String.ofList (List.replicate count c))) :: s.out }

/-- Resolve emphasis over the pieces of one level, left to right. -/
def resolveEmphasis (ps : List Piece) : List Inline :=
  let s := ps.foldl (fun s p => match p with
    | .delim c count o cl len =>
      if cl then closeRun c len (o && cl) o count count s
      else closeRun c len (o && cl) o 0 count s
    | p => { s with out := (p.toInlines.map Resolved.inline).reverse ++ s.out })
    (⟨[], 0, List.replicate 9 0⟩ : EmphasisState)
  mergeText (s.out.reverse.flatMap Resolved.toInlines)

/-- The curly form of each straight quote, from left to right. A single quote that may close
pairs with the latest single quote left waiting, which becomes an opening quote; one that
may open is left waiting instead (in place of any earlier one). A double quote closes when
it may and a double quote is open, and is an opening quote otherwise, opening one when it
may and none is open. Quotes that pair with nothing are `’` and `“`. -/
def resolveQuotes (ps : List Piece) : List Piece :=
  let opened := go ps 0 none false []
  (ps.zipIdx).map fun (p, i) => match p with
    | .quote c _ _ =>
      match opened.lookup i with
      | some q => .node (.text (String.singleton q))
      | none => .node (.text (if c = '\'' then "’" else "“"))
    | p => p
where
  /-- The quotes whose form is not the default, with the waiting single quote and whether a
  double quote is open. -/
  go : List Piece → Nat → Option Nat → Bool → List (Nat × Char) → List (Nat × Char)
    | [], _, _, _, acc => acc
    | .quote c o cl :: rest, i, single, double, acc =>
      if c = '\'' then
        match single, cl with
        | some j, true => go rest (i + 1) none double ((j, '‘') :: acc)
        | _, _ => go rest (i + 1) (if o then some i else single) double acc
      else if cl && double then go rest (i + 1) single false ((i, '”') :: acc)
      else go rest (i + 1) single (double || o) acc
    | _ :: rest, i, single, double, acc => go rest (i + 1) single double acc

/-- Resolve one level of pieces into inline content. -/
def resolveLevel (ps : List Piece) : List Inline :=
  resolveEmphasis (resolveQuotes ps)

/-! ### Code spans, autolinks and links -/

/-- A code span at the start of `cs`, a run of `n` backquotes having been read: the content
and the characters taken after the opening run. -/
def codeSpan? (n : Nat) (cs : List Char) : Option (String × Nat) :=
  go cs 0 []
where
  /-- Look for a closing run of exactly `n` backquotes. -/
  go : List Char → Nat → List Char → Option (String × Nat)
    | [], _, _ => none
    | '`' :: rest, used, acc =>
      let k := 1 + (rest.takeWhile (· = '`')).length
      if k = n then some (content acc.reverse, used + k)
      else go (rest.drop (k - 1)) (used + k) (List.replicate k '`' ++ acc)
    | c :: rest, used, acc => go rest (used + 1) (c :: acc)
  termination_by cs => cs.length
  decreasing_by
    all_goals simp only [List.length_cons, List.length_drop]
    all_goals omega
  /-- Line breaks become spaces; one space is stripped from both ends when both have one
  and the content is not all spaces. -/
  content (cs : List Char) : String :=
    let cs := cs.map fun c => if c = '\n' then ' ' else c
    if 2 ≤ cs.length && cs.head? = some ' ' && cs.getLast? = some ' ' && !cs.all (· = ' ') then
      String.ofList (cs.drop 1).dropLast
    else String.ofList cs

/-- A URI autolink at the start of `cs` (just after the `<`): the address and the characters
taken with the `>`. -/
def uriAutolink? (cs : List Char) : Option (String × Nat) :=
  match cs with
  | c :: rest =>
    if !isAsciiLetter c then none
    else
      let scheme := rest.takeWhile fun d => isAsciiAlphanumeric d || d = '+' || d = '.' || d = '-'
      let len := 1 + scheme.length
      if len < 2 || 32 < len then none
      else match rest.drop scheme.length with
        | ':' :: more =>
          let body := more.takeWhile fun d => d ≠ '>' && d ≠ '<' && 0x20 < d.toNat && d.toNat ≠ 0x7F
          match more.drop body.length with
          | '>' :: _ => some (String.ofList (cs.take (len + 1 + body.length)), len + 1 + body.length + 1)
          | _ => none
        | _ => none
  | [] => none

/-- An email autolink at the start of `cs` (just after the `<`). -/
def emailAutolink? (cs : List Char) : Option (String × Nat) :=
  let isLocal := fun (d : Char) => isAsciiAlphanumeric d || ".!#$%&'*+/=?^_`~|-".toList.contains d ||
    d = '\x7b' || d = '\x7d'
  let user := cs.takeWhile isLocal
  if user.isEmpty then none
  else match cs.drop user.length with
    | '@' :: rest =>
      let domain := rest.takeWhile fun d => isAsciiAlphanumeric d || d = '-' || d = '.'
      let labels := (String.ofList domain).splitOn "."
      let labelOk := fun (l : String) =>
        0 < l.length && l.length ≤ 63 && l.front ≠ '-' && l.back ≠ '-'
      if domain.isEmpty || !labels.all labelOk then none
      else match rest.drop domain.length with
        | '>' :: _ =>
          some (String.ofList (cs.take (user.length + 1 + domain.length)), user.length + 1 + domain.length + 1)
        | _ => none
    | _ => none

/-- An inline link tail `(destination "title")` at the start of `cs`: the target and the
characters taken. -/
def inlineLink? (cs : List Char) : Option (LinkTarget × Nat) :=
  match cs with
  | '(' :: rest =>
    let a := skipBlanksOneBreak rest
    let afterA := rest.drop a
    match afterA with
    | ')' :: _ => some (⟨"", ""⟩, a + 2)
    | _ =>
      match linkDestination? afterA with
      | none => none
      | some (rawDest, d) =>
        let dest := String.ofList (unescape rawDest)
        let afterD := afterA.drop d
        let b := skipBlanksOneBreak afterD
        match afterD.drop b with
        | ')' :: _ => some (⟨dest, ""⟩, 1 + a + d + b + 1)
        | more =>
          if b = 0 then none
          else match linkTitle? more with
            | none => none
            | some (rawTitle, t) =>
              let afterT := more.drop t
              let e := skipBlanksOneBreak afterT
              match afterT.drop e with
              | ')' :: _ => some (⟨dest, String.ofList (unescape rawTitle)⟩, 1 + a + d + b + t + e + 1)
              | _ => none
  | _ => none

/-- A bracketed label: a footnote label `[^...]` or a link label. -/
inductive BracketLabel where
  | footnote (label : String)
  | link (label : List Char)

/-- The label at the start of `cs` (which starts with `[`) and its length with the brackets.
With footnotes on, `[^` starts a footnote label unless `]` follows at once; a footnote label
holds no line break, and when it is not one the text is read as a link label. -/
def bracketLabel? (footnotes : Bool) (cs : List Char) : Option (BracketLabel × Nat) :=
  let asLink := (linkLabel? cs).map fun (l, n) => (BracketLabel.link l, n)
  match cs with
  | '[' :: '^' :: d :: rest =>
    if footnotes && d ≠ ']' then
      match linkLabel? ('[' :: d :: rest) with
      | some (label, n) =>
        if label.any (fun c => c = '\n' || c = '\r') then asLink
        else some (.footnote (collapseLabel label), n + 1)
      | none => asLink
    else asLink
  | _ => asLink

/-- What the text after a `]` makes of the bracketed text `inner`. -/
inductive LinkEnd where
  | link (target : LinkTarget) (taken : Nat)
  | footnote (label : String)
  | none

/-- Decide what the text after a `]` makes of the bracketed text `inner`. An inline link comes
first. Then a link label right after the `]` makes a full reference; `[]` a collapsed one,
and anything else (a footnote label included) a shortcut, both with `inner` as the label.
When that label is a footnote label, it is a footnote reference if the footnote is defined
(the `[]` of a collapsed form staying as text). -/
def linkEnd (ctx : InlineContext) (inner after : List Char) : LinkEnd :=
  match inlineLink? after with
  | some (target, n) => .link target n
  | none =>
    let fn := ctx.options.footnotes
    let own : Option BracketLabel :=
      match bracketLabel? fn ('[' :: inner ++ [']']) with
      | some (l, n) => if n = inner.length + 2 then some l else none
      | none => none
    let (label, taken) : Option BracketLabel × Nat :=
      match after with
      | '[' :: ']' :: _ => (own, 2)
      | _ =>
        match bracketLabel? fn after with
        | some (.link l, n) => (some (.link l), n)
        | _ => (own, 0)
    match label with
    | some (.footnote l) =>
      if ctx.footnotes.contains (Unicode.caseFold l) then .footnote l else .none
    | some (.link l) =>
      match ctx.definitions.lookup (normalizeLabel l) with
      | some t => .link t taken
      | none => .none
    | none => .none

/-! ### Reading -/

/-- The state of the inline reader: pieces (newest first) and pending text (reversed). -/
structure InlineReader where
  pieces : List Piece
  text : List Char

namespace InlineReader

/-- Turn the pending text into a node. -/
def flush (r : InlineReader) : InlineReader :=
  if r.text.isEmpty then r else ⟨.node (.text (String.ofList r.text.reverse)) :: r.pieces, []⟩

/-- Add a piece after the pending text. -/
def push (r : InlineReader) (p : Piece) : InlineReader :=
  let r := r.flush
  { r with pieces := p :: r.pieces }

/-- Add text. -/
def addText (r : InlineReader) (cs : List Char) : InlineReader :=
  { r with text := cs.reverse ++ r.text }

/-- A line break: hard after two or more trailing blanks, soft otherwise; the trailing blanks
go. -/
def lineBreak (r : InlineReader) : InlineReader :=
  let blanks := (r.text.takeWhile isLineBlank).length
  let r := { r with text := r.text.drop blanks }
  r.push (.node (if 2 ≤ blanks then .hardBreak else .softBreak))

end InlineReader

/-- The smart form of a run of `n` hyphens: em dashes and en dashes. -/
def dashes (n : Nat) : List Char :=
  let (ems, ens) :=
    if n = 2 then (0, 1)
    else if n = 3 then (1, 0)
    else match n % 6 with
      | 0 | 3 => (n / 3, 0)
      | 2 | 4 => (0, n / 2)
      | 1 => (n / 3 - 1, 2)
      | _ => (n / 3, 1)
  List.replicate ems '—' ++ List.replicate ens '–'

/-- Read inline content. `src` is the whole text, `cs` what is left of it from index `pos`,
`prev` the character before `pos`. -/
def readInlines (ctx : InlineContext) (src : List Char) :
    Nat → List Char → Nat → Option Char → InlineReader → InlineReader
  | 0, _, _, _, r => r.flush
  | _ + 1, [], _, _, r => r.flush
  | fuel + 1, c :: rest, pos, prev, r =>
    let continueWith := fun (taken : Nat) (r : InlineReader) =>
      let cs := c :: rest
      readInlines ctx src fuel (cs.drop taken) (pos + taken) (cs.take taken).getLast? r
    let smart := ctx.options.smartPunctuation
    if c = '\n' then
      let skipped := (rest.takeWhile isSpaceOrTab).length
      continueWith (1 + skipped) r.lineBreak
    else if c = '\\' then
      match rest with
      | '\n' :: more =>
        let skipped := (more.takeWhile isSpaceOrTab).length
        continueWith (2 + skipped) (r.push (.node .hardBreak))
      | d :: _ =>
        if isAsciiPunctuation d then continueWith 2 (r.addText [d]) else continueWith 1 (r.addText ['\\'])
      | [] => continueWith 1 (r.addText ['\\'])
    else if c = '`' then
      let n := 1 + (rest.takeWhile (· = '`')).length
      match codeSpan? n (rest.drop (n - 1)) with
      | some (content, k) => continueWith (n + k) (r.push (.node (.code content)))
      | none => continueWith n (r.addText (List.replicate n '`'))
    else if c = '&' then
      match entityAt? (c :: rest) with
      | some (chars, k) => continueWith k (r.addText chars)
      | none => continueWith 1 (r.addText ['&'])
    else if c = '<' then
      match uriAutolink? rest with
      | some (addr, k) => continueWith (1 + k) (r.push (.node (.link addr "" [.text addr])))
      | none =>
        match emailAutolink? rest with
        | some (addr, k) =>
          continueWith (1 + k) (r.push (.node (.link ("mailto:" ++ addr) "" [.text addr])))
        | none =>
          match HtmlSyntax.inlineLength (c :: rest) with
          | some k => continueWith k (r.push (.node (.html (String.ofList ((c :: rest).take k)))))
          | none => continueWith 1 (r.addText ['<'])
    else if c = '*' || c = '_' || (c = '~' && ctx.options.strikethrough) then
      let n := 1 + (rest.takeWhile (· = c)).length
      let next := (rest.drop (n - 1)).head?
      let o := canOpen prev c n next
      let cl := canClose prev c n next
      if (o || cl) && (c ≠ '~' || n ≤ 2) then continueWith n (r.push (.delim c n o cl n))
      else continueWith n (r.addText (List.replicate n c))
    else if c = '!' && rest.head? = some '[' then
      continueWith 2 (r.push (.opener true true (pos + 2)))
    else if c = '[' then
      continueWith 1 (r.push (.opener false true (pos + 1)))
    else if c = ']' then
      let r := r.flush
      match r.pieces.findIdx? (fun | .opener _ _ _ => true | _ => false) with
      | none => continueWith 1 (r.addText [']'])
      | some k =>
        match r.pieces[k]? with
        | some (.opener image active start) =>
          let dropOpener := { r with pieces := r.pieces.take k ++
            (Piece.node (.text (if image then "![" else "[")) :: r.pieces.drop (k + 1)) }
          if !active then continueWith 1 (dropOpener.addText [']'])
          else
            let inner := (src.drop start).take (pos - start)
            match linkEnd ctx inner rest with
            | .link target taken =>
              let content := resolveLevel (r.pieces.take k).reverse
              let node := if image then Inline.image target.dest target.title content
                else Inline.link target.dest target.title content
              let below := r.pieces.drop (k + 1)
              let below := if image then below else below.map fun
                | .opener false _ s => .opener false false s
                | p => p
              continueWith (1 + taken) ⟨.node node :: below, []⟩
            | .footnote label =>
              let below := (r.pieces.drop (k + 1)).map fun
                | .opener i _ s => .opener i false s
                | p => p
              let below := if image then Piece.node (.text "!") :: below else below
              continueWith 1 ⟨.node (.footnoteRef label) :: below, []⟩
            | .none => continueWith 1 (dropOpener.addText [']'])
        | _ => continueWith 1 (r.addText [']'])
    else if smart && c = '.' && rest.take 2 = ['.', '.'] then continueWith 3 (r.addText ['…'])
    else if smart && c = '-' && rest.head? = some '-' then
      let n := 1 + (rest.takeWhile (· = '-')).length
      continueWith n (r.addText (dashes n))
    else if smart && (c = '\'' || c = '"') then
      let next := rest.head?
      continueWith 1 (r.push (.quote c (canOpen prev c 1 next) (canClose prev c 1 next)))
    else continueWith 1 (r.addText [c])

/-- Read the inline content of a text. -/
def parseInlines (ctx : InlineContext) (text : List Char) : List Inline :=
  let r := readInlines ctx text (text.length + 1) text 0 none ⟨[], []⟩
  resolveLevel r.pieces.reverse

end Markdown

end Tagweave
