import Tagweave.Markdown.Document

/-!
# Writing HTML

The HTML of a markdown document. Block tags start on a fresh line: a tag that opens a block
is preceded by a line break unless the output so far ends with one. In a tight list the
paragraphs of the items are written without `<p>` tags.

Text is escaped for HTML (`&`, `<`, `>`); attribute values (titles, image descriptions,
footnote labels, code languages) also escape `"`; link destinations are percent-encoded
except for a fixed set of safe ASCII characters, with `&` and `'` as character references.

Footnotes are numbered in the order their labels are first met, by references or
definitions.
-/

namespace Tagweave

namespace Markdown

/-- Escape text for HTML content. -/
def escapeText (s : String) : String :=
  String.join (s.toList.map fun
    | '&' => "&amp;"
    | '<' => "&lt;"
    | '>' => "&gt;"
    | c => String.singleton c)

/-- Escape text for an HTML attribute value. -/
def escapeAttribute (s : String) : String :=
  String.join (s.toList.map fun
    | '"' => "&quot;"
    | '&' => "&amp;"
    | '<' => "&lt;"
    | '>' => "&gt;"
    | c => String.singleton c)

/-- The ASCII characters that stay as they are in a link destination. -/
def isHrefSafe (c : Char) : Bool :=
  isAsciiAlphanumeric c || "!#$%()*+,-./:;=?@^_~".toList.contains c

/-- The upper-case hexadecimal digit of a number below sixteen. -/
def upperHexDigit (n : Nat) : Char :=
  if n < 10 then Char.ofNat (n + 48) else Char.ofNat (n + 55)

/-- Escape a link destination. -/
def escapeHref (s : String) : String :=
  String.join (s.toList.map fun c =>
    if c = '&' then "&amp;"
    else if c = '\'' then "&#x27;"
    else if isHrefSafe c then String.singleton c
    else String.join ((String.singleton c).toUTF8.toList.map fun b =>
      String.ofList ['%', upperHexDigit (b.toNat / 16), upperHexDigit (b.toNat % 16)]))

/-- The HTML written so far, whether it ends with a line break, and the footnote numbers. -/
structure HtmlWriter where
  out : String
  endNewline : Bool
  numbers : List (String × Nat)

namespace HtmlWriter

/-- Write markup. -/
def write (w : HtmlWriter) (s : String) : HtmlWriter :=
  if s.isEmpty then w else { w with out := w.out ++ s, endNewline := s.endsWith "\n" }

/-- Write the opening of a block: on a fresh line. -/
def writeBlock (w : HtmlWriter) (s : String) : HtmlWriter :=
  if w.endNewline then w.write s else w.write ("\n" ++ s)

/-- Write text, escaped. -/
def writeText (w : HtmlWriter) (s : String) : HtmlWriter :=
  { w with out := w.out ++ escapeText s, endNewline := s.endsWith "\n" }

/-- The number of a footnote label, numbering it when new. -/
def number (w : HtmlWriter) (label : String) : HtmlWriter × Nat :=
  match w.numbers.lookup label with
  | some n => (w, n)
  | none =>
    let n := w.numbers.length + 1
    ({ w with numbers := w.numbers ++ [(label, n)] }, n)

end HtmlWriter

mutual
/-- The plain text of inline content, for an image description. -/
def altText (w : HtmlWriter) : List Inline → HtmlWriter
  | [] => w
  | i :: rest =>
    let w := match i with
      | .text s | .code s | .html s => { w with out := w.out ++ escapeAttribute s, endNewline := s.endsWith "\n" }
      | .softBreak | .hardBreak => w.write " "
      | .emphasis cs | .strong cs | .strikethrough cs => altText w cs
      | .link _ _ cs | .image _ _ cs => altText w cs
      | .footnoteRef label =>
        let (w, n) := w.number label
        w.write s!"[{n}]"
    altText w rest
end

mutual
/-- Write inline content. -/
def writeInlines (w : HtmlWriter) : List Inline → HtmlWriter
  | [] => w
  | i :: rest => writeInlines (writeInline w i) rest

/-- Write one inline node. -/
def writeInline (w : HtmlWriter) : Inline → HtmlWriter
  | .text s => w.writeText s
  | .code s => ((w.write "<code>").writeText s).write "</code>"
  | .html s => w.write s
  | .softBreak => w.write "\n"
  | .hardBreak => w.write "<br />\n"
  | .emphasis cs => (writeInlines (w.write "<em>") cs).write "</em>"
  | .strong cs => (writeInlines (w.write "<strong>") cs).write "</strong>"
  | .strikethrough cs => (writeInlines (w.write "<del>") cs).write "</del>"
  | .link dest title cs =>
    let head := "<a href=\"" ++ escapeHref dest ++
      (if title.isEmpty then "" else "\" title=\"" ++ escapeAttribute title) ++ "\">"
    (writeInlines (w.write head) cs).write "</a>"
  | .image dest title cs =>
    let w := w.write ("<img src=\"" ++ escapeHref dest ++ "\" alt=\"")
    let w := altText w cs
    w.write ((if title.isEmpty then "" else "\" title=\"" ++ escapeAttribute title) ++ "\" />")
  | .footnoteRef label =>
    let w := w.write ("<sup class=\"footnote-reference\"><a href=\"#" ++ escapeAttribute label ++ "\">")
    let (w, n) := w.number label
    w.write (toString n ++ "</a></sup>")
end

/-- The style attribute of a table cell. -/
def alignAttribute : Alignment → String
  | .none => ""
  | .left => " style=\"text-align: left\""
  | .center => " style=\"text-align: center\""
  | .right => " style=\"text-align: right\""

/-- Write a table row's cells with tag `tag`. -/
def writeCells (tag : String) (w : HtmlWriter) : List Alignment → List (List Inline) → HtmlWriter
  | a :: as, c :: cs =>
    let w := writeInlines (w.write ("<" ++ tag ++ alignAttribute a ++ ">")) c
    writeCells tag (w.write ("</" ++ tag ++ ">")) as cs
  | [], c :: cs =>
    let w := writeInlines (w.write ("<" ++ tag ++ ">")) c
    writeCells tag (w.write ("</" ++ tag ++ ">")) [] cs
  | _, [] => w

mutual
/-- Write blocks; `tight` inside an item of a tight list. -/
def writeBlocks (w : HtmlWriter) (tight : Bool) : List Block → HtmlWriter
  | [] => w
  | b :: rest => writeBlocks (writeBlock w tight b) tight rest

/-- Write one block. -/
def writeBlock (w : HtmlWriter) (tight : Bool) : Block → HtmlWriter
  | .paragraph content =>
    if tight then writeInlines w content
    else (writeInlines (w.writeBlock "<p>") content).write "</p>\n"
  | .heading level content =>
    (writeInlines (w.writeBlock s!"<h{level}>") content).write s!"</h{level}>\n"
  | .rule => w.writeBlock "<hr />\n"
  | .code info text =>
    let w := if w.endNewline then w else w.write "\n"
    let lang := match info with
      | some i => (i.splitOn " ").headD ""
      | none => ""
    let w := if lang.isEmpty then w.write "<pre><code>"
      else w.write ("<pre><code class=\"language-" ++ escapeAttribute lang ++ "\">")
    let w := if text.isEmpty then w else w.writeText text
    w.write "</code></pre>\n"
  | .html text => w.write text
  | .quote children => (writeBlocks (w.writeBlock "<blockquote>\n") false children).write "</blockquote>\n"
  | .list start isTight items =>
    let (opening, closing) := match start with
      | some 1 => ("<ol>\n", "</ol>\n")
      | some n => (s!"<ol start=\"{n}\">\n", "</ol>\n")
      | none => ("<ul>\n", "</ul>\n")
    (writeItems (w.writeBlock opening) isTight items).write closing
  | .taskMarker checked =>
    w.write (if checked then "<input disabled=\"\" type=\"checkbox\" checked=\"\"/>\n"
      else "<input disabled=\"\" type=\"checkbox\"/>\n")
  | .table aligns head rows =>
    let w := writeCells "th" ((w.write "<table>").write "<thead><tr>") aligns head
    let w := w.write "</tr></thead><tbody>\n"
    (writeRows w aligns rows).write "</tbody></table>\n"
  | .footnote label children =>
    let w := w.writeBlock ("<div class=\"footnote-definition\" id=\"" ++ escapeAttribute label ++
      "\"><sup class=\"footnote-definition-label\">")
    let (w, n) := w.number label
    (writeBlocks (w.write (toString n ++ "</sup>")) false children).write "</div>\n"

/-- Write list items. -/
def writeItems (w : HtmlWriter) (tight : Bool) : List (List Block) → HtmlWriter
  | [] => w
  | item :: rest => writeItems ((writeBlocks (w.writeBlock "<li>") tight item).write "</li>\n") tight rest

/-- Write table body rows. -/
def writeRows (w : HtmlWriter) (aligns : List Alignment) : List (List (List Inline)) → HtmlWriter
  | [] => w
  | row :: rest => writeRows ((writeCells "td" (w.write "<tr>") aligns row).write "</tr>\n") aligns rest
end

/-- The HTML of a markdown text read with the given extensions. -/
def toHtml (o : Options) (text : String) : String :=
  (writeBlocks ⟨"", true, []⟩ false (parse o text)).out

end Markdown

end Tagweave
