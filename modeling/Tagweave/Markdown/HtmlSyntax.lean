import Tagweave.Markdown.Chars

/-!
# HTML syntax inside markdown

Recognisers for the pieces of HTML that markdown passes through: open and closing tags,
comments, processing instructions, declarations and CDATA sections. Each takes the text
from a `<` on and gives the number of characters of the piece, when the text starts with
one.

* A tag name is an ASCII letter followed by letters, digits and `-`.
* An attribute is white space, a name (`[A-Za-z_:][A-Za-z0-9_.:-]*`) and optionally `=` with
  a value: unquoted (no white space, quotes, `=`, `<`, `>` or backquote), or in single or
  double quotes.
* White space inside a tag is spaces, tabs and line breaks.
* A comment is `<!-->`, `<!--->`, or `<!--` up to the first `-->`.
-/

namespace Tagweave

namespace Markdown

namespace HtmlSyntax

/-- White space inside a tag. -/
def isTagBlank (c : Char) : Bool := c = ' ' || c = '\t' || c = '\n' || c = '\r' || c = '\x0c'

/-- The length of a tag name at the start, if there is one. -/
def tagNameLength (cs : List Char) : Option Nat :=
  match cs with
  | c :: rest =>
    if isAsciiLetter c then some (1 + (rest.takeWhile fun c => isAsciiAlphanumeric c || c = '-').length)
    else none
  | [] => none

/-- The length of an attribute name at the start, if there is one. -/
def attrNameLength (cs : List Char) : Option Nat :=
  match cs with
  | c :: rest =>
    if isAsciiLetter c || c = '_' || c = ':' then
      some (1 + (rest.takeWhile fun c =>
        isAsciiAlphanumeric c || c = '_' || c = '.' || c = ':' || c = '-').length)
    else none
  | [] => none

/-- The length of an attribute value (after the `=` and its white space). -/
def attrValueLength (cs : List Char) : Option Nat :=
  match cs with
  | '"' :: rest =>
    let body := rest.takeWhile (· ≠ '"')
    if body.length < rest.length then some (body.length + 2) else none
  | '\'' :: rest =>
    let body := rest.takeWhile (· ≠ '\'')
    if body.length < rest.length then some (body.length + 2) else none
  | _ =>
    let body := cs.takeWhile fun c =>
      !isTagBlank c && c ≠ '"' && c ≠ '\'' && c ≠ '=' && c ≠ '<' && c ≠ '>' && c ≠ '`'
    if body.isEmpty then none else some body.length

/-- The length of an optional `= value` part of an attribute (zero when absent). -/
def attrValueSpecLength (cs : List Char) : Option Nat :=
  let blanks := (cs.takeWhile isTagBlank).length
  match cs.drop blanks with
  | '=' :: rest =>
    let blanks2 := (rest.takeWhile isTagBlank).length
    (attrValueLength (rest.drop blanks2)).map fun n => blanks + 1 + blanks2 + n
  | _ => some 0

/-- The number of characters of the attributes at the start of `cs` (each led by white space),
reading at most `fuel` of them. -/
def attributesLength : Nat → List Char → Nat
  | 0, _ => 0
  | fuel + 1, cs =>
    let blanks := (cs.takeWhile isTagBlank).length
    if blanks = 0 then 0
    else match attrNameLength (cs.drop blanks) with
      | none => 0
      | some n =>
        match attrValueSpecLength (cs.drop (blanks + n)) with
        | none => 0
        | some v =>
          let used := blanks + n + v
          used + attributesLength fuel (cs.drop used)

/-- The length of an open tag at the start of `cs` (which starts with `<`). -/
def openTagLength (cs : List Char) : Option Nat :=
  match cs with
  | '<' :: rest =>
    match tagNameLength rest with
    | none => none
    | some n =>
      let attrs := attributesLength rest.length (rest.drop n)
      let after := rest.drop (n + attrs)
      let blanks := (after.takeWhile isTagBlank).length
      match after.drop blanks with
      | '>' :: _ => some (1 + n + attrs + blanks + 1)
      | '/' :: '>' :: _ => some (1 + n + attrs + blanks + 2)
      | _ => none
  | _ => none

/-- The length of a closing tag at the start of `cs`. -/
def closingTagLength (cs : List Char) : Option Nat :=
  match cs with
  | '<' :: '/' :: rest =>
    match tagNameLength rest with
    | none => none
    | some n =>
      let after := rest.drop n
      let blanks := (after.takeWhile isTagBlank).length
      match after.drop blanks with
      | '>' :: _ => some (2 + n + blanks + 1)
      | _ => none
  | _ => none

/-- The index of the first occurrence of `pattern` in `cs`. -/
def findPattern (pattern : List Char) : List Char → Option Nat
  | [] => none
  | c :: rest =>
    if pattern.isPrefixOf (c :: rest) then some 0 else (findPattern pattern rest).map (· + 1)

/-- The length of a comment at the start of `cs`. -/
def commentLength (cs : List Char) : Option Nat :=
  match cs with
  | '<' :: '!' :: '-' :: '-' :: rest =>
    match rest with
    | '>' :: _ => some 5
    | '-' :: '>' :: _ => some 6
    | _ => (findPattern "-->".toList rest).map fun i => 4 + i + 3
  | _ => none

/-- The length of a processing instruction at the start of `cs`. -/
def instructionLength (cs : List Char) : Option Nat :=
  match cs with
  | '<' :: '?' :: rest => (findPattern "?>".toList rest).map fun i => 2 + i + 2
  | _ => none

/-- The length of a declaration at the start of `cs`. -/
def declarationLength (cs : List Char) : Option Nat :=
  match cs with
  | '<' :: '!' :: c :: rest =>
    if isAsciiLetter c then (rest.findIdx? (· = '>')).map fun i => 3 + i + 1 else none
  | _ => none

/-- The length of a CDATA section at the start of `cs`. -/
def cdataLength (cs : List Char) : Option Nat :=
  if "<![CDATA[".toList.isPrefixOf cs then
    (findPattern "]]>".toList (cs.drop 9)).map fun i => 9 + i + 3
  else none

/-- The length of any inline HTML at the start of `cs`. -/
def inlineLength (cs : List Char) : Option Nat :=
  (openTagLength cs).orElse fun _ => (closingTagLength cs).orElse fun _ =>
    (commentLength cs).orElse fun _ => (instructionLength cs).orElse fun _ =>
      (declarationLength cs).orElse fun _ => cdataLength cs

end HtmlSyntax

end Markdown

end Tagweave
