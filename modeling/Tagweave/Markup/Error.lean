/-!
# Markup errors

Why a document cannot be read, and the wording of each reason. Positions are byte offsets
into the document.

* A `MarkupFault` is a piece of markup the tokenizer cannot take: an unknown `<!` form, a
  comment, CDATA section, doctype, processing instruction, XML declaration or tag that never
  ends, or a doctype without a name.
* `ParseError.malformed` carries a fault and where its markup starts (for a nameless doctype,
  where the name was expected).
* `ParseError.unexpectedEndTag` is a closing tag that matches no open element; its position
  is just past the closing tag's `>`.

No error stands for bytes that do not decode: a document is text, and every slice of it that
the reader decodes is cut between two characters (`Document.cuts_on_char_boundaries`).
-/

namespace Tagweave

/-- Markup the tokenizer cannot take. -/
inductive MarkupFault where
  /-- `<!` followed by something other than `[`, `-`, `D` or `d`. -/
  | unknownBang
  /-- `<?` with no `?>` after it, or `<?>`. -/
  | unclosedInstruction
  /-- `<?xml` followed by a blank, a `?` or nothing, with no `?>` after it. -/
  | unclosedXmlDecl
  /-- A comment with no `-->`. -/
  | unclosedComment
  /-- A doctype whose brackets never balance out to a closing `>`. -/
  | unclosedDoctype
  /-- A CDATA section with no `]]>`. -/
  | unclosedCData
  /-- A tag with no closing `>`. -/
  | unclosedTag
  /-- `<!DOCTYPE>` with nothing but blanks after the keyword. -/
  | missingDoctypeName
  deriving DecidableEq, Repr

/-- The wording of a fault. -/
def MarkupFault.message : MarkupFault → String
  | .unknownBang => "syntax error: unknown or missed symbol in markup"
  | .unclosedInstruction =>
    "syntax error: processing instruction not closed: `?>` not found before end of input"
  | .unclosedXmlDecl => "syntax error: XML declaration not closed: `?>` not found before end of input"
  | .unclosedComment => "syntax error: comment not closed: `-->` not found before end of input"
  | .unclosedDoctype => "syntax error: DOCTYPE not closed: `>` not found before end of input"
  | .unclosedCData => "syntax error: CDATA not closed: `]]>` not found before end of input"
  | .unclosedTag => "syntax error: tag not closed: `>` not found before end of input"
  | .missingDoctypeName =>
    "ill-formed document: `<!DOCTYPE>` declaration does not contain a name of a document type"

/-- Why a document cannot be read. -/
inductive ParseError where
  | malformed (position : Nat) (fault : MarkupFault)
  | unexpectedEndTag (name : String) (position : Nat)
  deriving DecidableEq, Repr

/-- The wording of a parse error. -/
def ParseError.message : ParseError → String
  | .malformed position fault => s!"syntax error at byte {position}: {fault.message}"
  | .unexpectedEndTag name position => s!"unexpected closing tag </{name}> at byte {position}"

/-- The byte offset of a parse error. -/
def ParseError.position : ParseError → Nat
  | .malformed position _ => position
  | .unexpectedEndTag _ position => position

end Tagweave
