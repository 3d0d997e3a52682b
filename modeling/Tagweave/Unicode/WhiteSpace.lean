/-!
# White space

Two sets of blank characters and trimming by them.

* `Unicode.isWhiteSpace` is the Unicode `White_Space` property: the ASCII controls tab to
  carriage return, space, next line, no-break space, ogham space mark, the spaces
  U+2000 to U+200A, the line and paragraph separators, narrow no-break space, medium
  mathematical space and ideographic space. It decides where tag names end and what
  attribute text and references are trimmed of.
* `Unicode.isMarkupBlank` is the four blanks of markup syntax: space, tab, carriage return
  and line feed. It is what end-tag names lose at their end.
-/

namespace Tagweave

namespace Unicode

/-- The Unicode `White_Space` property. -/
def isWhiteSpace (c : Char) : Bool :=
  let n := c.toNat
  (0x09 ≤ n && n ≤ 0x0D) || n == 0x20 || n == 0x85 || n == 0xA0 || n == 0x1680 ||
  (0x2000 ≤ n && n ≤ 0x200A) || n == 0x2028 || n == 0x2029 || n == 0x202F ||
  n == 0x205F || n == 0x3000

/-- Space, tab, carriage return, line feed. -/
def isMarkupBlank (c : Char) : Bool :=
  c = ' ' || c = '\t' || c = '\r' || c = '\n'

/-- Every ASCII blank of core's class is white space. -/
theorem isWhiteSpace_of_isWhitespace (c : Char) (h : c.isWhitespace = true) :
    isWhiteSpace c = true := by
  simp only [Char.isWhitespace, Bool.or_eq_true, decide_eq_true_eq] at h
  simp only [isWhiteSpace, Bool.or_eq_true, Bool.and_eq_true, beq_iff_eq, decide_eq_true_eq]
  rcases h with ((h | h) | h) | h <;> subst h <;> decide

/-- Drop leading characters with property `p`. -/
def dropLeading (p : Char → Bool) (cs : List Char) : List Char := cs.dropWhile p

/-- Drop trailing characters with property `p`. -/
def dropTrailing (p : Char → Bool) (cs : List Char) : List Char :=
  (cs.reverse.dropWhile p).reverse

/-- The string without leading white space. -/
def trimStart (s : String) : String := String.ofList (dropLeading isWhiteSpace s.toList)

/-- The string without trailing white space. -/
def trimEnd (s : String) : String := String.ofList (dropTrailing isWhiteSpace s.toList)

/-- The string without white space at either end. -/
def trim (s : String) : String :=
  String.ofList (dropTrailing isWhiteSpace (dropLeading isWhiteSpace s.toList))

end Unicode

end Tagweave
