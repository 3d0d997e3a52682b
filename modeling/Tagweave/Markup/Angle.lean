/-!
# Literal angle brackets

A `<` starts markup only when the markup it starts is terminated; every other `<` is text.
Markup is

* a tag: `<` then an ASCII letter, or `</` then an ASCII letter, up to the first `>` that is
  not inside a quoted stretch (`"` and `'` both open and close one, anywhere in the tag);
* a comment `<!--` … `-->`, a CDATA section `<![CDATA[` … `]]>`, a processing instruction
  `<?` … `?>`, or a declaration `<!` … `>`, each up to the first closing sequence after its
  opening one.

`Angle.markupExtent` measures the markup at a `<` in characters (always at least two), and
`Angle.literals` lists the byte offsets of the literal `<`s of a text, scanning from the
left and jumping over each piece of markup. `Angle.pieces` cuts a text at its literal `<`s:
the pieces between them, with their byte offsets, are what the tokenizer reads, each on its
own.
-/

namespace Tagweave

namespace Angle

/-- The UTF-8 length of a character list. -/
def byteLength (cs : List Char) : Nat := cs.foldr (fun c n => c.utf8Size + n) 0

/-- The character index of the first occurrence of `pattern` in `cs`. -/
def findSub (pattern : List Char) : List Char → Option Nat
  | [] => if pattern.isEmpty then some 0 else none
  | c :: rest =>
    if pattern.isPrefixOf (c :: rest) then some 0 else (findSub pattern rest).map (· + 1)

/-- The number of characters of a tag up to and including its first `>` outside quotes. -/
def tagEnd (cs : List Char) : Option Nat :=
  let rec go : List Char → Option Char → Nat → Option Nat
    | [], _, _ => none
    | c :: rest, none, n =>
      if c = '"' || c = '\'' then go rest (some c) (n + 1)
      else if c = '>' then some (n + 1)
      else go rest none (n + 1)
    | c :: rest, some q, n => if c = q then go rest none (n + 1) else go rest (some q) (n + 1)
  go cs none 0

/-- The number of characters of the markup that `cs` (which starts with `<`) starts with, if
that markup is terminated. -/
def markupExtent (cs : List Char) : Option Nat :=
  let after := cs.drop 1
  let closedBy := fun (openLen : Nat) (close : List Char) =>
    (findSub close (cs.drop openLen)).map fun j => openLen + j + close.length
  if "!--".toList.isPrefixOf after then closedBy 4 "-->".toList
  else if "![CDATA[".toList.isPrefixOf after then closedBy 9 "]]>".toList
  else if after.head? = some '?' then closedBy 2 "?>".toList
  else if after.head? = some '!' then closedBy 2 ">".toList
  else
    let name := match after with
      | '/' :: r => r
      | r => r
    match name with
    | c :: _ => if c.isAlpha then tagEnd cs else none
    | [] => none

/-- Byte offsets of the `<` characters of `cs` that start no markup; `pos` is the byte offset of
`cs` in the whole text. -/
def literalsFrom (pos : Nat) : List Char → List Nat
  | [] => []
  | c :: rest =>
    if c = '<' then
      match markupExtent (c :: rest) with
      | some k => literalsFrom (pos + byteLength ((c :: rest).take k)) (rest.drop (k - 1))
      | none => pos :: literalsFrom (pos + 1) rest
    else literalsFrom (pos + c.utf8Size) rest
termination_by cs => cs.length
decreasing_by
  all_goals simp only [List.length_cons, List.length_drop]
  all_goals omega

/-- Byte offsets of the literal `<`s of a text. -/
def literals (s : String) : List Nat := literalsFrom 0 s.toList

/-- Cut `cs` at its literal `<`s. `pos` is the byte offset of `cs`, `start` that of the piece
being collected and `acc` its characters so far, reversed. Each piece comes with its byte
offset. -/
def piecesFrom (pos start : Nat) (acc : List Char) : List Char → List (Nat × List Char)
  | [] => [(start, acc.reverse)]
  | c :: rest =>
    if c = '<' then
      match markupExtent (c :: rest) with
      | some k =>
        let taken := (c :: rest).take k
        piecesFrom (pos + byteLength taken) start (taken.reverse ++ acc) (rest.drop (k - 1))
      | none => (start, acc.reverse) :: piecesFrom (pos + 1) (pos + 1) [] rest
    else piecesFrom (pos + c.utf8Size) start (c :: acc) rest
termination_by cs => cs.length
decreasing_by
  all_goals simp only [List.length_cons, List.length_drop]
  all_goals omega

/-- The pieces of a text between its literal `<`s, with their byte offsets. There is one
more piece than literal `<`s; pieces may be empty. -/
def pieces (s : String) : List (Nat × List Char) := piecesFrom 0 0 [] s.toList

end Angle

end Tagweave
