import Tagweave.Markdown.Chars
import Tagweave.Markdown.Entity
import Tagweave.Unicode.Case

/-!
# Escapes, character references and link syntax

The pieces of markdown syntax that both link reference definitions and inline links are
made of, and the decoding of escapes and character references in them.

* A backslash before ASCII punctuation stands for that character.
* `&name;` stands for a named character reference, `&#digits;` (one to seven digits) and
  `&#xhex;` (one to six hex digits) for a code point; code point zero and those that are no
  character stand for U+FFFD.
* A link label is `[`, text with no unescaped bracket and not all ASCII white space, and
  `]`. Its length is bounded by a weight below 999: every byte of a character outside ASCII
  weighs one, every ASCII white space character one, an escape two and its escaped
  character's further bytes one each; other ASCII characters weigh nothing. Labels match
  when equal after trimming, collapsing runs of ASCII white space (other white space
  stays) and case folding.
* A link destination is `<...>` without line breaks or unescaped angle brackets, or a
  non-empty run without blanks or control characters whose unescaped parentheses balance.
* A link title is in double quotes, single quotes or parentheses.
-/

namespace Tagweave

namespace Markdown

/-- The character a code point gives in a numeric character reference. -/
def codePointChar (n : Nat) : Char :=
  if n = 0 || (0xD800 ≤ n && n ≤ 0xDFFF) || 0x10FFFF < n then '�' else Char.ofNat n

/-- A character reference at the start of `cs` (which starts with `&`): the characters it
stands for and its length. -/
def entityAt? (cs : List Char) : Option (List Char × Nat) :=
  match cs with
  | '&' :: '#' :: x :: rest =>
    if x = 'x' || x = 'X' then
      let ds := rest.takeWhile isHexDigit
      if 1 ≤ ds.length && ds.length ≤ 6 && (rest.drop ds.length).head? = some ';' then
        some ([codePointChar (ds.foldl (fun acc c => acc * 16 + hexValue c) 0)], ds.length + 4)
      else none
    else
      let ds := (x :: rest).takeWhile isDigit
      if 1 ≤ ds.length && ds.length ≤ 7 && ((x :: rest).drop ds.length).head? = some ';' then
        some ([codePointChar (ds.foldl (fun acc c => acc * 10 + (c.toNat - '0'.toNat)) 0)],
          ds.length + 3)
      else none
  | '&' :: rest =>
    let name := rest.takeWhile isAsciiAlphanumeric
    if name.isEmpty || (rest.drop name.length).head? ≠ some ';' then none
    else (entityChars? (String.ofList name)).map fun chars => (chars, name.length + 2)
  | _ => none

/-- Resolve backslash escapes and character references. -/
def unescape (cs : List Char) : List Char :=
  go cs.length cs []
where
  /-- Resolve with `fuel` steps, each taking at least one character. -/
  go : Nat → List Char → List Char → List Char
    | 0, rest, acc => acc.reverse ++ rest
    | _ + 1, [], acc => acc.reverse
    | fuel + 1, '\\' :: c :: rest, acc =>
      if isAsciiPunctuation c then go fuel rest (c :: acc) else go fuel (c :: rest) ('\\' :: acc)
    | fuel + 1, '&' :: rest, acc =>
      match entityAt? ('&' :: rest) with
      | some (chars, n) => go fuel (('&' :: rest).drop n) (chars.reverse ++ acc)
      | none => go fuel rest ('&' :: acc)
    | fuel + 1, c :: rest, acc => go fuel rest (c :: acc)

/-- The weight of a character in a link label: its bytes when it is outside ASCII, one for
ASCII white space, nothing otherwise. -/
def labelWeight (c : Char) : Nat :=
  if c.toNat < 0x80 then (if isAsciiWhiteSpace c then 1 else 0) else c.utf8Size

/-- A link label at the start of `cs` (which starts with `[`): its content and the length
with the brackets. -/
def linkLabel? (cs : List Char) : Option (List Char × Nat) :=
  match cs with
  | '[' :: rest => go rest [] 0 0
  | _ => none
where
  /-- Read the label content; `n` characters read, of total weight `w`. -/
  go : List Char → List Char → Nat → Nat → Option (List Char × Nat)
    | [], _, _, _ => none
    | '\\' :: d :: more, acc, n, w =>
      if 999 ≤ w then none else go more (d :: '\\' :: acc) (n + 2) (w + 1 + d.utf8Size)
    | c :: rest, acc, n, w =>
      if 999 ≤ w then none
      else if c = ']' then
        if acc.all isAsciiWhiteSpace then none else some (acc.reverse, n + 2)
      else if c = '[' then none
      else go rest (c :: acc) (n + 1) (w + labelWeight c)

/-- The words of a text: its runs of characters that are not ASCII white space. -/
def words (cs : List Char) : List (List Char) :=
  go cs [] []
where
  /-- Collect words; `cur` is the word being read, reversed. -/
  go : List Char → List Char → List (List Char) → List (List Char)
    | [], cur, acc => (if cur.isEmpty then acc else cur.reverse :: acc).reverse
    | c :: rest, cur, acc =>
      if isAsciiWhiteSpace c then go rest [] (if cur.isEmpty then acc else cur.reverse :: acc)
      else go rest (c :: cur) acc

/-- A label as written down for display: trimmed, with inner white space collapsed. -/
def collapseLabel (cs : List Char) : String :=
  String.ofList ([' '].intercalate (words cs))

/-- The matching form of a label: collapsed and case folded. -/
def normalizeLabel (cs : List Char) : String :=
  Unicode.caseFold (collapseLabel cs)

/-- A link destination at the start of `cs`: its raw text and its length. -/
def linkDestination? (cs : List Char) : Option (List Char × Nat) :=
  match cs with
  | '<' :: rest => angled rest [] 1
  | _ => bare cs [] 0 0
where
  /-- Read a destination in angle brackets. -/
  angled : List Char → List Char → Nat → Option (List Char × Nat)
    | [], _, _ => none
    | '\\' :: d :: more, acc, n =>
      if isAsciiPunctuation d then angled more (d :: '\\' :: acc) (n + 2)
      else angled (d :: more) ('\\' :: acc) (n + 1)
    | c :: rest, acc, n =>
      if c = '>' then some (acc.reverse, n + 1)
      else if c = '<' || c = '\n' || c = '\r' then none
      else angled rest (c :: acc) (n + 1)
  /-- Read a bare destination with `depth` open parentheses. -/
  bare : List Char → List Char → Nat → Nat → Option (List Char × Nat)
    | [], acc, n, depth => if n = 0 || depth ≠ 0 then none else some (acc.reverse, n)
    | '\\' :: d :: more, acc, n, depth =>
      if isAsciiPunctuation d then bare more (d :: '\\' :: acc) (n + 2) depth
      else bare (d :: more) ('\\' :: acc) (n + 1) depth
    | c :: rest, acc, n, depth =>
      if c.toNat ≤ 0x20 || c.toNat = 0x7F then
        if n = 0 || depth ≠ 0 then none else some (acc.reverse, n)
      else if c = '(' then
        if 32 ≤ depth then none else bare rest (c :: acc) (n + 1) (depth + 1)
      else if c = ')' then
        if depth = 0 then (if n = 0 then none else some (acc.reverse, n))
        else bare rest (c :: acc) (n + 1) (depth - 1)
      else bare rest (c :: acc) (n + 1) depth

/-- A link title at the start of `cs`: its raw content and its length. A title holds no
blank line. -/
def linkTitle? (cs : List Char) : Option (List Char × Nat) :=
  match cs with
  | '"' :: rest => go '"' rest [] 1 false
  | '\'' :: rest => go '\'' rest [] 1 false
  | '(' :: rest => go ')' rest [] 1 false
  | _ => none
where
  /-- Read up to the closing character; `fresh` right after a line break. -/
  go (close : Char) : List Char → List Char → Nat → Bool → Option (List Char × Nat)
    | [], _, _, _ => none
    | '\\' :: d :: more, acc, n, _ =>
      if d = close then go close more (d :: '\\' :: acc) (n + 2) false
      else if isAsciiPunctuation d then go close more (d :: '\\' :: acc) (n + 2) false
      else go close (d :: more) ('\\' :: acc) (n + 1) false
    | c :: rest, acc, n, fresh =>
      if c = close then some (acc.reverse, n + 1)
      else if close = ')' && c = '(' then none
      else if c = '\n' then
        if fresh then none else go close rest (c :: acc) (n + 1) true
      else go close rest (c :: acc) (n + 1) (fresh && isLineBlank c)

end Markdown

end Tagweave
