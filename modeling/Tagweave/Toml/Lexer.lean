/-!
# TOML tokens

A TOML text is first cut into tokens. Positions are character indices into the text; a span
is a half-open range of them.

* `.`, `=`, `,`, `[`, `]`, `{`, `}` are tokens of their own;
* a run of spaces and tabs is white space (so is a byte order mark at the start), `#` starts
  a comment that runs to the end of the line, and `\n` or `\r\n` (or a lone `\r`, which the
  reader refuses) is a line break;
* `'` starts a literal string that ends at the next `'` or before the end of the line, `'''`
  a multi-line literal string; `"` starts a basic string that ends at the next unescaped `"`
  or before the end of the line, `"""` a multi-line basic string; a multi-line string that is
  never closed runs to the end of the text;
* everything else is an atom: a run of characters up to one of the characters above, so
  that `1.5` is the atom `1`, a dot and the atom `5`.

The reader that follows puts such pieces back together where a value needs them.
-/

namespace Tagweave

namespace Toml

/-- A range of character positions, `start` included and `stop` excluded. -/
structure Span where
  start : Nat
  stop : Nat
  deriving DecidableEq, Repr, Inhabited

/-- The empty span just before a span. -/
def Span.before (s : Span) : Span := ⟨s.start, s.start⟩

/-- The empty span just after a span. -/
def Span.after (s : Span) : Span := ⟨s.stop, s.stop⟩

/-- The span from the start of one span to the end of another. -/
def Span.join (a b : Span) : Span := ⟨a.start, b.stop⟩

/-- The kinds of token. -/
inductive TokenKind where
  | dot
  | equals
  | comma
  | leftBracket
  | rightBracket
  | leftBrace
  | rightBrace
  | whitespace
  | comment
  | newline
  | literalString
  | basicString
  | mlLiteralString
  | mlBasicString
  | atom
  | eof
  deriving DecidableEq, Repr, Inhabited

/-- A token: its kind and where it is. -/
structure Token where
  kind : TokenKind
  span : Span
  deriving Repr, Inhabited

/-- Whether a token is a string of any kind. -/
def TokenKind.isString : TokenKind → Bool
  | .literalString | .basicString | .mlLiteralString | .mlBasicString => true
  | _ => false

/-- The characters that end an atom. -/
def isAtomEnd (c : Char) : Bool := ".=,[]\x7b\x7d \t#\r\n'\"".toList.contains c

/-- The length of a single-line literal string body after its opening quote: through the
closing quote, or up to the end of the line. -/
def literalLength (cs : List Char) : Nat :=
  let body := cs.takeWhile fun c => c ≠ '\'' && c ≠ '\n'
  match cs.drop body.length with
  | '\'' :: _ => body.length + 1
  | _ => body.length

/-- The length of a single-line basic string body after its opening quote. -/
def basicLength : List Char → Nat
  | [] => 0
  | '"' :: _ => 1
  | '\n' :: _ => 0
  | '\\' :: '\\' :: rest => 2 + basicLength rest
  | '\\' :: '"' :: rest => 2 + basicLength rest
  | _ :: rest => 1 + basicLength rest

/-- The length of a multi-line string body after its opening delimiter `q q q`: through the
closing delimiter (which may take up to two more quotes), or to the end. -/
def multilineLength (q : Char) (escapes : Bool) : List Char → Nat
  | [] => 0
  | c :: rest =>
    if escapes && c = '\\' then
      match rest with
      | _ :: more => 2 + multilineLength q escapes more
      | [] => 1
    else if c = q && rest.take 2 = [q, q] then
      let extra := ((rest.drop 2).takeWhile (· = q)).length
      3 + min extra 2
    else 1 + multilineLength q escapes rest

/-- Cut a text into tokens, ending with an end-of-text token. A byte order mark at the start
is white space. -/
def tokenize (src : List Char) : List Token :=
  match src with
  | '\uFEFF' :: rest => go rest.length rest 1 [⟨.whitespace, ⟨0, 1⟩⟩]
  | _ => go src.length src 0 []
where
  /-- Cut `cs`, which starts at position `pos`, with at most `fuel` tokens. -/
  go : Nat → List Char → Nat → List Token → List Token
    | 0, _, pos, acc => (⟨.eof, ⟨pos, pos⟩⟩ :: acc).reverse
    | _ + 1, [], pos, acc => (⟨.eof, ⟨pos, pos⟩⟩ :: acc).reverse
    | fuel + 1, c :: rest, pos, acc =>
      let cs := c :: rest
      let single := fun (k : TokenKind) => go fuel rest (pos + 1) (⟨k, ⟨pos, pos + 1⟩⟩ :: acc)
      let take := fun (k : TokenKind) (n : Nat) =>
        let n := max n 1
        go fuel (cs.drop n) (pos + n) (⟨k, ⟨pos, pos + n⟩⟩ :: acc)
      match c with
      | '.' => single .dot
      | '=' => single .equals
      | ',' => single .comma
      | '[' => single .leftBracket
      | ']' => single .rightBracket
      | '{' => single .leftBrace
      | '}' => single .rightBrace
      | ' ' | '\t' => take .whitespace (cs.takeWhile fun d => d = ' ' || d = '\t').length
      | '#' => take .comment (cs.takeWhile fun d => d ≠ '\n' && d ≠ '\r').length
      | '\n' => single .newline
      | '\r' => take .newline (if rest.head? = some '\n' then 2 else 1)
      | '\'' =>
        if rest.take 2 = ['\'', '\''] then take .mlLiteralString (3 + multilineLength '\'' false (rest.drop 2))
        else take .literalString (1 + literalLength rest)
      | '"' =>
        if rest.take 2 = ['"', '"'] then take .mlBasicString (3 + multilineLength '"' true (rest.drop 2))
        else take .basicString (1 + basicLength rest)
      | _ => take .atom (cs.takeWhile fun d => !isAtomEnd d).length

end Toml

end Tagweave
