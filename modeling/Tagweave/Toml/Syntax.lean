import Tagweave.Toml.Lexer

/-!
# TOML syntax

The reader turns tokens into expressions: key/value pairs, table headers `[key]` and
array-of-tables headers `[[key]]`. Values are kept as written (scalars by their span);
decoding them is the next step. Reading stops at the first syntax error, which is what gets
reported: the reader goes from left to right, so no earlier error can be missed.

Each error has a fixed wording: `key with no value`,
`unexpected key or value`, `unclosed table`, `unclosed array`, and so on, each with the list
of what was expected.
-/

namespace Tagweave

namespace Toml

/-- A part of a dotted key as written: a bare atom or a string. An empty atom stands for a
missing key part. -/
structure KeyPart where
  span : Span
  kind : TokenKind
  deriving Repr

/-- A value as written. -/
inductive Value where
  /-- A string, or an unquoted scalar (number, boolean, date and time). -/
  | scalar (span : Span) (kind : TokenKind)
  | array (span : Span) (items : List Value)
  | inlineTable (span : Span) (entries : List (List KeyPart × Value))
  deriving Repr

/-- The span of a value as written. -/
def Value.span : Value → Span
  | .scalar s _ | .array s _ | .inlineTable s _ => s

/-- A line of a TOML document. -/
inductive Expression where
  | keyValue (key : List KeyPart) (value : Value)
  | table (key : List KeyPart) (header : Span)
  | arrayTable (key : List KeyPart) (header : Span)
  deriving Repr

/-- A reading error: what went wrong, what was expected (already written out) and where. -/
structure ParseError where
  description : String
  expected : List String
  span : Span
  deriving Repr

/-- The tokens still to read. -/
abbrev Tokens := List Token

/-- The result of a reading step: a result and the tokens left, or an error. -/
abbrev Step (α : Type) := Except ParseError (α × Tokens)

/-- Skip white space tokens. -/
def skipWhitespace : Tokens → Tokens
  | t :: rest => if t.kind = .whitespace then skipWhitespace rest else t :: rest
  | [] => []

/-- The end-of-text token. -/
def endToken (ts : Tokens) : Token :=
  match ts.getLast? with
  | some t => t
  | none => ⟨.eof, ⟨0, 0⟩⟩

/-- The next token (the end-of-text token when nothing is left). -/
def peek (ts : Tokens) : Token := ts.headD ⟨.eof, ⟨0, 0⟩⟩

/-- Fail with an error. -/
def failWith {α : Type} (description : String) (expected : List String) (span : Span) : Step α :=
  .error ⟨description, expected, span⟩

/-- A fake empty key part just before a token. -/
def emptyKey (t : Token) : KeyPart := ⟨t.span.before, .atom⟩

/-- Read the rest of a dotted key after its first part: `.`-separated parts with optional
white space. -/
def dottedKeys : Nat → Tokens → List KeyPart × Tokens
  | 0, ts => ([], ts)
  | fuel + 1, ts =>
    let ts := skipWhitespace ts
    match ts with
    | d :: rest =>
      if d.kind = .dot then
        match part fuel rest with
        | (some p, rest) =>
          let (more, rest) := dottedKeys fuel rest
          (p :: more, rest)
        | (none, rest) => ([emptyKey (peek rest)], rest)
      else ([], ts)
    | [] => ([], ts)
where
  /-- The key part after a dot. -/
  part : Nat → Tokens → Option KeyPart × Tokens
    | 0, ts => (none, ts)
    | fuel + 1, t :: rest =>
      match t.kind with
      | .whitespace => part fuel rest
      | .atom | .literalString | .basicString | .mlLiteralString | .mlBasicString =>
        (some ⟨t.span, t.kind⟩, rest)
      | .dot => (some (emptyKey t), t :: rest)
      | _ => (none, t :: rest)
    | _, [] => (none, [])

/-- After a value or header: white space, then a comment, a line break or the end. -/
def lineEnd (ts : Tokens) : Step Unit :=
  match skipWhitespace ts with
  | t :: rest =>
    match t.kind with
    | .comment => .ok ((), rest)
    | .newline => .ok ((), rest)
    | .eof => .ok ((), t :: rest)
    | _ => failWith "unexpected key or value" ["newline", "`#`"] t.span.before
  | [] => .ok ((), [])

/-- Skip to the end of the line (its line break is left). -/
def skipLine : Tokens → Tokens
  | t :: rest => if t.kind = .newline || t.kind = .eof then t :: rest else skipLine rest
  | [] => []

/-- The span of an unquoted scalar: the atom and the dots and atoms right after it, and for a
date followed by one space and a time, the time too. -/
def scalarRun (src : List Char) (first : Token) (ts : Tokens) : Span × Tokens :=
  let (span, rest) := glue first.span ts
  let text := (src.drop span.start).take (span.stop - span.start)
  let isDate := text.length = 10 && text.getD 4 ' ' = '-' && text.getD 7 ' ' = '-'
  match rest with
  | w :: a :: more =>
    let atomText := (src.drop a.span.start).take (a.span.stop - a.span.start)
    if isDate && w.kind = .whitespace && w.span.stop = w.span.start + 1 &&
        src.getD w.span.start 'x' = ' ' && a.kind = .atom && atomText.getD 2 ' ' = ':' then
      let (timeSpan, more) := glue a.span more
      (span.join timeSpan, more)
    else (span, rest)
  | _ => (span, rest)
where
  /-- Take the dots and atoms that follow. -/
  glue (span : Span) : Tokens → Span × Tokens
    | t :: rest => if t.kind = .dot || t.kind = .atom then glue (span.join t.span) rest else (span, t :: rest)
    | [] => (span, [])

mutual
/-- Read a value. -/
def readValue (src : List Char) : Nat → Tokens → Step Value
  | 0, ts => failWith "missing value" ["value"] (peek ts).span.before
  | fuel + 1, ts =>
    match ts with
    | [] => failWith "missing value" ["value"] ⟨0, 0⟩
    | t :: rest =>
      match t.kind with
      | .comment | .comma | .newline | .eof | .whitespace =>
        failWith "missing value" ["value"] t.span.before
      | .equals => failWith "extra `=`" [] t.span
      | .rightBrace => failWith "missing inline table opening" ["`\x7b`"] t.span.before
      | .rightBracket => failWith "missing array opening" ["`[`"] t.span.before
      | .leftBrace => readInlineTable src fuel t rest
      | .leftBracket => readArray src fuel t rest
      | .atom | .dot =>
        let (span, rest) := scalarRun src t rest
        .ok (.scalar span .atom, rest)
      | k => .ok (.scalar t.span k, rest)

/-- Read an array after its `[`; `needsComma` after an element. -/
def readArray (src : List Char) : Nat → Token → Tokens → Step Value
  | 0, _, ts => failWith "unclosed array" ["`]`"] (peek ts).span
  | fuel + 1, opening, ts =>
    readItems src fuel opening false [] ts

/-- Read array elements. -/
def readItems (src : List Char) : Nat → Token → Bool → List Value → Tokens → Step Value
  | 0, _, _, _, ts => failWith "unclosed array" ["`]`"] (peek ts).span
  | fuel + 1, opening, needsComma, acc, ts =>
    match ts with
    | [] => failWith "unclosed array" ["`]`"] ⟨0, 0⟩
    | t :: rest =>
      match t.kind with
      | .comment | .whitespace | .newline => readItems src fuel opening needsComma acc rest
      | .eof => failWith "unclosed array" ["`]`"] t.span
      | .equals => failWith "unexpected `=` in array" ["value", "`]`"] t.span
      | .comma =>
        if needsComma then readItems src fuel opening false acc rest
        else failWith "extra comma in array" ["value"] t.span
      | .rightBracket => .ok (.array (opening.span.join t.span) acc.reverse, rest)
      | _ =>
        if needsComma then failWith "missing comma between array elements" ["`,`"] t.span.before
        else
          match readValue src fuel (t :: rest) with
          | .ok (v, rest) => readItems src fuel opening true (v :: acc) rest
          | .error e => .error e

/-- Read an inline table after its `{`. -/
def readInlineTable (src : List Char) : Nat → Token → Tokens → Step Value
  | 0, _, ts => failWith "unclosed inline table" ["`\x7d`"] (peek ts).span
  | fuel + 1, opening, ts => readEntries src fuel opening 0 [] none ts

/-- Read inline table entries; `state` is 0 when a key is needed, 1 when `=` is, 2 when a
value is and 3 when a comma is. `pending` is the key read so far. -/
def readEntries (src : List Char) : Nat → Token → Nat → List (List KeyPart × Value) →
    Option (List KeyPart) → Tokens → Step Value
  | 0, _, _, _, _, ts => failWith "unclosed inline table" ["`\x7d`"] (peek ts).span
  | fuel + 1, opening, state, acc, pending, ts =>
    match ts with
    | [] => failWith "unclosed inline table" ["`\x7d`"] ⟨0, 0⟩
    | t :: rest =>
      match t.kind with
      | .whitespace => readEntries src fuel opening state acc pending rest
      | .comment => failWith "comments are unsupported in inline tables" [] t.span
      | .newline => failWith "newlines are unsupported in inline tables" [] t.span
      | .eof => failWith "unclosed inline table" ["`\x7d`"] t.span
      | .comma =>
        if state = 3 then readEntries src fuel opening 0 acc none rest
        else failWith "extra comma in inline table" ["key"] t.span.before
      | .equals =>
        if state = 0 then readEntries src fuel opening 2 acc (some [emptyKey t]) rest
        else if state = 1 then readEntries src fuel opening 2 acc pending rest
        else failWith "extra assignment between key-value pairs" [] t.span.before
      | .rightBrace =>
        if !acc.isEmpty && state ≠ 3 || (acc.isEmpty && state ≠ 0) then
          failWith "trailing commas are not supported in inline tables" [] t.span.before
        else .ok (.inlineTable (opening.span.join t.span) acc.reverse, rest)
      | _ =>
        if state = 0 then
          if t.kind = .atom || t.kind.isString || t.kind = .dot then
            let first := if t.kind = .dot then emptyKey t else ⟨t.span, t.kind⟩
            let ts' := if t.kind = .dot then t :: rest else rest
            let (more, rest) := dottedKeys ts'.length ts'
            readEntries src fuel opening 1 acc (some (first :: more)) rest
          else failWith "missing key for inline table element" ["key"] t.span.before
        else if state = 1 then failWith "missing assignment between key-value pairs" ["`=`"] t.span.before
        else if state = 3 then failWith "missing comma between key-value pairs" ["`,`"] t.span.before
        else
          match readValue src fuel (t :: rest) with
          | .ok (v, rest) => readEntries src fuel opening 3 ((pending.getD [], v) :: acc) none rest
          | .error e => .error e
end

/-- Read the key of a table header. -/
def headerKey (ts : Tokens) : List KeyPart × Bool × Tokens :=
  match skipWhitespace ts with
  | t :: rest =>
    match t.kind with
    | .atom | .literalString | .basicString | .mlLiteralString | .mlBasicString =>
      let (more, rest) := dottedKeys rest.length rest
      (⟨t.span, t.kind⟩ :: more, true, rest)
    | .dot =>
      let (more, rest) := dottedKeys (t :: rest).length (t :: rest)
      (emptyKey t :: more, false, rest)
    | _ => ([emptyKey t], false, t :: rest)
  | [] => ([], false, [])

/-- The last token before `ts` in `all` that is not white space. -/
def lastKeyToken (consumed : Tokens) (fallback : Token) : Token :=
  (consumed.reverse.find? fun t => t.kind ≠ .whitespace).getD fallback

/-- Read a table header after its `[`. -/
def readHeader (opening : Token) (ts : Tokens) : Step Expression :=
  let (isArray, ts, openSpan) := match ts with
    | t :: rest => if t.kind = TokenKind.leftBracket && t.span.start = opening.span.stop then (true, rest, opening.span.join t.span)
      else (false, t :: rest, opening.span)
    | [] => (false, [], opening.span)
  let before := ts
  let (key, valid, afterKey) := headerKey ts
  let consumed := before.take (before.length - afterKey.length)
  let rest := skipWhitespace afterKey
  match rest with
  | c :: more =>
    if c.kind = TokenKind.rightBracket then
      if isArray then
        match more with
        | c2 :: more2 =>
          if c2.kind = TokenKind.rightBracket && c2.span.start = c.span.stop then
            .ok (.arrayTable key (openSpan.join c2.span), more2)
          else failWith "unclosed array table" ["`]`"] c.span.after
        | [] => failWith "unclosed array table" ["`]`"] c.span.after
      else .ok (.table key (openSpan.join c.span), more)
    else if valid then
      let last := lastKeyToken consumed opening
      if isArray then failWith "unclosed array table" ["`]]`"] last.span.after
      else failWith "unclosed table" ["`]`"] last.span.after
    else .ok (.table key openSpan, skipLine (c :: more))
  | [] => failWith "unclosed table" ["`]`"] opening.span.after

/-- Read a key/value line starting with its first key token. -/
def readKeyValue (src : List Char) (first : KeyPart) (ts : Tokens) : Step Expression :=
  let (more, rest) := dottedKeys ts.length ts
  let key := first :: more
  match skipWhitespace rest with
  | t :: rest =>
    if t.kind = .equals then
      match readValue src (rest.length + 1) (skipWhitespace rest) with
      | .ok (v, rest) =>
        match lineEnd rest with
        | .ok ((), rest) => .ok (.keyValue key v, rest)
        | .error e => .error e
      | .error e => .error e
    else failWith "key with no value" ["`=`"] t.span.before
  | [] => failWith "key with no value" ["`=`"] ⟨0, 0⟩

/-- The first problem of a line break or comment token: a carriage return not followed by a
line feed, or a control character (other than tab) in a comment. -/
def layoutError? (src : List Char) : List Token → Option ParseError
  | [] => none
  | t :: rest =>
    let text := (src.drop t.span.start).take (t.span.stop - t.span.start)
    match t.kind with
    | .newline =>
      if text = ['\r'] then some ⟨"carriage return must be followed by newline", ["newline"], t.span.after⟩
      else layoutError? src rest
    | .comment =>
      match text.findIdx? fun c => c ≠ '\t' && (c.toNat < 0x20 || c.toNat = 0x7F) with
      | some i =>
        some ⟨"invalid comment character", ["printable characters"], ⟨t.span.start + i, t.span.start + i⟩⟩
      | none => layoutError? src rest
    | _ => layoutError? src rest

/-- Read a whole document, stopping at the first error. Line breaks and comments are checked
as they come, so a problem in one counts when it comes before the first syntax error. -/
def readDocument (src : List Char) : Except ParseError (List Expression) :=
  let tokens := tokenize src
  let result := go tokens.length tokens []
  match layoutError? src tokens, result with
  | some e, .ok _ => .error e
  | some e, .error err => .error (if e.span.start ≤ err.span.start then e else err)
  | none, r => r
where
  /-- Read expressions, at most `fuel` steps. -/
  go : Nat → Tokens → List Expression → Except ParseError (List Expression)
    | 0, _, acc => .ok acc.reverse
    | _ + 1, [], acc => .ok acc.reverse
    | fuel + 1, t :: rest, acc =>
      let next := fun (r : Step Expression) => match r with
        | .ok (e, rest) =>
          match e with
          | .keyValue _ _ => go fuel rest (e :: acc)
          | _ =>
            match lineEnd rest with
            | .ok ((), rest) => go fuel rest (e :: acc)
            | .error err => .error err
        | .error err => .error err
      match t.kind with
      | .eof => .ok acc.reverse
      | .whitespace | .newline | .comment => go fuel rest acc
      | .leftBracket => next (readHeader t rest)
      | .rightBracket => .error ⟨"missing table open", ["`[`"], t.span.before⟩
      | .atom | .literalString | .basicString | .mlLiteralString | .mlBasicString =>
        next (readKeyValue src ⟨t.span, t.kind⟩ rest)
      | .equals => next (readKeyValue src (emptyKey t) (t :: rest))
      | .dot => next (readKeyValue src (emptyKey t) (t :: rest))
      | .comma | .leftBrace | .rightBrace => .error ⟨"invalid key-value pair", ["key"], t.span.before⟩

end Toml

end Tagweave
