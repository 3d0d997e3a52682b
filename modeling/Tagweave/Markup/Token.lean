import Tagweave.Markup.Error
import Tagweave.Markup.Angle
import Tagweave.Unicode.WhiteSpace

/-!
# Tokens

The tokenizer turns one piece of a document (text free of literal `<`) into tokens. It reads
text up to the next `<` or `&`; at `&` it reads an entity reference up to `;`, and a `&` that
reaches another `&`, a `<` or the end first is plain text. At `<` it reads markup by the
character after it:

* `!`: by the next character, a CDATA section (`[`, up to the first `>` after `]]`), a comment
  (`-`, up to the first `>` after `--` at least five characters in), a doctype (`D` or `d`,
  up to its closing `>`: see `doctypeBody`), or else the fault `unknownBang`. A section
  that then does not open as `<![CDATA[`, `<!--` or (in any case) `<!DOCTYPE` is reported
  unclosed.
* `/`: a closing tag, up to the first `>` outside quotes; the name loses trailing blanks.
* `?`: a processing instruction, up to the first `>` preceded by `?` (which may be the
  opening `?` itself, making `<?>` unclosed); one that starts with `xml` and a blank (or is
  exactly `xml`) is a declaration. One that never ends is an unclosed XML declaration when
  `xml` and a blank, a `?` or nothing follow the `<?`, and an unclosed instruction otherwise.
* anything else: a start tag up to the first `>` outside quotes; one ending in `/` is empty.

A byte-order mark at the very start of a piece is dropped, and offsets count from after it.
Every token carries the offset just past it; a fault, the offset where its markup starts
(for a nameless doctype, of its closing `>`).
-/

namespace Tagweave

/-- A token of a document piece. -/
inductive Token where
  /-- Text, as written. -/
  | text (raw : String)
  /-- An entity reference `&name;`, by its name. -/
  | ref (name : String)
  /-- The content of a CDATA section. -/
  | cdata (content : String)
  /-- The content of a comment. -/
  | comment (content : String)
  /-- An XML declaration `<?xml ...?>`, by its content. -/
  | declaration (content : String)
  /-- A processing instruction, by its content. -/
  | instruction (content : String)
  /-- A doctype, by what follows the keyword. -/
  | doctype (content : String)
  /-- A start tag, by everything between `<` and `>`. -/
  | start (content : String)
  /-- An empty-element tag `<.../>`, by everything between `<` and `/>`. -/
  | empty (content : String)
  /-- A closing tag, by its name. -/
  | close (name : String)
  deriving DecidableEq, Repr

/-- The tokens of a piece, each with the offset just past it, and the fault that stopped
reading, if one did, with its offset. -/
structure TokenStream where
  tokens : List (Token × Nat)
  fault : Option (MarkupFault × Nat)

namespace Token

open Angle (byteLength)

/-- The characters of a tag up to (not including) its first `>` outside quotes. -/
def tagBody (cs : List Char) : Option (List Char) :=
  (Angle.tagEnd cs).map fun k => cs.take (k - 1)

/-- The characters before the first `>` that is preceded by `?` (the first character counts). -/
def instructionBody (cs : List Char) : Option (List Char) :=
  let rec go : List Char → Char → List Char → Option (List Char)
    | [], _, _ => none
    | c :: rest, prev, acc =>
      if c = '>' && prev = '?' then some acc.reverse else go rest c (c :: acc)
  match cs with
  | [] => none
  | c :: rest => go rest c [c]

/-- Whether markup opened by `<?` that never ends is an XML declaration: `xml` right after
the `?`, then a blank, a `?` or nothing. -/
def opensXmlDecl (cs : List Char) : Bool :=
  "?xml".toList.isPrefixOf cs && (cs.drop 4).head?.all fun c => Unicode.isMarkupBlank c || c = '?'

/-- The characters before the first `>` at index above four that follows `--`. -/
def commentBody (cs : List Char) : Option (List Char) :=
  let rec go : List Char → Nat → List Char → Option (List Char)
    | [], _, _ => none
    | c :: rest, i, acc =>
      if c = '>' && 4 < i && (acc.take 2 = ['-', '-']) then some acc.reverse
      else go rest (i + 1) (c :: acc)
  go cs 0 []

/-- The characters before the first `>` that follows `]]`. -/
def cdataBody (cs : List Char) : Option (List Char) :=
  let rec go : List Char → List Char → Option (List Char)
    | [], _ => none
    | c :: rest, acc =>
      if c = '>' && (acc.take 2 = [']', ']']) then some acc.reverse else go rest (c :: acc)
  go cs []

/-- Where the search for the `>` that closes a doctype stands. -/
inductive DoctypeState where
  /-- Before the internal subset, inside a quoted literal when `quote` is set. -/
  | before (quote : Option Char)
  /-- In the internal subset `[...]`. -/
  | subset
  /-- Past the `]` of the internal subset. -/
  | after
  /-- In a comment of the internal subset, up to `-->`. -/
  | comment
  /-- In a processing instruction of the internal subset, up to `?>`. -/
  | instruction
  /-- In an element declaration, up to `>`. -/
  | element
  /-- In an attribute list, entity or notation declaration, up to a `>` outside quotes. -/
  | declaration (quote : Option Char)

/-- The characters before the `>` that closes a doctype. Before the internal subset a `>`
closes it unless quoted; in the subset, comments, processing instructions and declarations
are skipped whole (a declaration's quoted text may hold `>`), and after the subset's `]` the
next `>` closes it. -/
def doctypeBody (cs : List Char) : Option (List Char) :=
  (go cs (.before none) 0).map fun n => cs.take n
where
  /-- The index of the closing `>`, reading `cs` from index `i` in state `s`. -/
  go : List Char → DoctypeState → Nat → Option Nat
    | [], _, _ => none
    | c :: rest, s, i =>
      let skip := fun (n : Nat) (s : DoctypeState) => go (rest.drop (n - 1)) s (i + n)
      match s with
      | .before none =>
        if c = '>' then some i
        else if c = '[' then skip 1 .subset
        else if c = '\'' || c = '"' then skip 1 (.before (some c))
        else skip 1 s
      | .before (some q) => skip 1 (if c = q then .before none else s)
      | .subset =>
        if c = ']' then skip 1 .after
        else if c = '<' then
          if rest.take 1 = ['?'] then skip 2 .instruction
          else if rest.take 3 = "!--".toList then skip 4 .comment
          else if rest.take 8 = "!ELEMENT".toList then skip 9 .element
          else if rest.take 7 = "!ENTITY".toList then skip 8 (.declaration none)
          else if rest.take 8 = "!ATTLIST".toList then skip 9 (.declaration none)
          else if rest.take 9 = "!NOTATION".toList then skip 10 (.declaration none)
          else skip 1 s
        else skip 1 s
      | .after => if c = '>' then some i else skip 1 s
      | .comment => if c :: rest.take 2 = "-->".toList then skip 3 .subset else skip 1 s
      | .instruction => if c :: rest.take 1 = "?>".toList then skip 2 .subset else skip 1 s
      | .element => skip 1 (if c = '>' then .subset else s)
      | .declaration none =>
        if c = '>' then skip 1 .subset
        else if c = '\'' || c = '"' then skip 1 (.declaration (some c))
        else skip 1 s
      | .declaration (some q) => skip 1 (if c = q then .declaration none else s)
  termination_by cs => cs.length
  decreasing_by
    all_goals simp only [List.length_cons, List.length_drop]
    all_goals omega

/-- ASCII-case-insensitive prefix test. -/
def startsWithUncased (pre cs : List Char) : Bool :=
  pre.length ≤ cs.length && (cs.take pre.length).map Char.toLower == pre.map Char.toLower

/-- The state of the tokenizer between tokens. -/
inductive Mode where
  /-- Reading text. -/
  | text
  /-- At an `&`. -/
  | ref
  /-- Just past a `<`. -/
  | markup

/-- What the markup after a `<` is: a token and the number of characters it takes, or a fault
with its offset. `pos` is the offset just past the `<`. -/
def readMarkup (cs : List Char) (pos : Nat) : Except (MarkupFault × Nat) (Token × Nat) :=
  let at_ := pos - 1
  match cs with
  | [] => .error (.unclosedTag, at_)
  | '!' :: r =>
    let taken := fun (body : List Char) => body.length + 1
    match r with
    | '[' :: _ =>
      match cdataBody cs with
      | none => .error (.unclosedCData, at_)
      | some body =>
        if "![CDATA[".toList.isPrefixOf body then
          .ok (.cdata (String.ofList ((body.drop 8).take (body.length - 10))), taken body)
        else .error (.unclosedCData, at_)
    | '-' :: _ =>
      match commentBody cs with
      | none => .error (.unclosedComment, at_)
      | some body =>
        if "!--".toList.isPrefixOf body then
          .ok (.comment (String.ofList ((body.drop 3).take (body.length - 5))), taken body)
        else .error (.unclosedComment, at_)
    | c :: _ =>
      if c = 'D' || c = 'd' then
        match doctypeBody cs with
        | none => .error (.unclosedDoctype, at_)
        | some body =>
          if startsWithUncased "!DOCTYPE".toList body then
            let name := (body.drop 8).dropWhile Unicode.isMarkupBlank
            if name.isEmpty then .error (.missingDoctypeName, pos + byteLength body)
            else .ok (.doctype (String.ofList name), taken body)
          else .error (.unclosedDoctype, at_)
      else .error (.unknownBang, at_)
    | [] => .error (.unknownBang, at_)
  | '/' :: _ =>
    match tagBody cs with
    | none => .error (.unclosedTag, at_)
    | some body =>
      let name := body.drop 1
      let trimmed := Unicode.dropTrailing Unicode.isMarkupBlank name
      let name := if trimmed.isEmpty then name else trimmed
      .ok (.close (String.ofList name), body.length + 1)
  | '?' :: _ =>
    match instructionBody cs with
    | none => .error (if opensXmlDecl cs then .unclosedXmlDecl else .unclosedInstruction, at_)
    | some body =>
      if 1 < body.length && body.getLast? = some '?' then
        let content := (body.drop 1).take (body.length - 2)
        let isDecl := "xml".toList.isPrefixOf content &&
          (content.length = 3 || (content.drop 3).head?.any Unicode.isMarkupBlank)
        let token := if isDecl then Token.declaration (String.ofList content)
          else Token.instruction (String.ofList content)
        .ok (token, body.length + 1)
      else .error (.unclosedInstruction, at_)
  | _ =>
    match tagBody cs with
    | none => .error (.unclosedTag, at_)
    | some body =>
      if body.getLast? = some '/' then
        .ok (.empty (String.ofList body.dropLast), body.length + 1)
      else .ok (.start (String.ofList body), body.length + 1)

/-- Orders the modes for termination: text hands over to a reference without reading. -/
def Mode.rank : Mode → Nat
  | .text => 2
  | .ref => 1
  | .markup => 0

/-- Markup that is read takes at least one character. -/
theorem readMarkup_shrinks {cs : List Char} {pos used : Nat} {token : Token}
    (h : readMarkup cs pos = .ok (token, used)) : (cs.drop used).length < cs.length := by
  cases cs with
  | nil => simp [readMarkup] at h
  | cons c r =>
    -- every markup that is read reports its body's length plus one
    have hused : 0 < used := by
      unfold readMarkup at h
      repeat' split at h
      all_goals
        simp only [Except.ok.injEq, Prod.mk.injEq, reduceCtorEq] at h
        try split at h
        all_goals grind
    simp only [List.length_drop, List.length_cons]
    omega

-- the hypotheses the matches name are read by the termination proof only
set_option linter.unusedVariables false in
/-- Read tokens from `cs` in mode `mode`, `pos` being the offset of `cs`. -/
def readFrom : Mode → List Char → Nat → List (Token × Nat) → TokenStream
  | .text, cs, pos, acc =>
    let body := cs.takeWhile (fun c => c ≠ '<' && c ≠ '&')
    let pos := pos + byteLength body
    match hrest : cs.drop body.length with
    | [] => ⟨(if body.isEmpty then acc else (.text (String.ofList body), pos) :: acc).reverse, none⟩
    | '<' :: r =>
      let acc := if body.isEmpty then acc else (.text (String.ofList body), pos + 1) :: acc
      readFrom .markup r (pos + 1) acc
    | c :: r =>
      let acc := if body.isEmpty then acc else (.text (String.ofList body), pos) :: acc
      readFrom .ref (c :: r) pos acc
  | .ref, cs, pos, acc =>
    let body := (cs.drop 1).takeWhile (fun c => c ≠ ';' && c ≠ '&' && c ≠ '<')
    let pos := pos + 1 + byteLength body
    let asText := Token.text (String.ofList ('&' :: body))
    match hrest : (cs.drop 1).drop body.length with
    | ';' :: r => readFrom .text r (pos + 1) ((.ref (String.ofList body), pos + 1) :: acc)
    | '<' :: r => readFrom .markup r (pos + 1) ((asText, pos + 1) :: acc)
    | [] => ⟨((asText, pos) :: acc).reverse, none⟩
    | c :: r => readFrom .ref (c :: r) pos ((asText, pos) :: acc)
  | .markup, cs, pos, acc =>
    match h : readMarkup cs pos with
    | .error fault => ⟨acc.reverse, some fault⟩
    | .ok (token, used) =>
      let pos := pos + byteLength (cs.take used)
      readFrom .text (cs.drop used) pos ((token, pos) :: acc)
termination_by mode cs => 3 * cs.length + mode.rank
decreasing_by
  all_goals simp only [Mode.rank]
  all_goals
    first
    | have hshrink := readMarkup_shrinks h
      omega
    | have hlen := congrArg List.length hrest
      simp only [List.length_drop, List.length_cons] at hlen ⊢
      omega

end Token

/-- The tokens of one piece of a document. A leading byte-order mark is dropped without
counting. -/
def TokenStream.read (cs : List Char) : TokenStream :=
  let cs := match cs with
    | '\uFEFF' :: rest => rest
    | _ => cs
  Token.readFrom .text cs 0 []

end Tagweave
