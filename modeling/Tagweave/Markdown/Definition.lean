import Tagweave.Markdown.LinkSyntax

/-!
# Link reference definitions

A paragraph may start with link reference definitions `[label]: destination "title"`; they
are taken out of it, and what is left (if anything) stays a paragraph.

A definition is a label, a colon, blanks with at most one line break, a destination, and
optionally a title separated from the destination by blanks (again at most one line break);
after the title, or after the destination when the title does not work out, only blanks may
follow on the line. The first definition of a label wins.
-/

namespace Tagweave

namespace Markdown

/-- Where a link points: destination and title, escapes resolved. -/
structure LinkTarget where
  dest : String
  title : String
  deriving DecidableEq, Repr

/-- Skip blanks with at most one line break; none when a second break (a blank line) comes. -/
def skipBlanksOneBreak (cs : List Char) : Nat :=
  let a := (cs.takeWhile isLineBlank).length
  match cs.drop a with
  | '\n' :: rest => a + 1 + (rest.takeWhile isLineBlank).length
  | _ => a

/-- The rest of the text after the current line, when the line has only blanks left. -/
def restOfLine? (cs : List Char) : Option (List Char) :=
  let a := (cs.takeWhile isLineBlank).length
  match cs.drop a with
  | [] => some []
  | '\n' :: rest => some rest
  | _ => none

/-- One definition at the start of `cs`: its normalized label, its target and the text after
it. -/
def definition? (cs : List Char) : Option (String × LinkTarget × List Char) := do
  let (label, n) ← linkLabel? cs
  let afterLabel := cs.drop n
  match afterLabel with
  | ':' :: rest =>
    let rest := rest.drop (skipBlanksOneBreak rest)
    let (rawDest, d) ← linkDestination? rest
    if d = 0 then none
    let afterDest := rest.drop d
    let dest := String.ofList (unescape rawDest)
    let gap := skipBlanksOneBreak afterDest
    let titled : Option (LinkTarget × List Char) :=
      if gap = 0 then none
      else match linkTitle? (afterDest.drop gap) with
        | some (rawTitle, t) =>
          (restOfLine? (afterDest.drop (gap + t))).map fun more =>
            (⟨dest, String.ofList (unescape rawTitle)⟩, more)
        | none => none
    match titled with
    | some (target, more) => some (normalizeLabel label, target, more)
    | none =>
      let more ← restOfLine? afterDest
      some (normalizeLabel label, ⟨dest, ""⟩, more)
  | _ => none

/-- Take the definitions from the start of a paragraph's text (at most `fuel` of them):
the definitions in order and the text left. -/
def takeDefinitions : Nat → List Char → List (String × LinkTarget) × List Char
  | 0, cs => ([], cs)
  | fuel + 1, cs =>
    match definition? cs with
    | some (label, target, rest) =>
      let (more, left) := takeDefinitions fuel rest
      ((label, target) :: more, left)
    | none => ([], cs)

end Markdown

end Tagweave
