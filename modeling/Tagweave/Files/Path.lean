/-!
# Paths

Paths are texts with `/` between their parts, as the operating system takes them.

* `Path.join base p` is `p` when `p` is absolute, and otherwise `p` after `base` with one
  `/` between them (none when `base` is empty or already ends with `/`), so an empty `p`
  gives `base` with a trailing `/`.
* `Path.parent p` drops the last part of `p` and the `/`s and `.` parts before it. Empty
  parts and `.` parts are no parts, except a leading `.`: the parent of `a/./b` is `a`, of
  `a/b/.` also `a`, of `./b` it is `.`. The root and the empty path have no parent, and a
  relative path of one part has the empty path as its parent.
-/

namespace Tagweave

namespace Path

/-- Whether a path is absolute. -/
def isAbsolute (p : String) : Bool := p.startsWith "/"

/-- A path resolved against a base. -/
def join (base p : String) : String :=
  if isAbsolute p || base.isEmpty then p
  else if base.endsWith "/" then base ++ p
  else base ++ "/" ++ p

/-- Drop trailing characters while they satisfy `p`. -/
def dropTrailingWhile (p : Char → Bool) (cs : List Char) : List Char :=
  (cs.reverse.dropWhile p).reverse

/-- The length of the part of a path that no parent drops: the root `/`, or a leading `.`
part. -/
def leadLength (cs : List Char) : Nat :=
  match cs with
  | '/' :: _ => 1
  | ['.'] | '.' :: '/' :: _ => 1
  | _ => 0

/-- Drop trailing `/`s and `.` parts, keeping the first `lead` characters; at most `fuel`
steps. -/
def trimTrailing (lead : Nat) : Nat → List Char → List Char
  | 0, cs => cs
  | fuel + 1, cs =>
    if cs.length ≤ lead then cs
    else if cs.getLast? = some '/' then trimTrailing lead fuel cs.dropLast
    else if cs.getLast? = some '.' &&
        (cs.length = lead + 1 || cs[cs.length - 2]? = some '/') then
      trimTrailing lead fuel cs.dropLast
    else cs

/-- The path without its last part, the parts being what lies between the `/`s except empty
ones and `.` ones other than a leading `.`; none for the root or the empty path. -/
def parent (p : String) : Option String :=
  let cs := p.toList
  let lead := leadLength cs
  let body := trimTrailing lead cs.length cs
  if body.length ≤ lead then
    if lead = 1 && cs.head? ≠ some '/' then some "" else none
  else
    let head := dropTrailingWhile (· ≠ '/') body
    some (String.ofList (trimTrailing lead head.length head))

/-- The parts of a path between its `/`s, empty ones left out. -/
def parts (p : String) : List String :=
  ((p.toList.splitOn '/').filter (· ≠ [])).map String.ofList

/-- The directory and its ancestors, nearest first, down to the root: the places searched for
a file from a working directory. -/
def ancestors (dir : String) : List String :=
  go (dir.length + 1) dir
where
  /-- At most `fuel` more steps. -/
  go : Nat → String → List String
    | 0, _ => []
    | fuel + 1, d =>
      match parent d with
      | some up => d :: go fuel up
      | none => [d]

end Path

end Tagweave
