import Tagweave.Binary64.Basic

/-!
# Similar names

A mistyped subcommand or option is answered with the most similar known name. Similarity is
the Jaro similarity of the two names, computed in double precision:

* two characters match when they are equal and their positions differ by less than half the
  longer name's length (a window of `max len / 2 - 1`), each character of either name
  matching at most once, the first free one in the window;
* `t` is half the number of places where the matched characters of the two names, taken in
  order, differ;
* with `m` matches the similarity is `(m / |a| + m / |b| + (m - t) / m) / 3`, and `0` when
  nothing matches.

A name is suggested when its similarity exceeds `0.7`; of several, the most similar one, and
of equally similar ones the last.
-/

namespace Tagweave

namespace Similarity

/-- Which characters of `a` and of `b` are matched. -/
def matchFlags (a b : List Char) : List Bool × List Bool :=
  let window := max a.length b.length / 2 - 1
  (List.range a.length).foldl (fun (fa, fb) i =>
    let c := a.getD i ' '
    let lo := i - window
    let hi := min b.length (i + window + 1)
    match (List.range hi).find? (fun j => lo ≤ j && b.getD j ' ' == c && !fb.getD j true) with
    | some j => (fa.set i true, fb.set j true)
    | none => (fa, fb)) (List.replicate a.length false, List.replicate b.length false)

/-- The characters whose flag is set, in order. -/
def flagged (cs : List Char) (flags : List Bool) : List Char :=
  ((cs.zip flags).filter (·.2)).map (·.1)

/-- The sum of two nonnegative finite doubles, rounded. -/
def addPositive (x y : Binary64) : Binary64 :=
  let (a, b) := x.ratio
  let (c, d) := y.ratio
  Binary64.ofRatio false (a * d + c * b) (b * d)

/-- The Jaro similarity of two names, in double precision. -/
def jaro (a b : String) : Binary64 :=
  let xs := a.toList
  let ys := b.toList
  if xs.isEmpty && ys.isEmpty then Binary64.ofInt 1
  else if xs.isEmpty || ys.isEmpty then Binary64.ofInt 0
  else
    let (fa, fb) := matchFlags xs ys
    let ma := flagged xs fa
    let mb := flagged ys fb
    let m := ma.length
    if m = 0 then Binary64.ofInt 0
    else
      let t := ((ma.zip mb).filter fun (p, q) => p ≠ q).length / 2
      let sum := addPositive (addPositive (Binary64.ofRatio false m xs.length)
        (Binary64.ofRatio false m ys.length)) (Binary64.ofRatio false (m - t) m)
      Binary64.div sum (Binary64.ofInt 3)

/-- Whether one nonnegative finite double is below another. -/
def below (x y : Binary64) : Bool :=
  let (a, b) := x.ratio
  let (c, d) := y.ratio
  a * d < c * b

/-- The double nearest to `0.7`. -/
def threshold : Binary64 := Binary64.ofRatio false 7 10

/-- The most similar of the candidates whose similarity to `name` exceeds `0.7`; of equally
similar ones the last. -/
def suggest (name : String) (candidates : List String) : Option String :=
  let scored := (candidates.map fun c => (jaro name c, c)).filter fun (s, _) => below threshold s
  scored.foldl (fun best (s, c) => match best with
    | some (bs, _) => if below s bs then best else some (s, c)
    | none => some (s, c)) none |>.map (·.2)

end Similarity

end Tagweave
