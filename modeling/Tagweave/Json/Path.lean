import Tagweave.Json.Basic

/-!
# Paths into JSON values

A path is a list of segments. Each segment steps into an object by key or into an array by
index; an index is written in decimal, optionally after `+`, and must fit in 64 bits. Any
other step (a missing key, an index out of range or malformed, a scalar) finds nothing.

An accessor is a dotted path: `Json.resolve` splits it at every `.` and keeps empty
segments, except that the empty accessor is the value itself.
-/

namespace Tagweave

namespace Json

/-- An array index as written in a path segment: `+`? digits, below `2 ^ 64`. -/
def parseIndex (s : String) : Option Nat :=
  let digits := match s.toList with
    | '+' :: rest => rest
    | cs => cs
  if digits.isEmpty || !digits.all (fun c => '0' ≤ c && c ≤ '9') then none
  else
    let n := digits.foldl (fun n d => 10 * n + (d.toNat - 48)) 0
    if n < Nat.pow 2 64 then some n else none

/-- One step into a value. -/
def step (v : Json) (segment : String) : Option Json :=
  match v with
  | .object fields => Fields.get? segment fields
  | .array items => (parseIndex segment).bind fun i => items[i]?
  | _ => none

/-- Follow a path of segments. -/
def resolvePath (v : Json) : List String → Option Json
  | [] => some v
  | s :: rest => (v.step s).bind fun w => w.resolvePath rest

/-- The segments of a dotted accessor: the text between one `.` and the next, empty ones
included. -/
def segments (accessor : String) : List String :=
  (accessor.toList.splitOn '.').map String.ofList

/-- Follow a dotted accessor; the empty accessor is the value itself. -/
def resolve (v : Json) (accessor : String) : Option Json :=
  if accessor.isEmpty then some v else v.resolvePath (segments accessor)

end Json

end Tagweave
