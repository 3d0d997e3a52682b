import Tagweave.Binary64.Decimal

/-!
# JSON values

A `Json` value is null, a boolean, a number, a string, an array or an object. Numbers keep
the kind they were read as (`JsonNumber`): an unsigned integer, a negative integer or a
finite double, because the three print differently (`1`, `-1`, `1.0`).

Objects keep their members in list order. The values this library reads or builds as data
are maps: keys unique and ascending in code point order, which is the byte order of their
UTF-8 text. `Json.Fields.insert` keeps that shape (the last write of a key wins), so
printing a map lists its keys sorted. Records with a fixed field order (a node written
back as JSON) are built directly as lists.
-/

namespace Tagweave

/-- A JSON number: an integer in `[0, 2^64)`, a negative integer in `[-2^63, 0)`, or a
finite double. -/
inductive JsonNumber where
  | nat (n : Nat)
  | neg (n : Int)
  | float (x : Binary64)
  deriving DecidableEq, Inhabited

/-- A JSON value. -/
inductive Json where
  | null
  | bool (b : Bool)
  | number (n : JsonNumber)
  | string (s : String)
  | array (items : List Json)
  | object (fields : List (String × Json))
  deriving Inhabited

namespace Json

/-- The members of an object. -/
abbrev Fields := List (String × Json)

/-- Set `key` to `value` in a map: replaced in place when present, otherwise inserted before
the first larger key. -/
def Fields.insert (key : String) (value : Json) : Fields → Fields
  | [] => [(key, value)]
  | (k, v) :: rest =>
    if key < k then (key, value) :: (k, v) :: rest
    else if key = k then (key, value) :: rest
    else (k, v) :: Fields.insert key value rest

/-- The value of the first member named `key`. -/
def Fields.get? (key : String) : Fields → Option Json
  | [] => none
  | (k, v) :: rest => if k = key then some v else Fields.get? key rest

/-- A map built by inserting the pairs in order, so a repeated key keeps its last value. -/
def Fields.ofList (pairs : List (String × Json)) : Fields :=
  pairs.foldl (fun acc (k, v) => Fields.insert k v acc) []

/-- An unsigned integer. -/
def ofNat (n : Nat) : Json := .number (.nat n)

/-- An integer: unsigned when nonnegative. -/
def ofInt (n : Int) : Json :=
  if 0 ≤ n then .number (.nat n.toNat) else .number (.neg n)

/-- A double as a JSON number; infinities and NaN have no JSON form and become null. -/
def ofFloat (x : Binary64) : Json :=
  if x.isFinite then .number (.float x) else .null

/-- The string inside a string value. -/
def getStr? : Json → Option String
  | .string s => some s
  | _ => none

/-- Whether the value is an object. -/
def isObject : Json → Bool
  | .object _ => true
  | _ => false

end Json

end Tagweave
