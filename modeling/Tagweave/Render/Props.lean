import Tagweave.Markup.Node
import Tagweave.Json.Basic

/-!
# Props

What a component is given for one element: the tag name, the raw children and the attributes
with their values resolved against the context. A resolved value may be absent (a reference
that found nothing); the attribute is still listed.

* A string attribute is a JSON string.
* A number attribute is a JSON integer when it is whole and within `±(2^53 - 1)` (so `-0`
  is `0`), a double otherwise, and null when it is infinite (`Props.numberJson`).
* A reference is whatever the interpolator gives for the context and the accessor.

`Props.withAttr` sets an attribute with the same law as `Attributes.insert`: first position,
last value.
-/

namespace Tagweave

/-- Looks up an accessor in a context; absent when it finds nothing. -/
abbrev Interpolator := Json → String → Option Json

/-- The inputs of a component for one element. -/
structure Props where
  name : String
  children : List Node
  attrs : List (String × Option Json)
  deriving Inhabited

namespace Props

/-- The largest integer whose neighbours are all doubles, `2^53 - 1`. -/
def maxSafeInteger : Nat := 9007199254740991

/-- The JSON value of a number attribute. -/
def numberJson (x : Binary64) : Json :=
  if !x.isFinite then .null
  else if x.isIntegral && x.toInt.natAbs ≤ maxSafeInteger then Json.ofInt x.toInt
  else .number (.float x)

/-- The value of an attribute in a context. -/
def resolveValue (interpolate : Interpolator) (context : Json) : AttrValue → Option Json
  | .str s => some (.string s)
  | .number x => some (numberJson x)
  | .ref accessor => interpolate context accessor

/-- The props of an element: each attribute resolved in order. -/
def resolve (interpolate : Interpolator) (context : Json) (name : String) (attrs : Attributes)
    (children : List Node) : Props :=
  ⟨name, children, attrs.toList.map fun (k, v) => (k, resolveValue interpolate context v)⟩

/-- Props with no attributes. -/
def new (name : String) (children : List Node) : Props := ⟨name, children, []⟩

/-- Set an attribute, keeping the position of a name already present. -/
def withAttr (p : Props) (key : String) (value : Option Json) : Props :=
  { p with attrs := Entries.set key value p.attrs }

/-- The value of the first attribute named `key`, when present. -/
def get? (p : Props) (key : String) : Option Json := (Entries.get? key p.attrs).join

/-- The string value of an attribute. -/
def getStr? (p : Props) (key : String) : Option String := (p.get? key).bind Json.getStr?

/-- Whether an attribute is listed, present or not. -/
def contains (p : Props) (key : String) : Bool := p.attrs.any (·.1 = key)

end Props

end Tagweave
