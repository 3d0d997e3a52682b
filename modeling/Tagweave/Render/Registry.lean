import Tagweave.Render.Action
import Tagweave.Unicode.Case
import Tagweave.Unicode.Quoted

/-!
# Component registry

Components registered under tag names. Names are compared after Unicode lowercasing
(`Unicode.toLowercase`), both when registering and when looking up, so `Foo`, `FOO` and `foo`
are one name; registering a name again replaces its component.
-/

namespace Tagweave

/-- Components by lowercased tag name. -/
structure Registry where
  entries : List (String × Component)
  deriving Inhabited

namespace Registry

/-- No components. -/
def empty : Registry := ⟨[]⟩

/-- Register a component, replacing one registered under the same lowercased name. -/
def insert (r : Registry) (name : String) (c : Component) : Registry :=
  let key := Unicode.toLowercase name
  if r.entries.any (·.1 = key) then
    ⟨r.entries.map fun (k, old) => if k = key then (k, c) else (k, old)⟩
  else ⟨r.entries ++ [(key, c)]⟩

/-- The component registered under a tag name, if any. -/
def lookup (r : Registry) (name : String) : Option Component :=
  let key := Unicode.toLowercase name
  (r.entries.find? (·.1 = key)).map Prod.snd

/-- The lowercased names, in code point order. -/
def names (r : Registry) : List String :=
  (r.entries.map Prod.fst).mergeSort (fun a b => decide (a ≤ b))

/-- Number of registered names. -/
def size (r : Registry) : Nat := r.entries.length

/-- Whether nothing is registered. -/
def isEmpty (r : Registry) : Bool := r.entries.isEmpty

/-- `Components { names: ["a", "b"] }`: the sorted names, quoted with escapes. -/
def describe (r : Registry) : String :=
  "Components \x7b names: [" ++ ", ".intercalate (r.names.map Unicode.quoteEscaped) ++ "] \x7d"

end Registry

end Tagweave
