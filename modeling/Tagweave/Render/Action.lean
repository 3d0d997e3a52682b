import Tagweave.Render.Props
import Tagweave.Render.Error

/-!
# Components and engines

A component decides how one element is written; a markdown engine how one text node is
written. Both answer with a list of `Action`s that the renderer carries out in order,
stopping at the first error:

* `write s` appends `s` to the output;
* `render f` renders a fragment one level deeper, in the current context;
* `renderIn f c` does the same in the context `c`;
* `fail e` stops with the error `e`.

A `Fragment` is what can be handed over for rendering: nothing, markup text (appended as is),
one node, a list of nodes, or a JSON value (null is nothing, a string is appended, an array
is rendered item by item, anything else is the error `unexpectedShape`).
-/

namespace Tagweave

/-- Something handed over for rendering. -/
inductive Fragment where
  | absent
  | markup (text : String)
  | node (n : Node)
  | nodes (ns : List Node)
  | value (v : Json)
  deriving Inhabited

/-- The fragment of an optional value: absent or the value. -/
def Fragment.ofOption : Option Json → Fragment
  | none => .absent
  | some v => .value v

/-- A step of a component or engine. -/
inductive Action where
  | write (text : String)
  | render (f : Fragment)
  | renderIn (f : Fragment) (context : Json)
  | fail (e : RenderError)
  deriving Inhabited

/-- Writes one element, given its props and the current context. -/
abbrev Component := Props → Json → List Action

/-- Writes one text node. -/
structure Engine where
  convert : String → List Action

/-- The engine that writes text unchanged. -/
def Engine.verbatim : Engine := ⟨fun text => [.write text]⟩

end Tagweave
