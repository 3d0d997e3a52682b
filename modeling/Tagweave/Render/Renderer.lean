import Tagweave.Render.Registry
import Tagweave.Render.Default
import Tagweave.Json.Text
import Tagweave.Json.Path

/-!
# The renderer

A `Renderer` writes fragments to an output string:

* an element goes to the component registered under its name, or to the default component,
  with its props resolved against the current context by the interpolator;
* a text node goes to the markdown engine, and without one rendering stops with
  `missingEngine`;
* the actions of a component or engine run one level deeper than the node they write.

Top-level nodes are at depth 0. A node at depth `maxDepth` or deeper is the error
`depthLimit` (text nodes count as a level too). So every node rendering consumes one unit of
the remaining depth, which is what makes rendering terminate whatever the components do: the
recursion is on the remaining depth first, then on the size of the lists at hand.

Rendering stops at the first error, and `Written` keeps both the output written before it
and the error.
-/

namespace Tagweave

/-- A renderer's configuration. -/
structure Renderer where
  components : Registry
  engine : Option Engine
  defaultComponent : Component
  interpolate : Interpolator
  maxDepth : Nat

/-- Output written so far, and the error that stopped rendering, if any. -/
structure Written where
  out : String
  error : Option RenderError

namespace Renderer

/-- Render a JSON value: null writes nothing, a string is appended, an array is rendered
item by item; any other value stops with `unexpectedShape`. -/
def writeValue (out : String) : Json → Written
  | .null => ⟨out, none⟩
  | .string s => ⟨out ++ s, none⟩
  | .array items => writeItems out items
  | v => ⟨out, some (.unexpectedShape (Json.compact v))⟩
where
  /-- Render array items in order, stopping at the first error. -/
  writeItems (out : String) : List Json → Written
    | [] => ⟨out, none⟩
    | v :: vs =>
      match writeValue out v with
      | ⟨o, none⟩ => writeItems o vs
      | w => w

mutual
/-- Render a fragment with `fuel` levels of depth left. -/
def writeFragment (r : Renderer) (fuel : Nat) (ctx : Json) (out : String) :
    Fragment → Written
  | .absent => ⟨out, none⟩
  | .markup s => ⟨out ++ s, none⟩
  | .node n => writeNode r fuel ctx out n
  | .nodes ns => writeNodes r fuel ctx out ns
  | .value v => writeValue out v
termination_by (fuel, 2, 0)

/-- Render nodes in order, stopping at the first error. -/
def writeNodes (r : Renderer) (fuel : Nat) (ctx : Json) (out : String) :
    List Node → Written
  | [] => ⟨out, none⟩
  | n :: ns =>
    match writeNode r fuel ctx out n with
    | ⟨o, none⟩ => writeNodes r fuel ctx o ns
    | w => w
termination_by ns => (fuel, 1, ns.length)

/-- Render one node with `fuel` levels of depth left: none left is the depth error. -/
def writeNode (r : Renderer) (fuel : Nat) (ctx : Json) (out : String) (n : Node) : Written :=
  match fuel with
  | 0 => ⟨out, some (.depthLimit r.maxDepth)⟩
  | fuel + 1 =>
    match n with
    | .text data =>
      match r.engine with
      | none => ⟨out, some .missingEngine⟩
      | some e => runActions r fuel ctx out (e.convert data)
    | .element name attrs children =>
      let component := (r.components.lookup name).getD r.defaultComponent
      let props := Props.resolve r.interpolate ctx name attrs children
      runActions r fuel ctx out (component props ctx)
termination_by (fuel, 0, 0)

/-- Carry out actions in order, stopping at the first error. -/
def runActions (r : Renderer) (fuel : Nat) (ctx : Json) (out : String) :
    List Action → Written
  | [] => ⟨out, none⟩
  | a :: as =>
    match runAction r fuel ctx out a with
    | ⟨o, none⟩ => runActions r fuel ctx o as
    | w => w
termination_by as => (fuel, 4, as.length)

/-- Carry out one action. -/
def runAction (r : Renderer) (fuel : Nat) (ctx : Json) (out : String) : Action → Written
  | .write s => ⟨out ++ s, none⟩
  | .render f => writeFragment r fuel ctx out f
  | .renderIn f c => writeFragment r fuel c out f
  | .fail e => ⟨out, some e⟩
termination_by (fuel, 3, 0)
end

/-- Render a fragment at the top level (depth 0) in a context. -/
def write (r : Renderer) (f : Fragment) (ctx : Json) : Written :=
  writeFragment r r.maxDepth ctx "" f

end Renderer

/-- The default depth limit. -/
def defaultMaxDepth : Nat := 256

/-- The default interpolator: the dotted accessor as a path into the context. -/
def pathInterpolator : Interpolator := fun ctx accessor => ctx.resolve accessor

/-- Settings for a renderer, each optional but the components. -/
structure RenderOptions where
  components : Registry := .empty
  engine : Option Engine := none
  defaultComponent : Option Component := none
  interpolate : Option Interpolator := none
  maxDepth : Option Nat := none

namespace RenderOptions

/-- A description of the settings: the component names, and which settings are given. -/
def describe (o : RenderOptions) : String :=
  let depth := match o.maxDepth with
    | some d => s!"Some({d})"
    | none => "None"
  "RenderOptions \x7b components: " ++ o.components.describe ++
    s!", markdown_engine: {o.engine.isSome}, default_component: {o.defaultComponent.isSome}" ++
    s!", interpolator: {o.interpolate.isSome}, max_depth: " ++ depth ++ " \x7d"

/-- The renderer with these settings and the defaults for the others. -/
def toRenderer (o : RenderOptions) : Renderer :=
  ⟨o.components, o.engine, o.defaultComponent.getD Tagweave.defaultComponent,
    o.interpolate.getD pathInterpolator, o.maxDepth.getD defaultMaxDepth⟩

end RenderOptions

end Tagweave
