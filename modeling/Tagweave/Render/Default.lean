import Tagweave.Render.Action
import Tagweave.Json.Text

/-!
# Writing tags back

The default component writes an element back as a tag: `<name`, then ` key=value` for every
attribute whose value is present (the value as compact JSON, so a string keeps its quotes),
then `>`, the children rendered in order, and `</name>`.

An `Alias` renders a tag as another element. It writes the default form of new props: the
alias's element name, the same children, then a `class` attribute when there is a class to
give, then (when forwarding) the element's attributes in order, all but `class` when that was
already given. The class is the alias's own class followed by the element's string `class`
attribute (forwarded only), separated by a space, or whichever of the two exists.
-/

namespace Tagweave

/-- The text of an element's start tag. -/
def openTagText (props : Props) : String :=
  props.attrs.foldl (fun acc (k, v) => match v with
    | some v => acc ++ " " ++ k ++ "=" ++ Json.compact v
    | none => acc) ("<" ++ props.name) ++ ">"

/-- The actions that write an element back as a tag around its rendered children. -/
def writeTag (props : Props) : List Action :=
  [.write (openTagText props), .render (.nodes props.children), .write ("</" ++ props.name ++ ">")]

/-- The component used for tags that no registered component handles. -/
def defaultComponent : Component := fun props _ => writeTag props

/-- Render a tag as another element. -/
structure Alias where
  element : String
  className : Option String
  forwardAttributes : Bool

namespace Alias

/-- The class of the new element: own class, then the forwarded string `class` attribute. -/
def classFor (a : Alias) (props : Props) : Option String :=
  let forwarded := if a.forwardAttributes then props.getStr? "class" else none
  match a.className, forwarded with
  | some own, some extra => some (own ++ " " ++ extra)
  | some c, none => some c
  | none, some c => some c
  | none, none => none

/-- The props of the new element. -/
def props (a : Alias) (p : Props) : Props :=
  let cls := a.classFor p
  let base := match cls with
    | some c => (Props.new a.element p.children).withAttr "class" (some (.string c))
    | none => Props.new a.element p.children
  if a.forwardAttributes then
    p.attrs.foldl (fun acc (k, v) =>
      if k = "class" && cls.isSome then acc else acc.withAttr k v) base
  else base

/-- The component of an alias. -/
def component (a : Alias) : Component := fun p _ => writeTag (a.props p)

end Alias

end Tagweave
