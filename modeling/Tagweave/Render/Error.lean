import Tagweave.Markup.Error

/-!
# Render errors

Why rendering stopped, and the wording of each reason. Rendering stops at the first error;
what was written before it stays written. The output is text, which takes every write, so no
error stands for a refused write.
-/

namespace Tagweave

/-- Why rendering stopped. -/
inductive RenderError where
  /-- Markup handed over for rendering could not be read. -/
  | parse (e : ParseError)
  /-- A value that is not null, a string or an array of such was handed over as content;
  `shown` is its compact JSON text. -/
  | unexpectedShape (shown : String)
  /-- A text node met a renderer without a markdown engine. -/
  | missingEngine
  /-- A node sat at the depth limit or deeper. -/
  | depthLimit (limit : Nat)
  /-- A component gave up on its tag. -/
  | component (tag : String) (message : String)
  deriving DecidableEq, Repr

/-- The wording of a render error; a parse error keeps its own. -/
def RenderError.message : RenderError → String
  | .parse e => e.message
  | .unexpectedShape shown => s!"unexpected node shape: {shown}"
  | .missingEngine => "text node cannot be rendered without a markdown engine"
  | .depthLimit limit => s!"nesting exceeds the render depth limit of {limit}"
  | .component tag message => s!"component <{tag}> failed: {message}"

end Tagweave
