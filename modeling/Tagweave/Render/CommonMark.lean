import Tagweave.Render.Action
import Tagweave.Markdown.Html

/-!
# The CommonMark engine

Text nodes read as CommonMark (with the chosen extensions) and written as HTML.
-/

namespace Tagweave

/-- The engine that writes the HTML of a text node's CommonMark. -/
def Engine.commonMark (o : Markdown.Options) : Engine :=
  ⟨fun text => [.write (Markdown.toHtml o text)]⟩

end Tagweave
