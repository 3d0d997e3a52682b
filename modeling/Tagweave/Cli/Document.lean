import Tagweave.Config.Load
import Tagweave.Render.Renderer
import Tagweave.Render.CommonMark
import Tagweave.Markup.Tree

/-!
# Rendering a document with a configuration

A configuration sets up a renderer: one alias component per configured tag, and text
converted as CommonMark with the configured extensions, or written unchanged when markdown
is disabled. A document is read into nodes and rendered against a context; reading and
rendering fail with their own errors.

`CliError` gathers everything a command can fail with. Its message is that of the error it
holds.
-/

namespace Tagweave

/-- The render settings of a configuration. -/
def Config.renderOptions (c : Config) : RenderOptions :=
  { components := c.components.foldl (fun r (tag, a) => r.insert tag a.component) .empty,
    engine := some (if c.markdown.enabled then Engine.commonMark c.markdown.options
      else Engine.verbatim) }

/-- Why a command failed. -/
inductive CliError where
  | config (e : ConfigError)
  | io (e : IoError)
  | parse (e : ParseError)
  | render (e : RenderError)

/-- The text of a command's error. -/
def CliError.message : CliError → String
  | .config e => e.message
  | .io e => e.message
  | .parse e => e.message
  | .render e => e.message

/-- Read a document and render it with a configuration's settings against a context. -/
def renderDocument (c : Config) (input : String) (context : Json) : Except CliError String :=
  match Document.parse input with
  | .error e => .error (.parse e)
  | .ok nodes =>
    let w := c.renderOptions.toRenderer.write (.nodes nodes) context
    match w.error with
    | some e => .error (.render e)
    | none => .ok w.out

end Tagweave
