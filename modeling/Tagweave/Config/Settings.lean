import Tagweave.Render.Default
import Tagweave.Markdown.Options
import Tagweave.Json.Basic
import Tagweave.Files.Error

/-!
# Settings

The settings of a document renderer, as a configuration file gives them:

* `[markdown]`: whether text is converted as CommonMark at all, and which extensions are on
  (tables and strikethrough by default);
* `[context]`: a JSON file to render against, and values laid over its top-level keys;
* `[components.Tag]`: tags rendered as another element (`Alias`).

Loading can fail in five ways (`ConfigError`), each with its own message.
-/

namespace Tagweave

/-- How text nodes are converted. -/
structure MarkdownSettings where
  enabled : Bool := true
  tables : Bool := true
  strikethrough : Bool := true
  footnotes : Bool := false
  tasklists : Bool := false
  smartPunctuation : Bool := false
  deriving DecidableEq, Repr

/-- The CommonMark extensions the settings turn on. -/
def MarkdownSettings.options (m : MarkdownSettings) : Markdown.Options :=
  { tables := m.tables, strikethrough := m.strikethrough, footnotes := m.footnotes,
    tasklists := m.tasklists, smartPunctuation := m.smartPunctuation }

/-- The `[context]` table: a context file, as written, and inline values. -/
structure ContextSettings where
  file : Option String := none
  values : Json.Fields := []

/-- The whole configuration. `components` is sorted by tag; `contextFile` is the context
file resolved against the configuration's directory (or given on the command line), and
`configPath` the file the configuration was read from. -/
structure Config where
  markdown : MarkdownSettings := {}
  context : ContextSettings := {}
  components : List (String × Alias) := []
  contextFile : Option String := none
  configPath : Option String := none

/-- Settings from the command line that take precedence over the file. -/
structure CliSettings where
  contextFile : Option String := none
  markdownEnabled : Option Bool := none

/-- Why a configuration or its context could not be loaded. -/
inductive ConfigError where
  /-- The configuration file named explicitly does not exist. -/
  | notFound (path : String)
  | io (e : IoError)
  /-- The configuration is not valid TOML for these settings; the report shows where. -/
  | parse (report : String)
  /-- The context file is not valid JSON. -/
  | json (path : String) (message : String)
  | validation (message : String)

/-- The text of a configuration error. -/
def ConfigError.message : ConfigError → String
  | .notFound path => "Configuration file not found: " ++ path
  | .io e => "I/O error: " ++ e.message
  | .parse report => "TOML parse error: " ++ report
  | .json path message => "Context JSON error in " ++ path ++ ": " ++ message
  | .validation message => "Configuration error: " ++ message

/-- The name of the kind of a configuration error. -/
def ConfigError.kind : ConfigError → String
  | .notFound _ => "NotFound"
  | .io _ => "Io"
  | .parse _ => "Parse"
  | .json _ _ => "Json"
  | .validation _ => "Validation"

end Tagweave
