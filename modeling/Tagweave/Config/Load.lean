import Tagweave.Config.Decode
import Tagweave.Toml.Report
import Tagweave.Files.Path
import Tagweave.Files.Script
import Tagweave.Json.Read
import Tagweave.Unicode.WhiteSpace

/-!
# Loading the configuration

`Config.load` reads the configuration file named on the command line, or else the first
`tagmark.toml` found in the working directory or one of its ancestors, or else takes the
defaults; the command line settings then take precedence. A file is read as TOML
(`Config.fromToml`): syntax, then the settings, then the component element names, each
failure reported in its own way. A relative context file is taken from the configuration
file's directory.

`Config.loadContext` builds the JSON context a document is rendered against: the context
file (or an empty object), with the inline values laid over its top-level keys.
-/

namespace Tagweave

/-- The name of the configuration file searched for. -/
def configFileName : String := "tagmark.toml"

/-- Whether a character may not appear in an element name. -/
def isForbiddenInElement (c : Char) : Bool :=
  Unicode.isWhiteSpace c || c = '<' || c = '>' || c = '/' || c = '"' || c = '\'' || c = '='

/-- Check the element name of each component, in tag order: it may not be empty, and may not
hold white space or markup characters. -/
def validateComponents : List (String × Alias) → Except ConfigError Unit
  | [] => .ok ()
  | (tag, a) :: rest =>
    let field := "components." ++ tag ++ ".element"
    if a.element.isEmpty then .error (.validation (field ++ " cannot be empty"))
    else if a.element.any isForbiddenInElement then
      .error (.validation (field ++ " is not a valid element name: " ++ Unicode.quoteEscaped a.element))
    else validateComponents rest

namespace Config

/-- Read a configuration from TOML text; a relative context file is resolved against
`baseDir`. -/
def fromToml (text baseDir : String) : Except ConfigError Config := do
  let report := fun (e : Toml.TomlError) => ConfigError.parse (e.report text)
  let entries ← (Toml.readTable text.toList).mapError report
  let c ← (Config.readRoot entries).mapError report
  let c := { c with contextFile := c.context.file.map (Path.join baseDir) }
  validateComponents c.components
  pure c

/-- Let the command line settings take precedence. -/
def applyCli (c : Config) (s : CliSettings) : Config :=
  let c := match s.contextFile with
    | some f => { c with contextFile := some f }
    | none => c
  match s.markdownEnabled with
  | some e => { c with markdown := { c.markdown with enabled := e } }
  | none => c

/-- Read a configuration file. -/
def loadFile (path : String) : Script (Except ConfigError Config) := do
  match ← Script.readText path with
  | .error e => pure (.error (.io e))
  | .ok text =>
    let dir := (Path.parent path).getD "."
    pure ((fromToml text dir).map fun c => { c with configPath := some path })

/-- The first of the directories holding a configuration file, as the file's path. -/
def findIn : List String → Script (Option String)
  | [] => pure none
  | d :: ds => do
    let candidate := Path.join d configFileName
    if ← Script.exists? candidate then pure (some candidate) else findIn ds

/-- The configuration file in the working directory or its nearest ancestor holding one. -/
def discover : Script (Option String) := do
  match ← Script.currentDir with
  | none => pure none
  | some dir => findIn (Path.ancestors dir)

/-- Load the configuration: from `path` when given (which must exist), else from the file
found by `discover`, else the defaults; then apply the command line settings. -/
def load (path : Option String) (settings : Option CliSettings) : Script (Except ConfigError Config) := do
  let loaded ← match path with
    | some p => do
      if ← Script.exists? p then loadFile p else pure (.error (.notFound p))
    | none => do
      match ← discover with
      | some found => loadFile found
      | none => pure (.ok {})
  pure (loaded.map fun c => match settings with
    | some s => c.applyCli s
    | none => c)

/-- Lay the inline values over a context, which must then be an object. -/
def overlay (values : Json.Fields) (context : Json) : Except ConfigError Json :=
  if values.isEmpty then .ok context
  else match context with
    | .object fields => .ok (.object (values.foldl (fun acc (k, v) => Json.Fields.insert k v acc) fields))
    | _ => .error (.validation "context.values requires the context file to hold a JSON object")

/-- The render context: the context file's JSON (or an empty object) with the inline values
laid over it. -/
def loadContext (c : Config) : Script (Except ConfigError Json) := do
  let base : Except ConfigError Json ← match c.contextFile with
    | some path => do
      match ← Script.readText path with
      | .error e => pure (.error (ConfigError.io e))
      | .ok text => pure (match Json.parse text with
        | .ok j => .ok j
        | .error e => .error (.json path e.message))
    | none => pure (.ok (.object []))
  pure (base.bind (overlay c.context.values))

end Config

end Tagweave
