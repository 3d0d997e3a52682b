import Tagweave.Cli.Args
import Tagweave.Cli.Document
import Tagweave.Markup.NodeJson
import Tagweave.Json.Text

/-!
# Running the program

A run reads the command line and carries out its request as a `Script`, ending with an exit
status and what was written to the standard output and error streams:

* help and the version go to the standard output (status 0), misuse to the standard error
  stream (status 2);
* `render` loads the configuration, reads the input, builds the context, renders, and writes
  the HTML to the standard output as it is, or to the output file, saying so with
  `Rendered <path>` on the standard error stream;
* `parse` prints the document's tree as JSON, indented by two spaces or compact, and a line
  break;
* any failure is `Error: <message>` on the standard error stream, with status 1.
-/

namespace Tagweave

namespace Cli

/-- How a run ends. -/
structure Outcome where
  exit : Nat
  stdout : String
  stderr : String
  deriving DecidableEq, Repr

/-- The end of a failed run. -/
def failure (e : CliError) : Outcome := ⟨1, "", "Error: " ++ e.message ++ "\n"⟩

/-- Render a document to HTML. -/
def executeRender (input : String) (config context output : Option String) (raw : Bool) :
    Script Outcome := do
  let settings : CliSettings :=
    { contextFile := context, markdownEnabled := if raw then some false else none }
  match ← Config.load config (some settings) with
  | .error e => pure (failure (.config e))
  | .ok cfg =>
    match ← Script.readText input with
    | .error e => pure (failure (.io e))
    | .ok text =>
      match ← cfg.loadContext with
      | .error e => pure (failure (.config e))
      | .ok ctx =>
        match renderDocument cfg text ctx with
        | .error e => pure (failure e)
        | .ok html =>
          match output with
          | some path =>
            match ← Script.write path html with
            | .error e => pure (failure (.io e))
            | .ok () => pure ⟨0, "", "Rendered " ++ path ++ "\n"⟩
          | none => pure ⟨0, html, ""⟩

/-- Print the tree of a document as JSON. -/
def executeParse (input : String) (compact : Bool) : Script Outcome := do
  match ← Script.readText input with
  | .error e => pure (failure (.io e))
  | .ok text =>
    match Document.parse text with
    | .error e => pure (failure (.parse e))
    | .ok nodes =>
      let tree := Json.array (nodes.map Node.toJson)
      pure ⟨0, (if compact then Json.compact tree else Json.pretty tree) ++ "\n", ""⟩

/-- Carry out a request. -/
def execute : Request → Script Outcome
  | .render input config context output raw => executeRender input config context output raw
  | .parse input compact => executeParse input compact

/-- Run the program with a command line (without the program name) and an environment. -/
def run (args : List String) (env : List (String × String)) : Script Outcome :=
  match readArgs args env with
  | .info text => pure ⟨0, text, ""⟩
  | .misuse text => pure ⟨2, "", text⟩
  | .run _ request => execute request

end Cli

end Tagweave
