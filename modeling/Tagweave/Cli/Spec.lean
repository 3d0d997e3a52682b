/-!
# The command line

The program `tagmark` has two commands, each reading one input file:

* `render <INPUT> [-c CONFIG] [--context FILE] [-o OUTPUT] [--raw]` renders a document to
  HTML; the configuration may also come from the environment variable `TAGMARK_CONFIG`;
* `parse <INPUT> [--compact]` prints the document's tree as JSON;

and `help [COMMAND]` prints the help of the program or of a command. `-v`/`--verbose` is
accepted before and after a command name; `-h`/`--help` prints help, and `-V`/`--version`
(before a command) the version.

This module describes the options and writes the help and usage texts. Help lists the
options sorted by display order and then by long name, in one column padded to the widest
option.
-/

namespace Tagweave

namespace Cli

/-- An option: a flag, or an option taking a value when it has a value name. -/
structure OptionSpec where
  id : String
  short : Option Char
  long : String
  valueName : Option String
  help : String
  /-- The environment variable that gives a value when the option is absent. -/
  env : Option String
  /-- Where the option stands in help. -/
  order : Nat

namespace OptionSpec

/-- How the option is named in messages: `--config <CONFIG>`, `--raw`. -/
def display (o : OptionSpec) : String :=
  "--" ++ o.long ++ (match o.valueName with
    | some v => " <" ++ v ++ ">"
    | none => "")

/-- How the option is written in help: `-c, --config <CONFIG>`, `    --raw`. -/
def helpSpec (o : OptionSpec) : String :=
  (match o.short with
    | some c => "-" ++ c.toString ++ ", "
    | none => "    ") ++ o.display

/-- Whether the option takes a value. -/
def takesValue (o : OptionSpec) : Bool := o.valueName.isSome

end OptionSpec

/-- The verbose flag, accepted by every command. -/
def verboseOption : OptionSpec :=
  ⟨"verbose", some 'v', "verbose", none,
    "Enable verbose output (debug logs for parsing and component lookup)", none, 0⟩

/-- The help flag of a command. -/
def helpOption : OptionSpec := ⟨"help", some 'h', "help", none, "Print help", none, 1000⟩

/-- The version flag of the program. -/
def versionOption : OptionSpec := ⟨"version", some 'V', "version", none, "Print version", none, 1001⟩

/-- A command taking one input file. -/
structure CommandSpec where
  name : String
  about : String
  inputHelp : String
  /-- The command's own options, then the shared ones, in lookup order. -/
  options : List OptionSpec

/-- The `render` command. -/
def renderSpec : CommandSpec :=
  { name := "render", about := "Render a document to HTML", inputHelp := "Markup file to render",
    options := [
      ⟨"config", some 'c', "config", some "CONFIG",
        "Path to configuration file (default: auto-discover tagmark.toml)", some "TAGMARK_CONFIG", 0⟩,
      ⟨"context", none, "context", some "CONTEXT",
        "JSON file used as the render context (overrides config)", none, 1⟩,
      ⟨"output", some 'o', "output", some "OUTPUT", "Write the result to a file instead of stdout", none, 2⟩,
      ⟨"raw", none, "raw", none, "Write text nodes unchanged instead of converting markdown", none, 3⟩,
      verboseOption, helpOption] }

/-- The `parse` command. -/
def parseSpec : CommandSpec :=
  { name := "parse", about := "Print the parsed document tree as JSON", inputHelp := "Markup file to parse",
    options := [
      ⟨"compact", none, "compact", none, "Print compact JSON on a single line", none, 0⟩,
      verboseOption, helpOption] }

/-- The commands, in the order help lists them. -/
def commands : List CommandSpec := [renderSpec, parseSpec]

/-- The names a command may be called by, `help` included. -/
def commandNames : List String := ["render", "parse", "help"]

/-- The program's name. -/
def programName : String := "tagmark"

/-- The version line. -/
def versionText : String := programName ++ " 0.1.0\n"

/-- Pad a text with spaces to a width. -/
def padTo (width : Nat) (s : String) : String :=
  s ++ String.ofList (List.replicate (width - s.length) ' ')

/-- Rows of a help section: each name padded to the widest, then two spaces and its text. -/
def helpRows (rows : List (String × String)) : String :=
  let width := rows.foldl (fun w r => max w r.1.length) 0
  String.join (rows.map fun (name, text) => "  " ++ padTo width name ++ "  " ++ text ++ "\n")

/-- Options sorted for help: by display order, then by long name. -/
def sortedOptions (options : List OptionSpec) : List OptionSpec :=
  options.mergeSort fun a b => a.order < b.order || (a.order = b.order && !(b.long < a.long))

/-- The help row of an option; an option read from the environment shows the variable and
its value. -/
def optionRow (env : List (String × String)) (o : OptionSpec) : String × String :=
  let envNote := match o.env with
    | some name => " [env: " ++ name ++ "=" ++ ((env.find? (·.1 = name)).map (·.2)).getD "" ++ "]"
    | none => ""
  (o.helpSpec, o.help ++ envNote)

/-- The usage of a command with all its options. -/
def CommandSpec.usage (c : CommandSpec) : String :=
  programName ++ " " ++ c.name ++ " [OPTIONS] <INPUT>"

/-- The help of a command. -/
def CommandSpec.helpText (c : CommandSpec) (env : List (String × String)) : String :=
  c.about ++ "\n\nUsage: " ++ c.usage ++ "\n\nArguments:\n" ++ helpRows [("<INPUT>", c.inputHelp)] ++
    "\nOptions:\n" ++ helpRows ((sortedOptions c.options).map (optionRow env))

/-- The usage of the program. -/
def programUsage : String := programName ++ " [OPTIONS] <COMMAND>"

/-- The help line of the `help` command. -/
def helpAbout : String := "Print this message or the help of the given subcommand(s)"

/-- The help of the program. -/
def programHelp : String :=
  programName ++ " - markup components with embedded markdown\n\nUsage: " ++ programUsage ++
    "\n\nCommands:\n" ++
    helpRows ((commands.map fun c => (c.name, c.about)) ++ [("help", helpAbout)]) ++
    "\nOptions:\n" ++ helpRows ([verboseOption, helpOption, versionOption].map (optionRow []))

/-- The help of the `help` command. -/
def helpCommandHelp : String :=
  helpAbout ++ "\n\nUsage: " ++ programName ++ " help [COMMAND]...\n\nArguments:\n" ++
    helpRows [("[COMMAND]...", "Print help for the subcommand(s)")]

/-- The body of an error message: the problem, tips each on a line of its own after a blank
line, and the usage when given. -/
def errorBody (problem : String) (tips : List String) (usage : Option String) : String :=
  let tipText := match tips with
    | [] => ""
    | _ => "\n" ++ String.join (tips.map fun t => "\n  tip: " ++ t)
  let usageText := match usage with
    | some u => "\n\nUsage: " ++ u
    | none => ""
  "error: " ++ problem ++ tipText ++ usageText

/-- An error message, ending with where to find help. -/
def errorText (problem : String) (tips : List String) (usage : Option String) : String :=
  errorBody problem tips usage ++ "\n\nFor more information, try '--help'.\n"

end Cli

end Tagweave
