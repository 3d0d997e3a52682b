import Tagweave.Cli.Spec
import Tagweave.Cli.Similarity

/-!
# Reading the command line

The arguments are read from left to right:

* `--` makes every later argument a plain value;
* `--name` or `--name=value` is a long option, `-abc` a cluster of short ones, where an
  option taking a value takes the rest of the cluster (after an optional `=`) or else the
  next argument, unless that one starts with `-` and is more than `-`;
* anything else is the command name, then the input file.

Help and the version are printed as soon as they are asked for. Every misuse stops reading
with an error on the standard error stream (exit status 2): an unknown option (with the most
similar known one as a tip, or how to pass it as a value), an unknown command, a missing or
empty value, an option given twice, an extra value, and after the last argument a missing
command or input file. An option read from the environment counts as given when it is not on
the command line.

Usage lines in errors are mostly short: the command, the options named so far and the input
file, or the full usage where no option has been named yet. An extra value is met with the
full usage; a flag given a value with the arguments given so far, which show as one group
once one of the command's own arguments is among them. After `--` the name of a command is
an error that says to drop the `--`, and `--` alone is like no argument at all.
-/

namespace Tagweave

namespace Cli

/-- What a command asks for. -/
inductive Request where
  | render (input : String) (config context output : Option String) (raw : Bool)
  | parse (input : String) (compact : Bool)
  deriving DecidableEq, Repr

/-- What the command line comes to. -/
inductive Invocation where
  /-- Carry out a request. -/
  | run (verbose : Bool) (request : Request)
  /-- Print help or the version on the standard output and stop. -/
  | info (text : String)
  /-- A misuse: print the message on the standard error stream and stop with status 2. -/
  | misuse (text : String)
  deriving DecidableEq, Repr

/-- Options and values read so far for a command; `used` lists what was given, in order. -/
structure Matches where
  values : List (String × String) := []
  flags : List String := []
  input : Option String := none
  used : List String := []

/-- Whether an argument is an option rather than a value. -/
def isOptionLike (a : String) : Bool := a.startsWith "-" && a.length > 1

/-- Split `name=value` at the first `=`. -/
def splitAttached (s : String) : String × Option String :=
  let cs := s.toList
  let name := cs.takeWhile (· ≠ '=')
  if cs.length > name.length then (String.ofList name, some (String.ofList (cs.drop (name.length + 1))))
  else (s, none)

/-- The short usage of a command: the options given so far, then the input file. -/
def CommandSpec.shortUsage (c : CommandSpec) (used : List String) : String :=
  let ordered := (used.filterMap fun id => (c.options.find? (·.id = id)).map fun o => " " ++ o.display)
  let distinct := ordered.foldl (fun acc s => if acc.contains s then acc else acc ++ [s]) []
  programName ++ " " ++ c.name ++ String.join distinct ++ " <INPUT>"

/-- The usage shown when a flag is given a value. The options given so far come first; once
one of the command's own arguments has been given, they all show as one group (the input
file and the command's options, in their order), which then stands for the input file too. -/
def CommandSpec.valueUsage (c : CommandSpec) (used : List String) (flag : String) : String :=
  let members := "input" :: (c.options.filter (·.id ≠ "verbose") |>.filter (·.id ≠ "help")).map (·.id)
  let grouped := used.any members.contains
  let shown := (used ++ [flag]).filter fun id => id ≠ "input" && !(grouped && members.contains id)
  let opts := (shown.filterMap fun id => (c.options.find? (·.id = id)).map fun o => " " ++ o.display)
  let distinct := opts.foldl (fun acc s => if acc.contains s then acc else acc ++ [s]) []
  let group := "<" ++ "|".intercalate ("INPUT" :: ((sortedOptions c.options).filter
    (fun o => members.contains o.id)).map (·.display)) ++ ">"
  programName ++ " " ++ c.name ++ String.join distinct ++ " " ++ (if grouped then group else "<INPUT>")

/-- The usage shown in an error of a command. -/
def CommandSpec.usageFor (c : CommandSpec) (used : List String) : String :=
  if used.isEmpty then c.usage else c.shortUsage used

/-- The message of an option given twice. -/
def repeatedText (display usage : String) : String :=
  errorText ("the argument '" ++ display ++ "' cannot be used multiple times") [] (some usage)

/-- The message of an option with no value. -/
def missingValueText (display : String) : String :=
  errorText ("a value is required for '" ++ display ++ "' but none was supplied") [] none

/-- The message of a flag given a value. -/
def extraValueText (value display usage : String) : String :=
  errorText ("unexpected value '" ++ value ++ "' for '" ++ display ++ "' found; no more were expected") []
    (some usage)

namespace Matches

/-- Record a flag. -/
def setFlag (c : CommandSpec) (m : Matches) (o : OptionSpec) : Except Invocation Matches :=
  if m.flags.contains o.id then .error (.misuse (repeatedText o.display c.usage))
  else .ok { m with flags := m.flags ++ [o.id], used := m.used ++ [o.id] }

/-- Record an option's value, if it has one. -/
def setValue (c : CommandSpec) (m : Matches) (o : OptionSpec) (value : Option String) :
    Except Invocation Matches :=
  match value with
  | none => .error (.misuse (missingValueText o.display))
  | some v =>
    if m.values.any (·.1 = o.id) then .error (.misuse (repeatedText o.display c.usage))
    else if v.isEmpty then .error (.misuse (missingValueText o.display))
    else .ok { m with values := m.values ++ [(o.id, v)], used := m.used ++ [o.id] }

/-- The value of an option. -/
def value? (m : Matches) (id : String) : Option String := (m.values.find? (·.1 = id)).map (·.2)

end Matches

/-- The error of an unknown long option of a command. -/
def unknownLong (c : CommandSpec) (m : Matches) (name : String) : Invocation :=
  let problem := "unexpected argument '--" ++ name ++ "' found"
  match Similarity.suggest name (c.options.map (·.long)) with
  | some s =>
    let used := m.used ++ ((c.options.find? (·.long = s)).map (·.id)).toList
    .misuse (errorText problem ["a similar argument exists: '--" ++ s ++ "'"] (some (c.usageFor used)))
  | none =>
    .misuse (errorText problem ["to pass '--" ++ name ++ "' as a value, use '-- --" ++ name ++ "'"]
      (some (c.usageFor m.used)))

/-- Take the value of an option from the next argument, unless it is an option itself:
the value and the arguments left. -/
def nextValue : List String → Option String × List String
  | a :: rest => if isOptionLike a then (none, a :: rest) else (some a, rest)
  | [] => (none, [])

/-- Read a cluster of short options; an option taking a value may take the next argument.
Gives the matches and the arguments left. -/
def readCluster (c : CommandSpec) (env : List (String × String)) (rest : List String) :
    List Char → Matches → Except Invocation (Matches × List String)
  | [], m => .ok (m, rest)
  | ch :: more, m =>
    match c.options.find? (·.short = some ch) with
    | none =>
      let shown := "-" ++ ch.toString
      .error (.misuse (errorText ("unexpected argument '" ++ shown ++ "' found")
        ["to pass '" ++ shown ++ "' as a value, use '-- " ++ shown ++ "'"] (some c.usage)))
    | some o =>
      if o.id = "help" then .error (.info (c.helpText env))
      else if !o.takesValue then do
        let m ← m.setFlag c o
        readCluster c env rest more m
      else
        let (value, rest) := match more with
          | '=' :: v => (some (String.ofList v), rest)
          | [] => nextValue rest
          | v => (some (String.ofList v), rest)
        do
          let m ← m.setValue c o value
          .ok (m, rest)

/-- Read the arguments of a command, at most `fuel` of them. -/
def readCommandArgs (c : CommandSpec) (env : List (String × String)) :
    Nat → List String → Matches → Bool → Except Invocation Matches
  | 0, _, m, _ => .ok m
  | _ + 1, [], m, _ => .ok m
  | fuel + 1, a :: rest, m, trailing =>
    let positional := fun (m : Matches) =>
      match m.input with
      | none =>
        if a.isEmpty then .error (.misuse (missingValueText "<INPUT>"))
        else readCommandArgs c env fuel rest { m with input := some a, used := m.used ++ ["input"] } trailing
      | some _ =>
        .error (.misuse (errorText ("unexpected argument '" ++ a ++ "' found") [] (some c.usage)))
    if trailing then positional m
    else if a = "--" then readCommandArgs c env fuel rest m true
    else if a.startsWith "--" then
      let (name, attached) := splitAttached (a.drop 2).copy
      match c.options.find? (·.long = name) with
      | none => .error (unknownLong c m name)
      | some o =>
        if o.id = "help" then .error (.info (c.helpText env))
        else if !o.takesValue then
          match attached with
          | some v =>
            .error (.misuse (extraValueText v o.display (c.valueUsage m.used o.id)))
          | none => do
            let m ← m.setFlag c o
            readCommandArgs c env fuel rest m trailing
        else
          let (value, rest) := match attached with
            | some v => (some v, rest)
            | none => nextValue rest
          do
            let m ← m.setValue c o value
            readCommandArgs c env fuel rest m trailing
    else if isOptionLike a then do
      let (m, rest) ← readCluster c env rest (a.drop 1).copy.toList m
      readCommandArgs c env fuel rest m trailing
    else positional m

/-- Options still absent take their value from the environment. -/
def fromEnvironment (c : CommandSpec) (env : List (String × String)) (m : Matches) :
    Except Invocation Matches :=
  c.options.foldlM (fun m o =>
    match o.env with
    | some name =>
      match env.find? (·.1 = name) with
      | some (_, v) => if m.values.any (·.1 = o.id) then .ok m else m.setValue c o (some v)
      | none => .ok m
    | none => .ok m) m

/-- Read a command's arguments into its request. -/
def readCommand (c : CommandSpec) (env : List (String × String)) (args : List String) :
    Except Invocation (Bool × Request) := do
  let m ← readCommandArgs c env (args.length + 1) args {} false
  let m ← fromEnvironment c env m
  match m.input with
  | none =>
    .error (.misuse (errorText "the following required arguments were not provided:\n  <INPUT>" []
      (some (c.shortUsage (m.used ++ ["input"])))))
  | some input =>
    let verbose := m.flags.contains "verbose"
    if c.name = "render" then
      .ok (verbose, .render input (m.value? "config") (m.value? "context") (m.value? "output")
        (m.flags.contains "raw"))
    else .ok (verbose, .parse input (m.flags.contains "compact"))

/-- The command of a name. -/
def commandNamed (name : String) : Option CommandSpec := commands.find? (·.name = name)

/-- Answer `help` with the names after it. -/
def helpFor (env : List (String × String)) : List String → Invocation
  | [] => .info programHelp
  | name :: more =>
    let unknown := fun (n usage : String) =>
      Invocation.misuse (errorText ("unrecognized subcommand '" ++ n ++ "'") [] (some usage))
    match commandNamed name, more with
    | some c, [] => .info (c.helpText env)
    | some c, n :: _ => unknown n c.usage
    | none, _ =>
      if name = "help" then
        match more with
        | [] => .info helpCommandHelp
        | n :: _ =>
          -- the `help` command has no help option to point to
          .misuse (errorBody ("unrecognized subcommand '" ++ n ++ "'") []
            (some (programName ++ " help [COMMAND]...")) ++ "\n")
      else unknown name programUsage

/-- The program's short usage: the options given so far, then the command. -/
def programUsageFor (used : List String) : String :=
  if used.isEmpty then programUsage
  else programName ++ String.join (used.map fun id => " --" ++ id) ++ " <COMMAND>"

/-- The error of an unknown long option before the command. A similar program option is the
tip; else a similar option of a command named later on the line. -/
def unknownProgramLong (used : List String) (name : String) (rest : List String) : Invocation :=
  let problem := "unexpected argument '--" ++ name ++ "' found"
  match Similarity.suggest name ["verbose", "help", "version"] with
  | some s =>
    .misuse (errorText problem ["a similar argument exists: '--" ++ s ++ "'"]
      (some (programUsageFor (used ++ [s]))))
  | none =>
    let found := commands.filterMap fun c =>
      match rest.idxOf? c.name, Similarity.suggest name (c.options.map (·.long)) with
      | some i, some s => some (i, c.name, s)
      | _, _ => none
    let best := found.foldl (fun best x => match best with
      | some b => if x.1 < b.1 then some x else best
      | none => some x) none
    match best with
    | some (_, cmd, s) =>
      .misuse (errorText problem ["'" ++ cmd ++ " --" ++ s ++ "' exists"] (some (programUsageFor used)))
    | none => .misuse (errorText problem [] (some (programUsageFor used)))

/-- The error of a name that is no command, with the most similar command as a tip. -/
def unknownCommand (a : String) : Invocation :=
  let tips := (Similarity.suggest a commandNames).toList.map fun s => "a similar subcommand exists: '" ++ s ++ "'"
  .misuse (errorText ("unrecognized subcommand '" ++ a ++ "'") tips (some programUsage))

/-- Read a cluster of the program's short flags: whether verbose is set after it. -/
def readProgramCluster : List Char → Bool → Except Invocation Bool
  | [], verbose => .ok verbose
  | ch :: more, verbose =>
    if ch = 'h' then .error (.info programHelp)
    else if ch = 'V' then .error (.info versionText)
    else if ch = 'v' then
      if verbose then .error (.misuse (repeatedText "--verbose" programUsage))
      else readProgramCluster more true
    else
      .error (.misuse (errorText ("unexpected argument '-" ++ ch.toString ++ "' found") [] (some programUsage)))

/-- Read the program's own options up to the command name, at most `fuel` arguments. -/
def readProgramArgs (env : List (String × String)) : Nat → List String → Bool → Invocation
  | 0, _, _ => .misuse (errorText "'tagmark' requires a subcommand but one was not provided\n  [subcommands: render, parse, help]" [] (some programUsage))
  | _ + 1, [], verbose =>
    .misuse (errorText "'tagmark' requires a subcommand but one was not provided\n  [subcommands: render, parse, help]" []
      (some (programUsageFor (if verbose then ["verbose"] else []))))
  | fuel + 1, a :: rest, verbose =>
    let used := if verbose then ["verbose"] else []
    let setVerbose := fun (next : Unit → Invocation) =>
      if verbose then Invocation.misuse (repeatedText "--verbose" programUsage) else next ()
    if a = "--" then
      match rest with
      | [] => if verbose then readProgramArgs env fuel [] verbose else .misuse programHelp
      | n :: _ =>
        if n = "help" || (commandNamed n).isSome then
          .misuse (errorText ("unexpected argument '" ++ n ++ "' found")
            ["subcommand '" ++ n ++ "' exists; to use it, remove the '--' before it"] (some programUsage))
        else unknownCommand n
    else if a.startsWith "--" then
      let (name, attached) := splitAttached (a.drop 2).copy
      if name = "help" then .info programHelp
      else if name = "version" then .info versionText
      else if name = "verbose" then
        match attached with
        | some v => .misuse (extraValueText v "--verbose" (programUsageFor ["verbose"]))
        | none => setVerbose fun _ => readProgramArgs env fuel rest true
      else unknownProgramLong used name rest
    else if isOptionLike a then
      match readProgramCluster (a.drop 1).copy.toList verbose with
      | .ok verbose => readProgramArgs env fuel rest verbose
      | .error stop => stop
    else
      match commandNamed a with
      | some c =>
        match readCommand c env rest with
        | .ok (v, request) => .run (verbose || v) request
        | .error stop => stop
      | none => if a = "help" then helpFor env rest else unknownCommand a

/-- Read a command line (without the program name) in an environment. -/
def readArgs (args : List String) (env : List (String × String)) : Invocation :=
  match args with
  | [] => .misuse programHelp
  | _ => readProgramArgs env (args.length + 1) args false

end Cli

end Tagweave
