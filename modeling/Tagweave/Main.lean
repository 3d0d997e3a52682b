import Tagweave.Cli.Run

/-!
# The program

The entry point runs the command line program against the real file system: it reads the
arguments and the `TAGMARK_CONFIG` variable, carries out the program's `Script` step by step,
prints what the run wrote to the two streams and exits with its status.
-/

namespace Tagweave

/-- The operating system code of an error, if it has one. -/
def osCodeOf : IO.Error → Option Nat
  | .alreadyExists _ c _ | .otherError c _ | .resourceBusy c _ | .resourceVanished c _
  | .unsupportedOperation c _ | .hardwareFault c _ | .unsatisfiedConstraints c _
  | .illegalOperation c _ | .protocolError c _ | .timeExpired c _ | .interrupted _ c _
  | .noFileOrDirectory _ c _ | .invalidArgument _ c _ | .permissionDenied _ c _
  | .resourceExhausted _ c _ | .inappropriateType _ c _ | .noSuchThing _ c _ => some c.toNat
  | .unexpectedEof | .userError _ => none

/-- A file system error as the program reports it. Some operations report the code negated,
which reads as a number near `2 ^ 32`. -/
def ioErrorOf (e : IO.Error) : IoError :=
  let code := (osCodeOf e).getD 5
  .os (if code ≥ Nat.pow 2 31 then Nat.pow 2 32 - code else code)

/-- Carry out a script on the real file system. -/
def perform {α : Type} : Script α → IO α
  | .done a => pure a
  | .loadBytes path next => do
    let r ← try (do
        let bytes ← IO.FS.readBinFile path
        pure (Except.ok bytes))
      catch e => pure (.error (ioErrorOf e))
    perform (next r)
  | .pathExists path next => do
    let r ← try (do
        let _ ← IO.FS.Handle.mk path .read
        pure true)
      catch _ => pure false
    perform (next r)
  | .saveText path contents next => do
    let r ← try (do
        IO.FS.writeFile path contents
        pure (Except.ok ()))
      catch e => pure (.error (ioErrorOf e))
    perform (next r)
  | .workingDir next => do
    let r ← try (do
        let dir ← IO.currentDir
        pure (some dir.toString))
      catch _ => pure none
    perform (next r)

end Tagweave

/-- Run the program. -/
def main (args : List String) : IO UInt32 := do
  let env ← match ← IO.getEnv "TAGMARK_CONFIG" with
    | some v => pure [("TAGMARK_CONFIG", v)]
    | none => pure []
  let outcome ← Tagweave.perform (Tagweave.Cli.run args env)
  IO.print outcome.stdout
  IO.eprint outcome.stderr
  pure outcome.exit.toUInt32
