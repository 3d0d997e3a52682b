import Tagweave.Files.Error

/-!
# File system scripts

A `Script α` is a program that works with files and ends with a value of type `α`. At each
step it has either finished or asks one thing of the file system and says how to go on from
each possible answer. Such a program is plain data, so the same program can be run against
the real file system or against a map of files in memory, and reasoned about step by step.

`Script` is a monad: `bind` runs the first script and continues with the second from its
result.
-/

namespace Tagweave

/-- A program that reads and writes files. -/
inductive Script (α : Type) where
  /-- Finished with a value. -/
  | done (value : α)
  /-- Read a file's bytes. -/
  | loadBytes (path : String) (next : Except IoError ByteArray → Script α)
  /-- Ask whether a path names a file or directory. -/
  | pathExists (path : String) (next : Bool → Script α)
  /-- Write text to a file, creating or replacing it. -/
  | saveText (path : String) (contents : String) (next : Except IoError Unit → Script α)
  /-- Ask for the working directory. -/
  | workingDir (next : Option String → Script α)

namespace Script

/-- Run a script, then continue from its result. -/
def bind {α β : Type} : Script α → (α → Script β) → Script β
  | .done a, f => f a
  | .loadBytes p next, f => .loadBytes p fun r => bind (next r) f
  | .pathExists p next, f => .pathExists p fun r => bind (next r) f
  | .saveText p c next, f => .saveText p c fun r => bind (next r) f
  | .workingDir next, f => .workingDir fun r => bind (next r) f

instance : Monad Script where
  pure := .done
  bind := bind

/-- Read a file's bytes. -/
def read (path : String) : Script (Except IoError ByteArray) := .loadBytes path .done

/-- Read a file as UTF-8 text. -/
def readText (path : String) : Script (Except IoError String) :=
  .loadBytes path fun
    | .error e => .done (.error e)
    | .ok bytes =>
      match String.fromUTF8? bytes with
      | some s => .done (.ok s)
      | none => .done (.error .invalidUtf8)

/-- Whether a path names a file or directory. -/
def exists? (path : String) : Script Bool := .pathExists path .done

/-- Write text to a file. -/
def write (path : String) (contents : String) : Script (Except IoError Unit) :=
  .saveText path contents .done

/-- The working directory, if it can be found. -/
def currentDir : Script (Option String) := .workingDir .done

end Script

end Tagweave
