/-!
# File system errors

An error from the file system is an operating system error code, shown with its standard
description and code (`No such file or directory (os error 2)`), or the text of a file that
is not UTF-8 when text was wanted.
-/

namespace Tagweave

/-- An error from reading or writing a file. -/
inductive IoError where
  /-- An operating system error, by its code. -/
  | os (code : Nat)
  /-- A file read as text holds bytes that are not UTF-8. -/
  | invalidUtf8
  deriving DecidableEq, Repr

namespace IoError

/-- No file or directory at the path, or a missing directory on the way. -/
def notFound : IoError := .os 2

/-- A directory where a file was wanted. -/
def isDirectory : IoError := .os 21

/-- A file where a directory was wanted on the way to a path. -/
def notDirectory : IoError := .os 20

/-- The standard description of an error code. -/
def describeCode : Nat → String
  | 1 => "Operation not permitted"
  | 2 => "No such file or directory"
  | 5 => "Input/output error"
  | 13 => "Permission denied"
  | 17 => "File exists"
  | 20 => "Not a directory"
  | 21 => "Is a directory"
  | 28 => "No space left on device"
  | 30 => "Read-only file system"
  | 36 => "File name too long"
  | 40 => "Too many levels of symbolic links"
  | code => "Unknown error " ++ toString code

/-- The text of an error. -/
def message : IoError → String
  | .os code => describeCode code ++ " (os error " ++ toString code ++ ")"
  | .invalidUtf8 => "stream did not contain valid UTF-8"

end IoError

end Tagweave
