import Tagweave.Json.Basic

/-!
# JSON text

Writing JSON values as text, compact (`Json.compact`: no blanks at all) or indented by two
spaces per level (`Json.pretty`).

Strings are quoted with the fewest escapes: `"` and `\` are escaped, the controls backspace,
form feed, newline, carriage return and tab take their one-letter escapes, other characters
below U+0020 take `\u00xx` with lowercase hex digits, and everything else (DEL and all
non-ASCII) is written as is. Numbers are written as they are kept: integers in decimal,
doubles in `Binary64.NumberStyle.interchange`.
-/

namespace Tagweave

/-- The text of a number. -/
def JsonNumber.text : JsonNumber → String
  | .nat n => toString n
  | .neg n => toString n
  | .float x => x.toText .interchange

namespace Json

/-- Lowercase hex digit. -/
def hexDigit (n : Nat) : Char :=
  if n < 10 then Char.ofNat (48 + n) else Char.ofNat (87 + n)

/-- The escape that stands for `c` inside a quoted string, if `c` needs one. -/
def escapeChar (c : Char) : Option String :=
  if c = '"' then some "\\\""
  else if c = '\\' then some "\\\\"
  else if c = '\n' then some "\\n"
  else if c = '\r' then some "\\r"
  else if c = '\t' then some "\\t"
  else if c.toNat = 8 then some "\\b"
  else if c.toNat = 12 then some "\\f"
  else if c.toNat < 0x20 then
    some (String.ofList ['\\', 'u', '0', '0', hexDigit (c.toNat / 16), hexDigit (c.toNat % 16)])
  else none

/-- Append the quoted form of `s` to `out`. -/
def quoteInto (out s : String) : String :=
  (s.foldl (fun acc c => match escapeChar c with
    | some e => acc ++ e
    | none => acc.push c) (out.push '"')).push '"'

/-- The quoted form of a string. -/
def quote (s : String) : String := quoteInto "" s

mutual
/-- Append the compact text of a value. -/
def writeCompact (out : String) : Json → String
  | .null => out ++ "null"
  | .bool b => out ++ (if b then "true" else "false")
  | .number n => out ++ n.text
  | .string s => quoteInto out s
  | .array items => (writeCompactItems (out.push '[') true items).push ']'
  | .object fields => (writeCompactFields (out.push '{') true fields).push '}'

/-- Append the compact text of array items, comma separated. -/
def writeCompactItems (out : String) (first : Bool) : List Json → String
  | [] => out
  | x :: xs => writeCompactItems (writeCompact (if first then out else out.push ',') x) false xs

/-- Append the compact text of object members, comma separated. -/
def writeCompactFields (out : String) (first : Bool) : List (String × Json) → String
  | [] => out
  | (k, v) :: rest =>
    writeCompactFields
      (writeCompact ((quoteInto (if first then out else out.push ',') k).push ':') v) false rest
end

/-- The compact text of a value: no blanks between tokens. -/
def compact (j : Json) : String := writeCompact "" j

/-- A line break followed by two spaces per level. -/
def newline (out : String) (level : Nat) : String :=
  (out.push '\n') ++ String.ofList (List.replicate (2 * level) ' ')

mutual
/-- Append the indented text of a value whose first line sits at `level`. -/
def writePretty (out : String) (level : Nat) : Json → String
  | .array [] => out ++ "[]"
  | .object [] => out ++ "{}"
  | .array items => (newline (writePrettyItems (out.push '[') (level + 1) true items) level).push ']'
  | .object fields =>
    (newline (writePrettyFields (out.push '{') (level + 1) true fields) level).push '}'
  | j => writeCompact out j

/-- Append array items, one per line at `level`. -/
def writePrettyItems (out : String) (level : Nat) (first : Bool) : List Json → String
  | [] => out
  | x :: xs =>
    writePrettyItems (writePretty (newline (if first then out else out.push ',') level) level x)
      level false xs

/-- Append object members, one per line at `level`, as `"key": value`. -/
def writePrettyFields (out : String) (level : Nat) (first : Bool) :
    List (String × Json) → String
  | [] => out
  | (k, v) :: rest =>
    writePrettyFields
      (writePretty (quoteInto (newline (if first then out else out.push ',') level) k ++ ": ")
        level v)
      level false rest
end

/-- The indented text of a value: one item per line, two spaces per level. -/
def pretty (j : Json) : String := writePretty "" 0 j

end Json

end Tagweave
