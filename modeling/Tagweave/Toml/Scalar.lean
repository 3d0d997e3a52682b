import Tagweave.Toml.Syntax
import Tagweave.Binary64.Decimal

/-!
# TOML scalars

Decoding the scalars of a TOML text: strings of the four kinds, integers (decimal with an
optional sign, or hexadecimal, octal and binary with a prefix; `_` only between digits),
floats (a decimal integer part with a fraction, an exponent or both, or `inf` and `nan` with
an optional sign), booleans, and dates and times (seconds optional).

A date and time keeps its text in the normalized form: `T` between date and time, the
fraction of a second without trailing zeros, and `Z` for a zero offset written `z`.
-/

namespace Tagweave

namespace Toml

/-- An error with its message and span. -/
structure TomlError where
  message : String
  span : Span
  deriving Repr

/-- The error of a syntax error: its description followed by what was expected. -/
def ParseError.toError (e : ParseError) : TomlError :=
  let expected := if e.expected.isEmpty then "" else ", expected " ++ ", ".intercalate e.expected
  ⟨e.description ++ expected, e.span⟩

/-- A decoded scalar. -/
inductive Scalar where
  | string (s : String)
  | integer (n : Int)
  | float (x : Binary64)
  | boolean (b : Bool)
  | datetime (text : String)

/-- The double with all exponent bits and the top fraction bit set. -/
def quietNaN (negative : Bool) : Binary64 := Binary64.make negative 0x7FF 0x8000000000000

/-- The characters of a span of the text. -/
def spanText (src : List Char) (s : Span) : List Char := (src.drop s.start).take (s.stop - s.start)

/-- Fail at a span inside a scalar that starts at `base`. -/
def failAt {α : Type} (base : Nat) (description : String) (expected : List String) (start stop : Nat) :
    Except TomlError α :=
  .error (ParseError.toError ⟨description, expected, ⟨base + start, base + stop⟩⟩)

/-- What an error says was expected when nothing was: the word `nothing`. -/
def nothing : List String := ["nothing"]

/-! ### Numbers

A number is checked in a fixed order, and the first problem found is its error: the sign
and the prefix, the digits of each part (a leading zero only where a part is one digit
long), the characters left over, the place of every `_`, and last whether the value fits:
an integer in 64 bits, a float short of infinity. -/

/-- The kind of a number, for the wording of its errors. -/
inductive NumberKind where
  | decimal
  | hex
  | octal
  | binary
  | float
  deriving DecidableEq

/-- The error description of a malformed number of a kind. -/
def NumberKind.invalid : NumberKind → String
  | .decimal => "invalid integer"
  | .hex => "invalid hexadecimal integer"
  | .octal => "invalid octal integer"
  | .binary => "invalid binary integer"
  | .float => "invalid float"

/-- Whether a character is a decimal digit. -/
def isDecimal (c : Char) : Bool := '0' ≤ c && c ≤ '9'

/-- Whether a character is a digit of a number kind. -/
def NumberKind.isDigit : NumberKind → Char → Bool
  | .hex, c => isDecimal c || ('a' ≤ c && c ≤ 'f') || ('A' ≤ c && c ≤ 'F')
  | .octal, c => '0' ≤ c && c ≤ '7'
  | .binary, c => c = '0' || c = '1'
  | _, c => isDecimal c

/-- The radix of a number kind. -/
def NumberKind.radix : NumberKind → Nat
  | .hex => 16
  | .octal => 8
  | .binary => 2
  | _ => 10

/-- The value of digits in a radix. -/
def digitsValue (radix : Nat) (cs : List Char) : Nat :=
  cs.foldl (fun acc c =>
    let d := if '0' ≤ c && c ≤ '9' then c.toNat - '0'.toNat
      else if 'a' ≤ c && c ≤ 'f' then c.toNat - 'a'.toNat + 10
      else c.toNat - 'A'.toNat + 10
    acc * radix + d) 0

/-- The least 64-bit signed integer. -/
def minInteger : Int := -9223372036854775808

/-- The greatest 64-bit signed integer. -/
def maxInteger : Int := 9223372036854775807

/-- A run of decimal digits and `_` at `off`, at least one digit, and more than one only
without a leading zero unless `zeroPrefix`: the rest and its offset. -/
def ensureDigits (base : Nat) (description : String) (zeroPrefix : Bool) (cs : List Char) (off : Nat) :
    Except TomlError (List Char × Nat) :=
  let run := cs.takeWhile fun c => isDecimal c || c = '_'
  let count := (run.filter isDecimal).length
  if count = 0 then failAt base description ["digits"] off off
  else if 1 < count && run.head? = some '0' && !zeroPrefix then
    failAt base "unexpected leading zero" nothing off (off + 1)
  else .ok (cs.drop run.length, off + run.length)

/-- Check the shape of a float written at `off`: a mantissa, an optional fraction after `.`,
an optional exponent after `e` or `E` with an optional sign, and nothing more before `len`. -/
def ensureFloat (base : Nat) (cs : List Char) (off len : Nat) : Except TomlError Unit := do
  let (cs, off) ← ensureDigits base "invalid mantissa" false cs off
  let (cs, off) ← match cs with
    | '.' :: rest => ensureDigits base "invalid fraction" true rest (off + 1)
    | _ => pure (cs, off)
  let (cs, off) ← match cs with
    | 'e' :: rest | 'E' :: rest =>
      match rest with
      | '+' :: r | '-' :: r => ensureDigits base "invalid exponent" true r (off + 2)
      | r => ensureDigits base "invalid exponent" true r (off + 1)
    | _ => pure (cs, off)
  if cs.isEmpty then pure () else failAt base "invalid float" [] off len

/-- Check the digits of a prefixed integer written at `off`: no sign, and only digits of its
kind and `_`. -/
def ensureRadixed (base : Nat) (kind : NumberKind) (cs : List Char) (off : Nat) : Except TomlError Unit :=
  match cs with
  | '+' :: _ | '-' :: _ => failAt base "unexpected sign" nothing off (off + 1)
  | _ =>
    match cs.findIdx? fun c => !kind.isDigit c && c ≠ '_' with
    | some i => failAt base kind.invalid [] (off + i) (off + i)
    | none => pure ()

/-- Check where the `_` of a number written at `off` stand (each between two digits, the
text being `len` long) and drop them. -/
def dropUnderscores (base : Nat) (kind : NumberKind) (cs : List Char) (off len : Nat) :
    Except TomlError (List Char) := do
  let message := "`_` may only go between digits"
  if cs.contains '_' then
    if cs.head? = some '_' then failAt base message nothing 0 1
    if 1 < cs.length && cs.getLast? = some '_' then
      failAt base message nothing (off + cs.length - 1) (off + cs.length)
    let _ ← (cs.splitOn '_').foldlM (fun (start : Nat) (part : List Char) => do
      let stop := start + part.length
      if 0 < start && !(part.head?.any kind.isDigit) then failAt base message nothing (start - 1) start
      if 1 < part.length && stop < len && !(part.getLast?.any kind.isDigit) then
        failAt base message nothing stop (stop + 1)
      pure (stop + 1)) off
  pure (cs.filter (· ≠ '_'))

/-- The integer of a kind that digits (with a sign, for decimals) stand for; one that is not
a 64-bit integer overflows. -/
def finishInteger (base len : Nat) (kind : NumberKind) (cs : List Char) : Except TomlError Scalar :=
  let (negative, ds) := match cs with
    | '-' :: r => (true, r)
    | '+' :: r => (false, r)
    | r => (false, r)
  let n : Int := digitsValue kind.radix ds
  let v := if negative then -n else n
  if ds.isEmpty || !ds.all kind.isDigit || v < minInteger || maxInteger < v then
    failAt base "integer number overflowed" [] 0 len
  else .ok (.integer v)

/-- The float that a checked float text (underscores dropped) stands for; one beyond the
largest double overflows. -/
def finishFloat (base len : Nat) (cs : List Char) : Except TomlError Scalar :=
  let (negative, cs) := match cs with
    | '-' :: r => (true, r)
    | '+' :: r => (false, r)
    | r => (false, r)
  let whole := cs.takeWhile isDecimal
  let rest := cs.drop whole.length
  let frac := match rest with
    | '.' :: r => r.takeWhile isDecimal
    | _ => []
  let rest := match rest with
    | '.' :: r => r.drop frac.length
    | r => r
  let expo : Int := match rest with
    | _ :: '-' :: ds => -(digitsValue 10 ds : Int)
    | _ :: '+' :: ds => digitsValue 10 ds
    | _ :: ds => digitsValue 10 ds
    | [] => 0
  let x := Binary64.ofDecimal negative (digitsValue 10 (whole ++ frac)) (expo - frac.length)
  if x.isFinite then .ok (.float x) else failAt base "floating-point number overflowed" [] 0 len

/-- Decode a number of a kind from `stream`, which starts at offset `off` of a text `len`
long. -/
def finishNumber (base len : Nat) (kind : NumberKind) (stream : List Char) (off : Nat) :
    Except TomlError Scalar := do
  let cs ← dropUnderscores base kind stream off len
  if kind = .float then finishFloat base len cs else finishInteger base len kind cs

/-! ### Dates and times

A date and time is read as a sequence of pieces: runs of digits, `-`, `:`, `.`, `T`, a space,
`Z` and `+`. Each problem has its own wording, `invalid <part>, expected <what>`, where the
part is the date, the time, the offset or the date-time. -/

/-- The pieces of a date and time. -/
inductive DatePiece where
  | digits (ds : List Char)
  | dash
  | colon
  | dot
  | timeMark
  | space
  | zulu
  | plus
  | other
  deriving DecidableEq

/-- Cut a date and time into pieces. -/
def datePieces (cs : List Char) : List DatePiece :=
  go cs.length cs []
where
  /-- Cut with at most `fuel` pieces. -/
  go : Nat → List Char → List DatePiece → List DatePiece
    | 0, _, acc => acc.reverse
    | _ + 1, [], acc => acc.reverse
    | fuel + 1, c :: rest, acc =>
      if isDecimal c then
        let ds := (c :: rest).takeWhile isDecimal
        go fuel (rest.drop (ds.length - 1)) (.digits ds :: acc)
      else
        let piece := match c with
          | '-' => DatePiece.dash
          | ':' => .colon
          | '.' => .dot
          | 'T' | 't' => .timeMark
          | ' ' => .space
          | 'Z' | 'z' => .zulu
          | '+' => .plus
          | _ => .other
        go fuel rest (piece :: acc)

/-- The wording of a date and time error. -/
def dateError {α : Type} (what expected : Option String) : Except String α :=
  .error (match what, expected with
    | some w, some e => "invalid " ++ w ++ ", expected " ++ e
    | some w, none => "invalid " ++ w
    | none, some e => "failed to parse datetime, expected " ++ e
    | none, none => "failed to parse datetime")

/-- The next piece, which must be a run of digits. -/
def takeDigits (what : Option String) (expected : String) :
    List DatePiece → Except String (List Char × List DatePiece)
  | .digits ds :: rest => .ok (ds, rest)
  | _ => dateError what (some expected)

/-- The next piece, which must be `p`. -/
def takePiece (p : DatePiece) (what : Option String) (expected : String) :
    List DatePiece → Except String (List DatePiece)
  | q :: rest => if q = p then .ok rest else dateError what (some expected)
  | [] => dateError what (some expected)

/-- Two digits. -/
def twoDigits (n : Nat) : String := if n < 10 then "0" ++ toString n else toString n

/-- The date at the start: its text and the pieces after it. -/
def readDate (ps : List DatePiece) : Except String (String × List DatePiece) := do
  let (year, ps) ← takeDigits none "year or hour" ps
  let ps ← takePiece .dash none "`-` (YYYY-MM) or `:` (HH:MM)" ps
  let (month, ps) ← takeDigits (some "date") "month" ps
  let ps ← takePiece .dash (some "date") "`-` (MM-DD)" ps
  let (day, ps) ← takeDigits (some "date") "day" ps
  if year.length ≠ 4 then dateError (some "date") (some "a four-digit year (YYYY)")
  if month.length ≠ 2 then dateError (some "date") (some "a two-digit month (MM)")
  if day.length ≠ 2 then dateError (some "date") (some "a two-digit day (DD)")
  let (y, m, d) := (digitsValue 10 year, digitsValue 10 month, digitsValue 10 day)
  if m < 1 || 12 < m then dateError (some "date") (some "month between 01 and 12")
  let leap := y % 4 = 0 && (y % 100 ≠ 0 || y % 400 = 0)
  let most := if m = 2 then (if leap then 29 else 28)
    else if m = 4 || m = 6 || m = 9 || m = 11 then 30 else 31
  if d < 1 || most < d then dateError (some "date") (some ("day between 01 and " ++ toString most))
  pure (String.ofList year ++ "-" ++ String.ofList month ++ "-" ++ String.ofList day, ps)

/-- The time at the start, seconds and their fraction optional: its text and the pieces
after it. A fraction keeps nine digits at most, without trailing zeros. -/
def readTime (ps : List DatePiece) : Except String (String × List DatePiece) := do
  let (hour, ps) ← takeDigits (some "time") "hour" ps
  let ps ← takePiece .colon (some "time") "`:` (HH:MM)" ps
  let (minute, ps) ← takeDigits (some "time") "minute" ps
  let (second, ps) ← match ps with
    | .colon :: rest => do
      let (s, rest) ← takeDigits (some "time") "second" rest
      pure (some s, rest)
    | _ => pure (none, ps)
  let (fraction, ps) ← match second, ps with
    | some _, .dot :: rest => do
      let (f, rest) ← takeDigits (some "time") "nanosecond" rest
      pure (some f, rest)
    | _, _ => pure (none, ps)
  if hour.length ≠ 2 then dateError (some "time") (some "a two-digit hour (HH)")
  if minute.length ≠ 2 then dateError (some "time") (some "a two-digit minute (MM)")
  if second.any (·.length ≠ 2) then dateError (some "time") (some "a two-digit second (SS)")
  if 23 < digitsValue 10 hour then dateError (some "time") (some "hour between 00 and 23")
  if 59 < digitsValue 10 minute then dateError (some "time") (some "minute between 00 and 59")
  if second.any (60 < digitsValue 10 ·) then dateError (some "time") (some "second between 00 and 60")
  let secondText := match second with
    | some s => ":" ++ String.ofList s
    | none => ""
  let fractionText := match fraction with
    | some f =>
      let nine := f.take 9 ++ List.replicate (9 - min 9 f.length) '0'
      let trimmed := (nine.reverse.dropWhile (· = '0')).reverse
      if trimmed.isEmpty then "" else "." ++ String.ofList trimmed
    | none => ""
  pure (String.ofList hour ++ ":" ++ String.ofList minute ++ secondText ++ fractionText, ps)

/-- The offset at the start, if any: its text and the pieces after it. -/
def readOffset (ps : List DatePiece) : Except String (String × List DatePiece) :=
  match ps with
  | [] => .ok ("", [])
  | .zulu :: rest => .ok ("Z", rest)
  | sign :: rest =>
    if sign = .plus || sign = .dash then do
      let (hours, rest) ← takeDigits (some "offset") "hour" rest
      let rest ← takePiece .colon (some "offset") "`:` (HH:MM)" rest
      let (minutes, rest) ← takeDigits (some "offset") "minute" rest
      if hours.length ≠ 2 then dateError (some "offset") (some "a two-digit hour (HH)")
      if minutes.length ≠ 2 then dateError (some "offset") (some "a two-digit minute (MM)")
      let (h, m) := (digitsValue 10 hours, digitsValue 10 minutes)
      if 23 < h then dateError (some "offset") (some "hours between 00 and 23")
      if 59 < m then dateError (some "offset") (some "minutes between 00 and 59")
      let text := if sign = .dash && (h ≠ 0 || m ≠ 0) then "-" else "+"
      pure (text ++ twoDigits h ++ ":" ++ twoDigits m, rest)
    else dateError (some "offset") (some "`Z`, +OFFSET, -OFFSET")

/-- A date, a time, or a date and time with an optional offset, as the whole text: its
normal form, `T` between date and time. -/
def readDatetime (cs : List Char) : Except String String := do
  let ps := datePieces cs
  let (text, rest) ← match ps with
    | .digits _ :: .colon :: _ => readTime ps
    | .digits _ :: .dash :: _ => do
      let (date, rest) ← readDate ps
      match rest with
      | [] => pure (date, [])
      | p :: more =>
        if p = .timeMark || p = .space then do
          let (time, more) ← readTime more
          let (offset, more) ← readOffset more
          pure (date ++ "T" ++ time ++ offset, more)
        else dateError (some "date-time") (some "`T` between date and time")
    | .digits _ :: _ :: _ => dateError none (some "`-` (YYYY-MM) or `:` (HH:MM)")
    | [.digits _] => dateError none (some "`-` (YYYY-MM) or `:` (HH:MM)")
    | _ => dateError none (some "year or hour")
  if rest.isEmpty then pure text else dateError none none

/-! ### Unquoted scalars -/

/-- Decode a symbol (`true`, `false`, `inf`, `nan`): it must be written exactly so. -/
def symbol (base : Nat) (text : List Char) (word : String) (description : String) (value : Scalar) :
    Except TomlError Scalar :=
  if text = word.toList then .ok value
  else failAt base description ["`" ++ word ++ "`"] 0 text.length

/-- The error of a text that is no scalar: a string without quotes. -/
def unquotedString {α : Type} (base len : Nat) : Except TomlError α :=
  failAt base "string values must be quoted" ["literal string"] 0 len

/-- Decode a date and time written as the whole text. -/
def datetimeScalar (base : Nat) (text : List Char) : Except TomlError Scalar :=
  match readDatetime text with
  | .ok t => .ok (.datetime t)
  | .error message => .error ⟨message, ⟨base, base + text.length⟩⟩

/-- Decode a text whose number part `value`, at offset `off`, starts with a digit other
than a lone zero or with `_`: a date or time when its first digits are followed by `-` or
`:`, a float when what follows has `.`, `e` or `E`, an integer when it is all digits or goes
on with `_`. -/
def decodeDigits (base : Nat) (text value : List Char) (off : Nat) : Except TomlError Scalar :=
  let len := text.length
  let digits := value.takeWhile isDecimal
  let rest := value.drop digits.length
  let leadingZero : Except TomlError Unit :=
    if value.head? = some '0' then failAt base "unexpected leading zero" nothing off (off + 1) else pure ()
  match rest with
  | [] => do leadingZero; finishNumber base len .decimal text 0
  | r :: _ =>
    if r = '-' || r = ':' then datetimeScalar base text
    else if rest.contains ' ' then unquotedString base len
    else if rest.any (fun c => c = '.' || c = 'e' || c = 'E') then do
      ensureFloat base value off len
      finishNumber base len .float text 0
    else if r = '_' then do
      leadingZero
      ensureRadixed base .decimal value off
      finishNumber base len .decimal text 0
    else unquotedString base len

/-- Decode a number whose part `value`, at offset `off`, starts with `0` (`signed` when a
sign came before it). -/
def decodeZero (base : Nat) (text value : List Char) (off : Nat) (signed : Bool) :
    Except TomlError Scalar :=
  let len := text.length
  let radixed := fun (kind : NumberKind) (upper : Char) (prefixText : String) => do
    if signed then failAt base "integers with a radix cannot be signed" nothing 0 1
    if value.getD 1 ' ' = upper then failAt base "radix must be lowercase" ["`" ++ prefixText ++ "`"] off (off + 2)
    ensureRadixed base kind (value.drop 2) (off + 2)
    finishNumber base len kind (value.drop 2) (off + 2)
  match value with
  | [_] => finishNumber base len .decimal text 0
  | _ :: r :: _ =>
    if r = 'x' || r = 'X' then radixed .hex 'X' "0x"
    else if r = 'o' || r = 'O' then radixed .octal 'O' "0o"
    else if r = 'b' || r = 'B' then radixed .binary 'B' "0b"
    else if r = 'e' || r = 'E' || r = '.' then do
      ensureFloat base value off len
      finishNumber base len .float text 0
    else decodeDigits base text value off
  | [] => unquotedString base len

/-- Decode what follows a sign at offset `off`: a number, `inf` or `nan`. -/
def decodeSigned (base : Nat) (text : List Char) : Nat → List Char → Nat → Except TomlError Scalar
  | 0, _, _ => unquotedString base text.length
  | fuel + 1, value, off =>
    let len := text.length
    let negative := text.head? = some '-'
    match value with
    | [] => unquotedString base len
    | c :: rest =>
      if c = '+' || c = '-' then do
        failAt base "redundant numeric sign" nothing off (off + 1)
        decodeSigned base text fuel rest (off + 1)
      else if c = '_' || ('1' ≤ c && c ≤ '9') then decodeDigits base text value off
      else if c = '0' then decodeZero base text value off true
      else if c = '.' then do
        ensureFloat base value off len
        finishNumber base len .float text 0
      else if c = 'i' || c = 'I' then
        if value = "inf".toList then .ok (.float (Binary64.infinity negative))
        else failAt base "invalid float" ["`inf`"] off len
      else if c = 'n' || c = 'N' then
        if value = "nan".toList then .ok (.float (quietNaN negative))
        else failAt base "invalid float" ["`nan`"] off len
      else unquotedString base len

/-- Decode an unquoted scalar starting at position `base`. -/
def decodeUnquoted (base : Nat) (text : List Char) : Except TomlError Scalar :=
  match text with
  | [] => failAt base "string values must be quoted" ["literal string"] 0 0
  | c :: rest =>
    if c = '+' || c = '-' then decodeSigned base text rest.length rest 1
    else if c = '_' || ('1' ≤ c && c ≤ '9') then decodeDigits base text text 0
    else if c = '0' then decodeZero base text text 0 false
    else if c = '.' then do
      ensureFloat base text 0 text.length
      finishNumber base text.length .float text 0
    else if c = 't' || c = 'T' then symbol base text "true" "invalid boolean" (.boolean true)
    else if c = 'f' || c = 'F' then symbol base text "false" "invalid boolean" (.boolean false)
    else if c = 'i' || c = 'I' then symbol base text "inf" "invalid float" (.float (Binary64.infinity false))
    else if c = 'n' || c = 'N' then symbol base text "nan" "invalid float" (.float (quietNaN false))
    else unquotedString base text.length

/-! ### Strings -/

/-- Whether a character may not appear raw in a string: a control character other than
tab. -/
def isStringControl (c : Char) : Bool := (c.toNat < 0x20 && c ≠ '\t') || c.toNat = 0x7F

/-- Decode the escapes of a basic string body (`multiline` lets a backslash at the end of a
line swallow the line break and the blanks after it). `base` is the position of the body. -/
def unescapeBasic (base : Nat) (multiline : Bool) (cs : List Char) : Except TomlError String :=
  go cs 0 []
where
  /-- Decode from index `i` of the body. -/
  go : List Char → Nat → List Char → Except TomlError String
    | [], _, acc => .ok (String.ofList acc.reverse)
    | '\\' :: rest, i, acc =>
      match rest with
      | 'b' :: more => go more (i + 2) ('\x08' :: acc)
      | 't' :: more => go more (i + 2) ('\t' :: acc)
      | 'n' :: more => go more (i + 2) ('\n' :: acc)
      | 'f' :: more => go more (i + 2) ('\x0c' :: acc)
      | 'r' :: more => go more (i + 2) ('\r' :: acc)
      | 'e' :: more => go more (i + 2) ('\x1b' :: acc)
      | '"' :: more => go more (i + 2) ('"' :: acc)
      | '\\' :: more => go more (i + 2) ('\\' :: acc)
      | 'u' :: more => hex 4 more (i + 2) acc
      | 'U' :: more => hex 8 more (i + 2) acc
      | 'x' :: more => hex 2 more (i + 2) acc
      | c :: more =>
        let blanks := (c :: more).takeWhile fun d => d = ' ' || d = '\t'
        let after := (c :: more).drop blanks.length
        if multiline && (after.head? = some '\n' || after.take 2 = ['\r', '\n']) then
          let skipped := (c :: more).takeWhile fun d => d = ' ' || d = '\t' || d = '\n' || d = '\r'
          go ((c :: more).drop skipped.length) (i + 1 + skipped.length) acc
        else
          failAt base "missing escaped value" ["`b`", "`f`", "`n`", "`r`", "`\\\\`", "`\"`", "`u`", "`U`"] i (i + 2)
      | [] => failAt base "missing escaped value" ["`b`", "`f`", "`n`", "`r`", "`\\\\`", "`\"`", "`u`", "`U`"] i (i + 1)
    | c :: rest, i, acc =>
      if isStringControl c && !(multiline && (c = '\n' || c = '\r')) then
        failAt base "invalid basic string" [] i (i + 1)
      else go rest (i + 1) (c :: acc)
  termination_by cs => cs.length
  decreasing_by
    all_goals simp only [List.length_cons, List.length_drop]
    all_goals omega
  /-- A hexadecimal escape of `n` digits, the first at index `i`. -/
  hex (n : Nat) (cs : List Char) (i : Nat) (acc : List Char) : Except TomlError String :=
    let ds := (cs.take n).takeWhile NumberKind.hex.isDigit
    if ds.length = n then
      let v := digitsValue 16 ds
      if v ≤ 0x10FFFF && !(0xD800 ≤ v && v ≤ 0xDFFF) then go (cs.drop n) (i + n) (Char.ofNat v :: acc)
      else failAt base "invalid value" ["unicode hexadecimal value"] i i
    else failAt base "too few unicode value digits" ["unicode hexadecimal value"] (i + ds.length) (i + ds.length)
  termination_by cs.length + 1
  decreasing_by
    all_goals simp only [List.length_drop]
    all_goals omega

/-- Decode a string token of the given kind. -/
def decodeString (src : List Char) (span : Span) (kind : TokenKind) : Except TomlError String :=
  let text := spanText src span
  let len := text.length
  match kind with
  | .literalString =>
    if 2 ≤ len && text.getLast? = some '\'' then
      let body := (text.drop 1).take (len - 2)
      match body.findIdx? isStringControl with
      | some i => failAt span.start "invalid literal string" [] (i + 1) (i + 2)
      | none => .ok (String.ofList body)
    else failAt span.start "invalid literal string" ["`'`"] len len
  | .basicString =>
    if 2 ≤ len && text.getLast? = some '"' then
      unescapeBasic (span.start + 1) false ((text.drop 1).take (len - 2))
    else failAt span.start "invalid basic string" ["`\"`"] len len
  | .mlLiteralString =>
    if 6 ≤ len && text.drop (len - 3) = ['\'', '\'', '\''] then
      let body := (text.drop 3).take (len - 6)
      let body := match body with
        | '\n' :: r => r
        | '\r' :: '\n' :: r => r
        | r => r
      match body.findIdx? fun c => isStringControl c && c ≠ '\n' && c ≠ '\r' with
      | some i => failAt span.start "invalid multi-line literal string" [] (i + 3) (i + 4)
      | none => .ok (String.ofList body)
    else failAt span.start "invalid multi-line literal string" ["`'''`"] len len
  | .mlBasicString =>
    if 6 ≤ len && text.drop (len - 3) = ['"', '"', '"'] then
      let body := (text.drop 3).take (len - 6)
      let (body, skip) := match body with
        | '\n' :: r => (r, 1)
        | '\r' :: '\n' :: r => (r, 2)
        | r => (r, 0)
      unescapeBasic (span.start + 3 + skip) true body
    else failAt span.start "invalid multi-line basic string" ["`\"\"\"`"] len len
  | _ => decodeUnquoted span.start text |>.bind fun
    | .string s => .ok s
    | _ => failAt span.start "string values must be quoted" ["literal string"] 0 len

/-- Decode a scalar value. -/
def decodeScalar (src : List Char) (span : Span) (kind : TokenKind) : Except TomlError Scalar :=
  if kind.isString then (decodeString src span kind).map Scalar.string
  else decodeUnquoted span.start (spanText src span)

/-- Decode a key part: a bare key of letters, digits, `-` and `_`, or a one-line string. -/
def decodeKey (src : List Char) (part : KeyPart) : Except TomlError String :=
  let text := spanText src part.span
  let expected := ["letters", "numbers", "`-`", "`_`"]
  match part.kind with
  | .atom =>
    if text.isEmpty then failAt part.span.start "unquoted keys cannot be empty" expected 0 0
    else match text.findIdx? (fun c => !(isDecimal c || ('a' ≤ c && c ≤ 'z') || ('A' ≤ c && c ≤ 'Z') || c = '-' || c = '_')) with
      | some i => failAt part.span.start "invalid unquoted key" expected i (i + 1)
      | none => .ok (String.ofList text)
  | .mlLiteralString | .mlBasicString =>
    failAt part.span.start "multi-line strings are not supported for keys" [] 0 text.length
  | k => decodeString src part.span k

end Toml

end Tagweave
