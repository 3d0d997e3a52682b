import Tagweave.Json.Text

/-!
# Reading JSON text

`Json.parse` reads one JSON value from text, with blanks (space, tab, line feed, carriage
return) around it, and reports the first problem with its line and column.

* Integers stay integers while they fit: `[0, 2^64)` unsigned, `[-2^63, 0)` signed. Any
  other number becomes a double, computed as the double nearest to its (at most 64-bit)
  significand, then multiplied or divided once by the double nearest to the power of ten
  (by `1e308` repeatedly first when the power is beyond the table). This two-step rounding
  is part of the format's contract: it is not always the double nearest to the text.
  Digits beyond a 64-bit significand only move the exponent.
* A magnitude that overflows to infinity is an error, and `-0` is the double `-0.0`.
* Objects are maps: a repeated key keeps its last value, and keys come out sorted.
* Containers nest at most 127 deep.
* Positions: the line is 1-based and the column counts bytes from the start of the line, so
  the column of a character is its 1-based byte position on the line when the error is
  reported after reading it, and the byte count before it otherwise.
-/

namespace Tagweave

/-- What went wrong while reading JSON. -/
inductive JsonErrorCode where
  | eofWhileParsingList
  | eofWhileParsingObject
  | eofWhileParsingString
  | eofWhileParsingValue
  | expectedColon
  | expectedListCommaOrEnd
  | expectedObjectCommaOrEnd
  | expectedSomeIdent
  | expectedSomeValue
  | invalidEscape
  | invalidNumber
  | numberOutOfRange
  | controlCharacterWhileParsingString
  | keyMustBeAString
  | loneLeadingSurrogateInHexEscape
  | trailingComma
  | trailingCharacters
  | unexpectedEndOfHexEscape
  | recursionLimitExceeded
  deriving DecidableEq, Repr

/-- The wording of each problem. -/
def JsonErrorCode.message : JsonErrorCode → String
  | .eofWhileParsingList => "EOF while parsing a list"
  | .eofWhileParsingObject => "EOF while parsing an object"
  | .eofWhileParsingString => "EOF while parsing a string"
  | .eofWhileParsingValue => "EOF while parsing a value"
  | .expectedColon => "expected `:`"
  | .expectedListCommaOrEnd => "expected `,` or `]`"
  | .expectedObjectCommaOrEnd => "expected `,` or `\x7d`"
  | .expectedSomeIdent => "expected ident"
  | .expectedSomeValue => "expected value"
  | .invalidEscape => "invalid escape"
  | .invalidNumber => "invalid number"
  | .numberOutOfRange => "number out of range"
  | .controlCharacterWhileParsingString =>
    "control character (\\u0000-\\u001F) found while parsing a string"
  | .keyMustBeAString => "key must be a string"
  | .loneLeadingSurrogateInHexEscape => "lone leading surrogate in hex escape"
  | .trailingComma => "trailing comma"
  | .trailingCharacters => "trailing characters"
  | .unexpectedEndOfHexEscape => "unexpected end of hex escape"
  | .recursionLimitExceeded => "recursion limit exceeded"

/-- A reading problem and where it was found. -/
structure JsonError where
  code : JsonErrorCode
  line : Nat
  column : Nat
  deriving DecidableEq, Repr

/-- `<problem> at line L column C`. -/
def JsonError.message (e : JsonError) : String :=
  s!"{e.code.message} at line {e.line} column {e.column}"

namespace Json

/-- A reading position: the characters left, the byte offset of the first of them, the line
and byte offset where the current line starts, and the byte length of the whole text. -/
structure Cursor where
  rest : List Char
  index : Nat
  line : Nat
  lineStart : Nat
  total : Nat

/-- The cursor past its first character. -/
def Cursor.advance (c : Cursor) : Cursor :=
  match c.rest with
  | [] => c
  | ch :: rest =>
    let index := c.index + ch.utf8Size
    if ch = '\n' then ⟨rest, index, c.line + 1, index, c.total⟩
    else ⟨rest, index, c.line, c.lineStart, c.total⟩

/-- The first character, if any. -/
def Cursor.peek (c : Cursor) : Option Char := c.rest.head?

/-- A problem located `n` bytes past the cursor, or at the end of the text if that is
nearer. Line breaks passed on the way count. -/
def Cursor.failAt (c : Cursor) (n : Nat) (code : JsonErrorCode) : JsonError :=
  let target := min (c.index + n) c.total
  let rec go : List Char → Cursor → Cursor
    | [], d => d
    | _ :: rest, d => if d.index < target then go rest d.advance else d
  let d := go c.rest c
  ⟨code, d.line, target - d.lineStart⟩

/-- A problem located at the cursor. -/
def Cursor.fail (c : Cursor) (code : JsonErrorCode) : JsonError := c.failAt 0 code

/-- A problem located one byte past the cursor. -/
def Cursor.failAhead (c : Cursor) (code : JsonErrorCode) : JsonError := c.failAt 1 code

/-- A problem located at the end of the text. -/
def Cursor.failAtEnd (c : Cursor) (code : JsonErrorCode) : JsonError := c.failAt c.total code

/-- Skip blanks: space, tab, line feed, carriage return. -/
def skipBlanks (c : Cursor) : Cursor :=
  let blanks := c.rest.takeWhile (fun ch => ch = ' ' || ch = '\n' || ch = '\t' || ch = '\r')
  blanks.foldl (fun acc _ => acc.advance) c

/-- The result of one reading step. -/
abbrev Step (α : Type) := Except JsonError (α × Cursor)

/-- Whether an ASCII digit. -/
def isDigit (ch : Char) : Bool := '0' ≤ ch && ch ≤ '9'

/-- The digit's value. -/
def digitValue (ch : Char) : Nat := ch.toNat - 48

/-- The double nearest to the power of ten `10 ^ k`, for `k ≤ 308`. -/
def powerOfTen (k : Nat) : Binary64 := Binary64.ofDecimal false 1 k

/-- The double of `significand · 10 ^ exp`, rounded in two steps: the significand to a
double, then one product or quotient with `powerOfTen`. Exponents below `-308` first divide
by `1e308` until they are in range or the value is zero; a product that overflows is
`none`. -/
def scaleByTen (positive : Bool) (significand : Nat) (exp : Int) : Option Binary64 :=
  let f := Binary64.ofRatio false significand 1
  let rec go : Nat → Binary64 → Int → Option Binary64
    | 0, f, _ => some f
    | fuel + 1, f, e =>
      if e.natAbs ≤ 308 then
        if 0 ≤ e then
          let g := Binary64.mul f (powerOfTen e.toNat)
          if g.isFinite then some g else none
        else some (Binary64.div f (powerOfTen e.natAbs))
      else if f.isZero then some f
      else if 0 ≤ e then none
      else go fuel (Binary64.div f (powerOfTen 308)) (e + 308)
  (go (exp.natAbs / 308 + 2) f exp).map fun g => if positive then g else g.neg

/-- Whether `n · 10 + d` exceeds `limit`. -/
def overflows (n d limit : Nat) : Bool := n * 10 + d > limit

/-- Skip digits. -/
def skipDigits (c : Cursor) : Cursor :=
  (c.rest.takeWhile isDigit).foldl (fun acc _ => acc.advance) c

/-- The double for a finished number, or the out-of-range error at the cursor. -/
def finishFloat (positive : Bool) (significand : Nat) (exp : Int) (c : Cursor) :
    Step JsonNumber :=
  match scaleByTen positive significand exp with
  | some f => .ok (.float f, c)
  | none => .error (c.fail .numberOutOfRange)

/-- Read the exponent part, the cursor at `e` or `E`. -/
def readExponent (positive : Bool) (significand : Nat) (start : Int) (c : Cursor) :
    Step JsonNumber :=
  let c := c.advance
  let (expPositive, c) :=
    match c.peek with
    | some '+' => (true, c.advance)
    | some '-' => (false, c.advance)
    | _ => (true, c)
  match c.peek with
  | none => .error (c.fail .eofWhileParsingValue)
  | some ch =>
    if !isDigit ch then .error (c.failAt 1 .invalidNumber)
    else
      let digits := c.rest.takeWhile isDigit
      -- the exponent accumulates as a 32-bit signed integer
      let rec go : List Char → Nat → Cursor → Step JsonNumber
        | [], e, c =>
          let e : Int := e
          let final := if expPositive then start + e else start - e
          let final := max (-2147483648) (min 2147483647 final)
          finishFloat positive significand final c
        | d :: ds, e, c =>
          let c := c.advance
          if overflows e (digitValue d) 2147483647 then
            if significand != 0 && expPositive then .error (c.fail .numberOutOfRange)
            else
              let c := skipDigits c
              .ok (.float (Binary64.zero (!positive)), c)
          else go ds (e * 10 + digitValue d) c
      go digits.tail (digitValue (digits.headD '0')) c.advance

/-- Read the fraction part, the cursor at `.`, with `start` the decimal exponent so far. -/
def readFraction (positive : Bool) (significand : Nat) (start : Int) (c : Cursor) :
    Step JsonNumber :=
  let c := c.advance
  let digits := c.rest.takeWhile isDigit
  let rec go : List Char → Nat → Int → Cursor → Step JsonNumber
    | [], sig, exp, c =>
      if exp == start then
        match c.peek with
        | some _ => .error (c.failAhead .invalidNumber)
        | none => .error (c.failAhead .eofWhileParsingValue)
      else
        match c.peek with
        | some 'e' | some 'E' => readExponent positive sig exp c
        | _ => finishFloat positive sig exp c
    | d :: ds, sig, exp, c =>
      if overflows sig (digitValue d) 18446744073709551615 then
        -- further digits are dropped
        let c := skipDigits c
        match c.peek with
        | some 'e' | some 'E' => readExponent positive sig exp c
        | _ => finishFloat positive sig exp c
      else go ds (sig * 10 + digitValue d) (exp - 1) c.advance
  go digits significand start c

/-- Continue a number after its integer digits. -/
def readNumberTail (positive : Bool) (significand : Nat) (c : Cursor) : Step JsonNumber :=
  match c.peek with
  | some '.' => readFraction positive significand 0 c
  | some 'e' | some 'E' => readExponent positive significand 0 c
  | _ =>
    if positive then .ok (.nat significand, c)
    else if significand == 0 || 9223372036854775808 < significand then
      .ok (.float (Binary64.ofRatio true significand 1), c)
    else .ok (.neg (-(significand : Int)), c)

/-- Read a number after its optional minus sign. -/
def readNumber (positive : Bool) (c : Cursor) : Step JsonNumber :=
  match c.peek with
  | none => .error (c.fail .eofWhileParsingValue)
  | some '0' =>
    let c := c.advance
    match c.peek with
    | some ch => if isDigit ch then .error (c.failAhead .invalidNumber)
                 else readNumberTail positive 0 c
    | none => readNumberTail positive 0 c
  | some ch =>
    if !isDigit ch then .error (c.failAt 1 .invalidNumber)
    else
      let digits := (c.advance).rest.takeWhile isDigit
      let rec go : List Char → Nat → Cursor → Step JsonNumber
        | [], sig, c => readNumberTail positive sig c
        | d :: ds, sig, c =>
          if overflows sig (digitValue d) 18446744073709551615 then
            -- digits past a 64-bit significand count as powers of ten
            let extra := (c.rest.takeWhile isDigit).length
            let c := skipDigits c
            match c.peek with
            | some '.' => readFraction positive sig extra c
            | some 'e' | some 'E' => readExponent positive sig extra c
            | _ => finishFloat positive sig extra c
          else go ds (sig * 10 + digitValue d) c.advance
      go digits (digitValue ch) c.advance

/-- Whether a hex digit, and its value. -/
def hexValue? (ch : Char) : Option Nat :=
  if '0' ≤ ch && ch ≤ '9' then some (ch.toNat - 48)
  else if 'a' ≤ ch && ch ≤ 'f' then some (ch.toNat - 87)
  else if 'A' ≤ ch && ch ≤ 'F' then some (ch.toNat - 55)
  else none

/-- Read four hex digits. Fewer than four bytes left is the end of the text inside a string;
four bytes that are not all hex digits are an invalid escape reported past them. -/
def readHex4 (c : Cursor) : Step Nat :=
  if c.total < c.index + 4 then .error (c.failAtEnd .eofWhileParsingString)
  else
    match c.rest with
    | a :: b :: d :: e :: _ =>
      match hexValue? a, hexValue? b, hexValue? d, hexValue? e with
      | some a, some b, some d, some e =>
        .ok (((a * 16 + b) * 16 + d) * 16 + e, c.advance.advance.advance.advance)
      | _, _, _, _ => .error (c.failAt 4 .invalidEscape)
    | _ => .error (c.failAt 4 .invalidEscape)

/-- Read a `\u` escape (the cursor after `u`) and append the character. A leading
surrogate must be followed by an escaped trailing one. -/
def readUnicodeEscape (out : String) (c : Cursor) : Step String :=
  match readHex4 c with
  | .error e => .error e
  | .ok (n, c) =>
    if 0xDC00 ≤ n && n ≤ 0xDFFF then .error (c.fail .loneLeadingSurrogateInHexEscape)
    else if n < 0xD800 || 0xDBFF < n then .ok (out.push (Char.ofNat n), c)
    else
      match c.peek with
      | none => .error (c.fail .eofWhileParsingString)
      | some '\\' =>
        let c := c.advance
        match c.peek with
        | none => .error (c.fail .eofWhileParsingString)
        | some 'u' =>
          match readHex4 c.advance with
          | .error e => .error e
          | .ok (n2, c) =>
            if n2 < 0xDC00 || 0xDFFF < n2 then .error (c.fail .loneLeadingSurrogateInHexEscape)
            else
              let code := ((n - 0xD800) * 1024 + (n2 - 0xDC00)) + 0x10000
              .ok (out.push (Char.ofNat code), c)
        | some _ => .error (c.failAt 1 .unexpectedEndOfHexEscape)
      | some _ => .error (c.failAt 1 .unexpectedEndOfHexEscape)

/-- Read the body of a string, the cursor after the opening quote. -/
def readString (c : Cursor) : Step String :=
  let rec go : Nat → String → Cursor → Step String
    | 0, _, c => .error (c.fail .eofWhileParsingString)
    | fuel + 1, out, c =>
      match c.rest with
      | [] => .error (c.fail .eofWhileParsingString)
      | ch :: _ =>
        if ch = '"' then .ok (out, c.advance)
        else if ch = '\\' then
          let c := c.advance
          match c.peek with
          | none => .error (c.fail .eofWhileParsingString)
          | some e =>
            let c' := c.advance
            let simple := fun (x : Char) => go fuel (out.push x) c'
            if e = '"' then simple '"'
            else if e = '\\' then simple '\\'
            else if e = '/' then simple '/'
            else if e = 'b' then simple (Char.ofNat 8)
            else if e = 'f' then simple (Char.ofNat 12)
            else if e = 'n' then simple '\n'
            else if e = 'r' then simple '\r'
            else if e = 't' then simple '\t'
            else if e = 'u' then
              match readUnicodeEscape out c' with
              | .error err => .error err
              | .ok (out, c) => go fuel out c
            else .error (c.failAt 1 .invalidEscape)
        else if ch.toNat < 0x20 then .error (c.failAt 1 .controlCharacterWhileParsingString)
        else go fuel (out.push ch) c.advance
  go (c.rest.length + 1) "" c

/-- Read the rest of a literal word (`null`, `true`, `false`) after its first letter. -/
def readWord (word : List Char) (c : Cursor) : Except JsonError Cursor :=
  word.foldlM (fun c expected =>
    match c.peek with
    | none => .error (c.fail .eofWhileParsingValue)
    | some ch => if ch = expected then .ok c.advance else .error (c.failAt 1 .expectedSomeIdent))
    c

mutual
/-- Read one value after blanks. `depth` is how many more containers may open; `fuel` bounds
the number of steps and is never the reason to stop on real text. -/
def readValue : Nat → Nat → Cursor → Step Json
  | 0, _, c => .error (c.fail .eofWhileParsingValue)
  | fuel + 1, depth, c =>
    let c := skipBlanks c
    match c.peek with
    | none => .error (c.failAhead .eofWhileParsingValue)
    | some 'n' => (readWord ['u', 'l', 'l'] c.advance).map fun c => (.null, c)
    | some 't' => (readWord ['r', 'u', 'e'] c.advance).map fun c => (.bool true, c)
    | some 'f' => (readWord ['a', 'l', 's', 'e'] c.advance).map fun c => (.bool false, c)
    | some '-' => (readNumber false c.advance).map fun (n, c) => (.number n, c)
    | some '"' => (readString c.advance).map fun (s, c) => (.string s, c)
    | some '[' =>
      if depth ≤ 1 then .error (c.failAhead .recursionLimitExceeded)
      else
        match readItems fuel (depth - 1) true [] c.advance with
        | .error e => .error e
        | .ok (items, c) =>
          -- the closing bracket
          .ok (.array items, c.advance)
    | some '{' =>
      if depth ≤ 1 then .error (c.failAhead .recursionLimitExceeded)
      else
        match readMembers fuel (depth - 1) true [] c.advance with
        | .error e => .error e
        | .ok (fields, c) => .ok (.object fields, c.advance)
    | some ch =>
      if isDigit ch then (readNumber true c).map fun (n, c) => (.number n, c)
      else .error (c.failAhead .expectedSomeValue)

/-- Read array items up to the closing bracket, which is left unread. -/
def readItems : Nat → Nat → Bool → List Json → Cursor → Step (List Json)
  | 0, _, _, _, c => .error (c.fail .eofWhileParsingList)
  | fuel + 1, depth, first, acc, c =>
    let c := skipBlanks c
    match c.peek with
    | none => .error (c.failAhead .eofWhileParsingList)
    | some ']' => .ok (acc.reverse, c)
    | some ch =>
      let next : Except JsonError Cursor :=
        if first then .ok c
        else if ch = ',' then
          let c := skipBlanks c.advance
          match c.peek with
          | some ']' => .error (c.failAhead .trailingComma)
          | some _ => .ok c
          | none => .error (c.failAhead .eofWhileParsingValue)
        else .error (c.failAhead .expectedListCommaOrEnd)
      match next with
      | .error e => .error e
      | .ok c =>
        match readValue fuel depth c with
        | .error e => .error e
        | .ok (v, c) => readItems fuel depth false (v :: acc) c

/-- Read object members up to the closing brace, which is left unread. -/
def readMembers : Nat → Nat → Bool → Fields → Cursor → Step Fields
  | 0, _, _, _, c => .error (c.fail .eofWhileParsingObject)
  | fuel + 1, depth, first, acc, c =>
    let c := skipBlanks c
    let key : Except JsonError (Option Cursor) :=
      match c.peek with
      | some '}' => .ok none
      | some ',' =>
        if first then .error (c.failAhead .keyMustBeAString)
        else
          let c := skipBlanks c.advance
          match c.peek with
          | some '"' => .ok (some c)
          | some '}' => .error (c.failAhead .trailingComma)
          | some _ => .error (c.failAhead .keyMustBeAString)
          | none => .error (c.failAhead .eofWhileParsingValue)
      | some '"' => if first then .ok (some c) else .error (c.failAhead .expectedObjectCommaOrEnd)
      | some _ =>
        if first then .error (c.failAhead .keyMustBeAString)
        else .error (c.failAhead .expectedObjectCommaOrEnd)
      | none => .error (c.failAhead .eofWhileParsingObject)
    match key with
    | .error e => .error e
    | .ok none => .ok (acc, c)
    | .ok (some c) =>
      match readString c.advance with
      | .error e => .error e
      | .ok (k, c) =>
        let c := skipBlanks c
        match c.peek with
        | some ':' =>
          match readValue fuel depth c.advance with
          | .error e => .error e
          | .ok (v, c) => readMembers fuel depth false (Fields.insert k v acc) c
        | some _ => .error (c.failAhead .expectedColon)
        | none => .error (c.failAhead .eofWhileParsingObject)
end

/-- Read a whole text as one JSON value with only blanks after it. -/
def parse (text : String) : Except JsonError Json :=
  let chars := text.toList
  let start : Cursor := ⟨chars, 0, 1, 0, text.utf8ByteSize⟩
  match readValue (2 * chars.length + 4) 128 start with
  | .error e => .error e
  | .ok (v, c) =>
    let c := skipBlanks c
    match c.peek with
    | none => .ok v
    | some _ => .error (c.failAhead .trailingCharacters)

end Json

end Tagweave
