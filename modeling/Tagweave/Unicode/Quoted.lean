import Tagweave.Unicode.Printable

/-!
# Quoted strings with escapes

`Unicode.quoteEscaped` shows a string between double quotes so that every character can be
told apart: the NUL, tab, carriage return and line feed, backslash and double quote take
backslash escapes (`\0 \t \r \n \\ \"`), characters that are not printable or that extend
the grapheme before them take `\u{hex}` (lowercase hex, no leading zeros), and all others
stand as themselves (the single quote too).
-/

namespace Tagweave

namespace Unicode

/-- Lowercase hex digits of a number, without leading zeros. -/
def hexDigits (n : Nat) : String :=
  String.ofList ((Nat.toDigits 16 n).map Char.toLower)

/-- The escaped form of one character inside a quoted string. -/
def escapeForQuote (c : Char) : String :=
  if c.toNat = 0 then "\\0"
  else if c = '\t' then "\\t"
  else if c = '\r' then "\\r"
  else if c = '\n' then "\\n"
  else if c = '\\' then "\\\\"
  else if c = '"' then "\\\""
  else if isGraphemeExtend c || !isPrintable c then "\\u" ++ "\x7b" ++ hexDigits c.toNat ++ "\x7d"
  else c.toString

/-- A string between double quotes with escapes. -/
def quoteEscaped (s : String) : String :=
  "\"" ++ String.join (s.toList.map escapeForQuote) ++ "\""

end Unicode

end Tagweave
