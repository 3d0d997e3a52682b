import Tagweave.Markup.Attribute
import Tagweave.Binary64.Decimal
import Tagweave.Unicode.WhiteSpace

/-!
# Attribute text

How the attribute part of a tag is read. An attribute is written

`NAME blanks = blanks VALUE`

where NAME is a nonempty run of characters other than `=`, `<`, `>`, `"`, `'` and white
space, and VALUE is the first of these that fits:

1. `"` text without `"` `"`, a literal string kept as written;
2. a number `[-+]?[0-9]*\.?[0-9]+`, read as the nearest double;
3. `{` text without `}` `}`, a context reference whose accessor is the text trimmed of
   white space.

`Attributes.read` scans the text from left to right. Where an attribute starts it is taken
and scanning resumes after it; anything else is skipped one character at a time, and a
name that leads to no attribute is skipped whole (every later start inside the same name
sees the same continuation, so none of them can succeed either). Later attributes of the
same name replace earlier values in place (`Attributes.insert`).
-/

namespace Tagweave

namespace AttributeText

/-- Characters an attribute name may hold. -/
def isNameChar (c : Char) : Bool :=
  !(c = '=' || c = '<' || c = '>' || c = '"' || c = '\'' || Unicode.isWhiteSpace c)

/-- ASCII digit. -/
def isDigit (c : Char) : Bool := '0' ≤ c && c ≤ '9'

/-- The number at the start of `cs`, as sign, whole digits and fraction digits, with the
count of characters it takes. The whole digits are taken as far as they go; a point is
taken only when digits follow it; with no whole digits the point and fraction digits are
required. -/
def number? (cs : List Char) : Option (Bool × List Char × List Char × Nat) :=
  let (negative, signLen, rest) :=
    match cs with
    | '-' :: r => (true, 1, r)
    | '+' :: r => (false, 1, r)
    | _ => (false, 0, cs)
  let whole := rest.takeWhile isDigit
  let after := rest.drop whole.length
  let fractionAfter : Option (List Char) :=
    match after with
    | '.' :: r =>
      let frac := r.takeWhile isDigit
      if frac.isEmpty then none else some frac
    | _ => none
  match fractionAfter with
  | some frac => some (negative, whole, frac, signLen + whole.length + 1 + frac.length)
  | none => if whole.isEmpty then none else some (negative, whole, [], signLen + whole.length)

/-- The value of a digit string. -/
def digitsValue (ds : List Char) : Nat := ds.foldl (fun n d => 10 * n + (d.toNat - 48)) 0

/-- The double a number stands for: the nearest to its exact decimal value. -/
def numberValue (negative : Bool) (whole frac : List Char) : Binary64 :=
  Binary64.ofDecimal negative (digitsValue (whole ++ frac)) (-(frac.length : Int))

/-- The value written at the start of `cs` and how many characters it takes. -/
def value? (cs : List Char) : Option (AttrValue × Nat) :=
  let quoted : Option (AttrValue × Nat) :=
    match cs with
    | '"' :: r =>
      let body := r.takeWhile (· ≠ '"')
      if body.length < r.length then some (.str (String.ofList body), body.length + 2) else none
    | _ => none
  let braced : Option (AttrValue × Nat) :=
    match cs with
    | '{' :: r =>
      let body := r.takeWhile (· ≠ '}')
      if body.length < r.length then
        some (.ref (Unicode.trim (String.ofList body)), body.length + 2)
      else none
    | _ => none
  match quoted with
  | some v => some v
  | none =>
    match number? cs with
    | some (negative, whole, frac, n) => some (.number (numberValue negative whole frac), n)
    | none => braced

/-- The attribute that starts exactly at the head of `cs`: its name, its value and the number
of characters it takes. -/
def attributeAt? (cs : List Char) : Option (String × AttrValue × Nat) :=
  let name := cs.takeWhile isNameChar
  if name.isEmpty then none
  else
    let afterName := cs.drop name.length
    let gap1 := afterName.takeWhile Unicode.isWhiteSpace
    match afterName.drop gap1.length with
    | '=' :: r =>
      let gap2 := r.takeWhile Unicode.isWhiteSpace
      match value? (r.drop gap2.length) with
      | some (v, n) => some (String.ofList name, v, name.length + gap1.length + 1 + gap2.length + n)
      | none => none
    | _ => none

/-- Scan attribute text from left to right, inserting every attribute found. -/
def readInto (acc : Attributes) : List Char → Attributes
  | [] => acc
  | c :: rest =>
    match attributeAt? (c :: rest) with
    | some (name, value, used) => readInto (acc.insert name value) (rest.drop (used - 1))
    | none => readInto acc (if isNameChar c then rest.dropWhile isNameChar else rest)
termination_by cs => cs.length
decreasing_by
  all_goals simp only [List.length_cons, List.length_drop]
  · omega
  · split
    · have := (List.dropWhile_suffix isNameChar (l := rest)).length_le
      omega
    · omega

end AttributeText

/-- The attributes written in a tag's attribute text. -/
def Attributes.read (raw : String) : Attributes := AttributeText.readInto .empty raw.toList

end Tagweave
