import Tagweave.Binary64.Basic

/-!
# Decimal text of doubles

Reading: `Binary64.ofDecimal` is the double nearest to `digits · 10 ^ exp`, rounded once from
the exact value (`Binary64.ofRatio`).

Writing: `Binary64.shortest` finds the fewest significant decimal digits that read back as
the same double. For each digit count it looks only at the two neighbours of the value on
that decimal grid: if any point of the grid lies in the interval of reals that round to the
double, one of the two neighbours does. Of two hits the nearer wins, an exact tie the even
one. `Binary64.NumberStyle` then decides the layout: positional or scientific, the mark of
the exponent and the suffix of whole numbers.
-/

namespace Tagweave

namespace Binary64

/-- Number of decimal digits of a natural number (one for zero). -/
def decimalLength (n : Nat) : Nat := (Nat.toDigits 10 n).length

/-- The double nearest to `digits · 10 ^ exp`, with the given sign. Values of at least
`10 ^ 310` are infinite and values below `10 ^ -330` are zero, so the exact ratio is only
formed for exponents near the double range. -/
def ofDecimal (negative : Bool) (digits : Nat) (exp : Int) : Binary64 :=
  if digits == 0 then zero negative
  else if 310 ≤ exp then infinity negative
  else if exp + (decimalLength digits : Int) < -330 then zero negative
  else if 0 ≤ exp then ofRatio negative (digits * Nat.pow 10 exp.toNat) 1
  else ofRatio negative digits (Nat.pow 10 (-exp).toNat)

/-- Compare `a · 10 ^ s` with `b · 2 ^ t` exactly. -/
def compareScaled (a : Nat) (s : Int) (b : Nat) (t : Int) : Ordering :=
  compare (a * Nat.pow 10 s.toNat * Nat.pow 2 (-t).toNat)
    (b * Nat.pow 2 t.toNat * Nat.pow 10 (-s).toNat)

/-- `⌊b · 2 ^ t / 10 ^ s⌋`. -/
def floorOnGrid (b : Nat) (t : Int) (s : Int) : Nat :=
  (b * Nat.pow 2 t.toNat * Nat.pow 10 (-s).toNat) / (Nat.pow 2 (-t).toNat * Nat.pow 10 s.toNat)

/-- The decimal exponent of `b · 2 ^ t > 0`: the `d` with `10 ^ d ≤ b · 2 ^ t < 10 ^ (d + 1)`.
Starts from the estimate `⌊log₁₀ 2 · (bit length)⌋`, which is off by at most one, and
corrects it. -/
def decimalExponent (b : Nat) (t : Int) : Int :=
  let estimate : Int := (((Nat.log2 b : Int) + t) * 78913) / 262144
  let up := fun (d : Int) => if compareScaled 1 (d + 1) b t != .gt then d + 1 else d
  let down := fun (d : Int) => if compareScaled 1 d b t == .gt then d - 1 else d
  down (down (up (up estimate)))

/-- Strip trailing zeros: `(c, s)` and the result stand for the same `c · 10 ^ s`. -/
def trimZeros : Nat → Nat → Int → Nat × Int
  | 0, c, s => (c, s)
  | fuel + 1, c, s => if c != 0 && c % 10 == 0 then trimZeros fuel (c / 10) (s + 1) else (c, s)

/-- The shortest decimal `digits · 10 ^ exp` (no trailing zeros in `digits`) that rounds to
the finite, nonzero double `x`. Among candidates of that length the nearest is taken, and an
exact tie goes to the even digit string.

Work in units of `2 ^ (exponent - 2)`: the value is `4m`, the upper end of its rounding
interval `4m + 2` and the lower end `4m - 2`, or `4m - 1` at the bottom of a binade where
the gap below is half as wide. Both ends belong to the interval when `m` is even. -/
def shortest (x : Binary64) : Nat × Int :=
  let m := x.significand
  let t := x.exponent - 2
  let v := 4 * m
  let high := v + 2
  let low := if x.fraction == 0 && 1 < x.biasedExponent then v - 1 else v - 2
  let closed := m % 2 == 0
  let d := decimalExponent v t
  let above := fun (c : Nat) (s : Int) =>
    match compareScaled c s low t with
    | .gt => true
    | .eq => closed
    | .lt => false
  let below := fun (c : Nat) (s : Int) =>
    match compareScaled c s high t with
    | .lt => true
    | .eq => closed
    | .gt => false
  let inside := fun (c : Nat) (s : Int) => above c s && below c s
  let pick := fun (n : Nat) =>
    let s := d - (n : Int) + 1
    let a := floorOnGrid v t s
    let lo := inside a s
    let hi := inside (a + 1) s
    if lo && hi then
      -- compare 2v with (2a + 1) · 10 ^ s
      match compareScaled (2 * a + 1) s (2 * v) t with
      | .gt => some (a, s)
      | .lt => some (a + 1, s)
      | .eq => some (if a % 2 == 0 then a else a + 1, s)
    else if lo then some (a, s)
    else if hi then some (a + 1, s)
    else none
  let found := (List.range 17).findSome? fun k => pick (k + 1)
  let (c, s) := found.getD (floorOnGrid v t (d - 16), d - 16)
  trimZeros 20 c s

/-- The layout of a double's decimal text. A value whose decimal exponent (the `k` with
`10 ^ k ≤ |x| < 10 ^ (k + 1)`) lies in `[positionalMin, positionalMax]` is written
positionally, other values as one digit, an optional fraction and an exponent. -/
structure NumberStyle where
  positionalMin : Int
  positionalMax : Int
  /-- Written after a positional whole number. -/
  integralSuffix : String
  /-- Separates the digits from the exponent. -/
  exponentMark : String
  /-- Whether a nonnegative exponent carries `+`. -/
  exponentPlus : Bool

/-- Data interchange numbers: positional from `1e-5` up to below `1e16`, whole numbers keep
`.0`, exponents are written `e+16` and `e-7`. -/
def NumberStyle.interchange : NumberStyle := ⟨-5, 15, ".0", "e", true⟩

/-- A string of `n` zeros. -/
def zeros (n : Nat) : String := String.ofList (List.replicate n '0')

/-- The text of a finite double in the given style: `-` for a negative sign (also of zero),
then the shortest digits laid out by the style. Zero is `0` followed by the integral
suffix. -/
def toText (style : NumberStyle) (x : Binary64) : String :=
  let sign := if x.isNegative then "-" else ""
  if x.isZero then sign ++ "0" ++ style.integralSuffix
  else
    let (c, s) := x.shortest
    let digits := toString c
    let len : Int := digits.length
    -- the value lies in [10 ^ (len + s - 1), 10 ^ (len + s))
    let k := len + s - 1
    if style.positionalMin ≤ k && k ≤ style.positionalMax then
      if 0 ≤ s then sign ++ digits ++ zeros s.toNat ++ style.integralSuffix
      else if 0 ≤ k then
        let whole := (k + 1).toNat
        sign ++ String.ofList (digits.toList.take whole) ++ "." ++
          String.ofList (digits.toList.drop whole)
      else sign ++ "0." ++ zeros (-(k + 1)).toNat ++ digits
    else
      let rest := String.ofList (digits.toList.drop 1)
      let mantissa := String.ofList (digits.toList.take 1) ++ (if rest.isEmpty then "" else "." ++ rest)
      let expSign := if k < 0 then "-" else if style.exponentPlus then "+" else ""
      sign ++ mantissa ++ style.exponentMark ++ expSign ++ toString k.natAbs

end Binary64

end Tagweave
