/-!
# Binary64 values

`Binary64` is the IEEE 754 double format read off its 64-bit pattern: a sign bit, an 11-bit
biased exponent and a 52-bit fraction. A finite value is `± significand · 2 ^ exponent`.

* `Binary64.ofRatio` rounds an exact ratio of naturals to the nearest double, a tie going to
  the even significand, and a magnitude past the largest finite double to infinity. Every
  conversion into doubles in this library (decimal text, products and quotients of doubles,
  integers) is an instance of it, so all of them round the same way.
* `Binary64.ratio` is the exact value of a finite double as a ratio; `ofRatio` inverts it on
  finite doubles.
-/

namespace Tagweave

/-- An IEEE 754 double, kept as its bit pattern. -/
structure Binary64 where
  bits : UInt64
  deriving DecidableEq, Inhabited

namespace Binary64

/-- Whether the sign bit is set (also for `-0.0`). -/
def isNegative (x : Binary64) : Bool := x.bits >>> 63 == 1

/-- The eleven exponent bits as a natural number. -/
def biasedExponent (x : Binary64) : Nat := ((x.bits >>> 52) &&& 0x7FF).toNat

/-- The fifty-two fraction bits as a natural number. -/
def fraction (x : Binary64) : Nat := (x.bits &&& 0xFFFFFFFFFFFFF).toNat

/-- Neither an infinity nor a NaN. -/
def isFinite (x : Binary64) : Bool := x.biasedExponent != 0x7FF

/-- `+0.0` or `-0.0`. -/
def isZero (x : Binary64) : Bool := x.biasedExponent == 0 && x.fraction == 0

/-- The integer significand of a finite value: the fraction, with the hidden bit for normal
values. -/
def significand (x : Binary64) : Nat :=
  if x.biasedExponent = 0 then x.fraction else x.fraction + Nat.pow 2 52

/-- The power of two that scales `significand` to the value of a finite double. -/
def exponent (x : Binary64) : Int :=
  if x.biasedExponent = 0 then -1074 else (x.biasedExponent : Int) - 1075

/-- Assemble a double from its sign, biased exponent and fraction. -/
def make (negative : Bool) (biased fraction : Nat) : Binary64 :=
  ⟨UInt64.ofNat ((if negative then Nat.pow 2 63 else 0) + biased * Nat.pow 2 52 + fraction)⟩

/-- Zero with the given sign. -/
def zero (negative : Bool) : Binary64 := make negative 0 0

/-- Infinity with the given sign. -/
def infinity (negative : Bool) : Binary64 := make negative 0x7FF 0

/-- The same magnitude with the other sign. -/
def neg (x : Binary64) : Binary64 := ⟨x.bits ^^^ 0x8000000000000000⟩

/-- The magnitude: the sign bit cleared. -/
def abs (x : Binary64) : Binary64 := ⟨x.bits &&& 0x7FFFFFFFFFFFFFFF⟩

/-- The exact magnitude of a finite double as `numerator / denominator`. -/
def ratio (x : Binary64) : Nat × Nat :=
  if 0 ≤ x.exponent then (x.significand * Nat.pow 2 x.exponent.toNat, 1)
  else (x.significand, Nat.pow 2 (-x.exponent).toNat)

/-- Whether `num / den ≥ 2 ^ k`. -/
def ratioAtLeastPow (num den : Nat) (k : Int) : Bool :=
  if 0 ≤ k then den * Nat.pow 2 k.toNat ≤ num else den ≤ num * Nat.pow 2 (-k).toNat

/-- The binade of a positive ratio: the `k` with `2 ^ k ≤ num / den < 2 ^ (k + 1)`. Read off
the bit lengths of both sides, which fix it up to one. -/
def binade (num den : Nat) : Int :=
  let k : Int := (Nat.log2 num : Int) - (Nat.log2 den : Int)
  if ratioAtLeastPow num den k then k else k - 1

/-- `num / (den · 2 ^ e)` rounded to the nearest natural number, a tie going to the even one. -/
def roundScaled (num den : Nat) (e : Int) : Nat :=
  let n := if 0 ≤ e then num else num * Nat.pow 2 (-e).toNat
  let d := if 0 ≤ e then den * Nat.pow 2 e.toNat else den
  let q := n / d
  let r := n % d
  if d < 2 * r || (2 * r == d && q % 2 == 1) then q + 1 else q

/-- The double nearest to `num / den`, with the given sign. A tie goes to the even
significand; a magnitude that rounds past the largest finite double is infinity. The
significand is taken at the exponent of the value's binade, never below the subnormal
exponent `-1074`. -/
def ofRatio (negative : Bool) (num den : Nat) : Binary64 :=
  if num == 0 || den == 0 then zero negative
  else
    let e := max (binade num den - 52) (-1074)
    let m := roundScaled num den e
    -- rounding up may carry into the next binade
    let (m, e) := if m == Nat.pow 2 53 then (Nat.pow 2 52, e + 1) else (m, e)
    if m < Nat.pow 2 52 then make negative 0 m
    else if 2047 ≤ e + 1075 then infinity negative
    else make negative (e + 1075).toNat (m - Nat.pow 2 52)

/-- The double nearest to an integer. -/
def ofInt (n : Int) : Binary64 := ofRatio (n < 0) n.natAbs 1

/-- Correctly rounded product of two finite doubles. -/
def mul (x y : Binary64) : Binary64 :=
  let (a, b) := x.ratio
  let (c, d) := y.ratio
  ofRatio (x.isNegative != y.isNegative) (a * c) (b * d)

/-- Correctly rounded quotient of two finite doubles, the divisor nonzero. -/
def div (x y : Binary64) : Binary64 :=
  let (a, b) := x.ratio
  let (c, d) := y.ratio
  ofRatio (x.isNegative != y.isNegative) (a * d) (b * c)

/-- Whether a finite double is a whole number. -/
def isIntegral (x : Binary64) : Bool :=
  0 ≤ x.exponent || x.significand % Nat.pow 2 (-x.exponent).toNat == 0

/-- The whole number a finite, integral double stands for. -/
def toInt (x : Binary64) : Int :=
  let (n, d) := x.ratio
  let m : Int := (n / d : Nat)
  if x.isNegative then -m else m

end Binary64

end Tagweave
