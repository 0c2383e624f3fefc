/-!
# Floats as binary fractions

A finite float is a whole number times a power of two.  `Binary.ofFloat` takes a float apart, and
`nearest` finds the float nearest to a decimal number, in exact arithmetic: of two floats as near
the one with the even mantissa is taken, and past the largest one the result is infinite.
-/

namespace KanaTyping.Decimal

/-- The number `mantissa * 2 ^ exponent`. -/
structure Binary where
  mantissa : Nat
  exponent : Int
deriving DecidableEq

/-- The least exponent of a float. -/
def leastExponent : Int := -1074

/-- The number of floats from a power of two to below the next. -/
def fractions : Nat := 0x10000000000000

/-- The bits of the infinite float. -/
def infinityBits : Nat := 0x7FF * fractions

/-- The magnitude of a finite float. -/
def Binary.ofFloat (x : Float) : Binary :=
  let bits := x.toBits.toNat % (0x800 * fractions)
  let fraction := bits % fractions
  match bits / fractions with
  | 0 => ⟨fraction, leastExponent⟩
  | e + 1 => ⟨fractions + fraction, leastExponent + e⟩

/-- `a / b`, rounded to the nearest whole number, and of two as near to the even one. -/
def roundDiv (a b : Nat) : Nat :=
  let q := a / b
  let r := 2 * (a % b)
  if r < b then q else if b < r then q + 1 else if q % 2 = 0 then q else q + 1

/-- A number over a denominator, times a power of two. -/
def scaleTwo (num den : Nat) (e : Int) : Nat × Nat :=
  if 0 ≤ e then (num <<< e.toNat, den) else (num, den <<< (-e).toNat)

/-- A number over a denominator, times a power of ten. -/
def scaleTen (num den : Nat) (e : Int) : Nat × Nat :=
  if 0 ≤ e then (num * Nat.pow 10 e.toNat, den) else (num, den * Nat.pow 10 (-e).toNat)

/-- The bits of the float nearest to `num / den`, both of them positive. -/
def nearestBits (num den : Nat) : Nat :=
  -- the quotient lies between `2 ^ (size - 1)` and `2 ^ (size + 1)`
  let size : Int := num.log2 - den.log2
  let fits (e : Int) : Bool :=
    let (a, b) := scaleTwo num den (-e)
    b * fractions ≤ a
  let e := if fits (size - 52) then size - 52 else size - 53
  let e := max e leastExponent
  let (a, b) := scaleTwo num den (-e)
  let bits := roundDiv a b + (e - leastExponent).toNat * fractions
  min bits infinityBits

/-- The float nearest to `n * 10 ^ e`.  Numbers far beyond the largest or below the least float
are settled without the power. -/
def nearest (n : Nat) (e : Int) : Float :=
  let size : Int := (Nat.toDigits 10 n).length + e
  if n = 0 || size < -400 then Float.ofBits 0
  else if 400 < size then Float.ofBits infinityBits.toUInt64
  else
    let (num, den) := scaleTen n 1 e
    Float.ofBits (nearestBits num den).toUInt64

end KanaTyping.Decimal
