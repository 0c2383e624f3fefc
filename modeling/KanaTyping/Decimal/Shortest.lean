import KanaTyping.Decimal.Binary

/-!
# The shortest decimal of a float

Of the decimal numbers that read back as a given float, the one with the fewest digits, and of
those the nearest; of two as near, the one that a `Tie` names.  For one digit, two digits and so
on the two neighbours of the float among the decimals of so many digits are tried; the float reads
back from those that lie in the interval of the numbers to which it is the nearest float.

`positional` and `scientific` write such a decimal.
-/

namespace KanaTyping.Decimal

/-- The number `digits * 10 ^ exponent`. -/
structure Digits where
  digits : Nat
  exponent : Int
deriving DecidableEq

/-- Which of two decimals is taken that are as near: the greater one or the even one. -/
inductive Tie where
  | up
  | even
deriving DecidableEq

/-- The numbers to which a float is the nearest, as multiples of an eighth of its last place:
they run from `low` to `high`, the ends included when `closed`. -/
structure Interval where
  low : Nat
  high : Nat
  closed : Bool

/-- The interval of a positive float.  Below a power of two the floats lie twice as close. -/
def Binary.interval (x : Binary) : Interval where
  low := if x.mantissa = fractions && leastExponent < x.exponent then 8 * x.mantissa - 2
    else 8 * x.mantissa - 4
  high := 8 * x.mantissa + 4
  closed := x.mantissa % 2 = 0

/-- Whether `n * 10 ^ e` lies in the interval of the float. -/
def Binary.readsBack (x : Binary) (n : Nat) (e : Int) : Bool :=
  let i := x.interval
  let (a, b) := scaleTen n 1 e
  let (a, b) := scaleTwo a b (3 - x.exponent)
  if i.closed then i.low * b ≤ a && a ≤ i.high * b else i.low * b < a && a < i.high * b

/-- The nearer of the neighbours of the float on the grid of the multiples of `10 ^ e` that read
back as the float. -/
def Binary.onGrid (x : Binary) (tie : Tie) (e : Int) : Option Digits :=
  let (a, b) := scaleTwo x.mantissa 1 x.exponent
  let (a, b) := scaleTen a b (-e)
  let below := a / b
  let nearerBelow := 2 * (a % b) < b || (2 * (a % b) = b && tie = .even && below % 2 = 0)
  let first := if nearerBelow then below else below + 1
  let second := if nearerBelow then below + 1 else below
  if x.readsBack first e then some ⟨first, e⟩
  else if x.readsBack second e then some ⟨second, e⟩
  else none

/-- The least `e` from `e` on, within `fuel` steps, with `num / den < 10 ^ e`. -/
def magnitudeFrom (num den : Nat) (e : Int) : (fuel : Nat) → Int
  | 0 => e
  | fuel + 1 =>
    let (a, b) := scaleTen num den (-e)
    if a < b then e else magnitudeFrom num den (e + 1) fuel

/-- The number of digits of the float before the point, or minus the number of zeros after it. -/
def Binary.magnitude (x : Binary) : Int :=
  let (a, b) := scaleTwo x.mantissa 1 x.exponent
  magnitudeFrom a b (((a.log2 : Int) - b.log2 - 1) * 30103 / 100000 - 1) 8

/-- The first grid with a hit, of those of `digits`, `digits + 1` and so on digits. -/
def Binary.shortestFrom (x : Binary) (tie : Tie) (magnitude : Int) (digits : Nat) :
    (fuel : Nat) → Digits
  | 0 => ⟨0, 0⟩
  | fuel + 1 =>
    match x.onGrid tie (magnitude - digits) with
    | some d => d
    | none => x.shortestFrom tie magnitude (digits + 1) fuel

/-- The decimal without the zeros at its end, of which there are at most `fuel`. -/
def Digits.strip (d : Digits) : (fuel : Nat) → Digits
  | 0 => d
  | fuel + 1 =>
    if d.digits ≠ 0 && d.digits % 10 = 0 then (⟨d.digits / 10, d.exponent + 1⟩ : Digits).strip fuel
    else d

/-- The shortest decimal of a positive float; seventeen digits always do. -/
def Binary.shortest (x : Binary) (tie : Tie) : Digits :=
  (x.shortestFrom tie x.magnitude 1 17).strip 17

/-- The digits of the number, without a point. -/
def Digits.text (d : Digits) : List Char :=
  Nat.toDigits 10 d.digits

/-- The decimal in positional notation; `whole` is written after a number without a fraction. -/
def Digits.positional (whole : List Char) (d : Digits) : List Char :=
  let text := d.text
  let point : Int := text.length + d.exponent
  if 0 ≤ d.exponent then text ++ List.replicate d.exponent.toNat '0' ++ whole
  else if 0 < point then text.take point.toNat ++ '.' :: text.drop point.toNat
  else '0' :: '.' :: (List.replicate (-point).toNat '0' ++ text)

/-- The decimal in scientific notation: one digit before the point, and the power of ten. -/
def Digits.scientific (d : Digits) : List Char :=
  let text := d.text
  let power : Int := text.length + d.exponent - 1
  text.take 1 ++ (if text.length = 1 then [] else '.' :: text.drop 1) ++
    'e' :: (toString power).toList

end KanaTyping.Decimal
