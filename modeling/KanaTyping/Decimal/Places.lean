import KanaTyping.Decimal.Binary

/-!
# Decimals of a fixed number of places

A float written with a given number of places after the point.  The last place is rounded from
the exact value of the float; a half goes to the even neighbour.
-/

namespace KanaTyping.Decimal

/-- A finite float that is not negative, with `places` digits after the point. -/
def withPlaces (places : Nat) (x : Float) : List Char :=
  let ⟨m, e⟩ := Binary.ofFloat x
  let (a, b) := scaleTwo (m * Nat.pow 10 places) 1 e
  let n := roundDiv a b
  let fraction := Nat.toDigits 10 (n % Nat.pow 10 places)
  Nat.toDigits 10 (n / Nat.pow 10 places) ++
    '.' :: (List.replicate (places - fraction.length) '0' ++ fraction)

end KanaTyping.Decimal
