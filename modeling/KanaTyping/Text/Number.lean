/-!
# Numbers in text

Unsigned numbers as the sheets and the command line write them: decimal digits, with or without
a plus sign in front, and no larger than the number's type holds.
-/

namespace KanaTyping.Text

/-- The value of a text of decimal digits, after the digits that make `n`. -/
def digitsFrom (n : Nat) : List Char → Option Nat
  | [] => some n
  | c :: cs => if c.isDigit then digitsFrom (10 * n + (c.toNat - '0'.toNat)) cs else none

/-- The value of a non-empty text of decimal digits. -/
def digits : List Char → Option Nat
  | [] => none
  | c :: cs => digitsFrom 0 (c :: cs)

/-- The value of an unsigned number less than `bound`. -/
def natBelow (bound : Nat) (cs : List Char) : Option Nat :=
  let unsigned := match cs with
    | '+' :: rest => rest
    | _ => cs
  (digits unsigned).filter (· < bound)

end KanaTyping.Text
