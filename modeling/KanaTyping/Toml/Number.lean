import KanaTyping.Decimal.Binary
import KanaTyping.Toml.Scan
import KanaTyping.Toml.Value

/-!
# TOML numbers, dates and times

Digits may be parted by single underscores.  A whole number has no zeros in front; one of base
sixteen, eight or two has no sign.  Numbers are signed and of 64 bits.  A float has a fraction, an
exponent or both.  Dates and times are checked against the calendar and the clock.
-/

namespace KanaTyping.Toml

def digitValue? (base : Nat) (c : Char) : Option Nat :=
  let v :=
    if '0' ≤ c && c ≤ '9' then c.toNat - '0'.toNat
    else if 'a' ≤ c && c ≤ 'f' then c.toNat - 'a'.toNat + 10
    else if 'A' ≤ c && c ≤ 'F' then c.toNat - 'A'.toNat + 10
    else base
  if v < base then some v else none

/-- A number made of digits: its value and how many they were. -/
structure Digits where
  value : Nat
  count : Nat

def Digits.push (base : Nat) (n : Digits) (d : Nat) : Digits :=
  ⟨base * n.value + d, n.count + 1⟩

/-- The digits at the front of a text, after those in `n`; an underscore must stand between
two digits. -/
def digitRun (base : Nat) (n : Digits) : Reader Digits
  | [] => some (n, [])
  | '_' :: cs =>
    match cs with
    | [] => none
    | c :: cs =>
      match digitValue? base c with
      | none => none
      | some d => digitRun base (n.push base d) cs
  | c :: cs =>
    match digitValue? base c with
    | none => some (n, c :: cs)
    | some d => digitRun base (n.push base d) cs

/-- Reads digits, at least one, after those in `n`. -/
def moreDigits (base : Nat) (n : Digits) : Reader Digits
  | [] => none
  | c :: cs =>
    match digitValue? base c with
    | none => none
    | some d => digitRun base (n.push base d) cs

/-- Reads a sign, if there is one: whether it is a minus. -/
def sign : List Char → Bool × List Char
  | '-' :: cs => (true, cs)
  | '+' :: cs => (false, cs)
  | cs => (false, cs)

/-- Reads decimal digits without zeros in front. -/
def wholeDigits : Reader Digits
  | '0' :: cs => some (⟨0, 1⟩, cs)
  | cs => moreDigits 10 ⟨0, 0⟩ cs

/-- Reads a number of another base, after the mark of the base. -/
def based (base : Nat) (cs : List Char) : Option (Value × List Char) := do
  let (n, rest) ← moreDigits base ⟨0, 0⟩ cs
  if n.value ≤ Int64.maxValue.toInt then some (.integer n.value, rest) else none

/-- Reads a whole number. -/
def integer : Reader Value
  | '0' :: 'x' :: cs => based 16 cs
  | '0' :: 'o' :: cs => based 8 cs
  | '0' :: 'b' :: cs => based 2 cs
  | cs => do
    let (negative, rest) := sign cs
    let (n, rest) ← wholeDigits rest
    let n : Int := if negative then -n.value else n.value
    if Int64.minValue.toInt ≤ n && n ≤ Int64.maxValue.toInt then some (.integer n, rest)
    else none

/-- Reads an exponent, after its letter. -/
def exponent (cs : List Char) : Option (Int × List Char) := do
  let (negative, rest) := sign cs
  let (n, rest) ← moreDigits 10 ⟨0, 0⟩ rest
  return (if negative then -n.value else n.value, rest)

/-- Reads the fraction and the exponent of a float whose whole part is `n`: its digits and its
power of ten. -/
def fractionAndExponent (n : Digits) : List Char → Option ((Digits × Int) × List Char)
  | '.' :: cs => do
    let (m, rest) ← moreDigits 10 n cs
    let shift : Int := (n.count : Int) - m.count
    match rest with
    | 'e' :: rest => do
      let (e, rest) ← exponent rest
      return ((m, shift + e), rest)
    | 'E' :: rest => do
      let (e, rest) ← exponent rest
      return ((m, shift + e), rest)
    | rest => return ((m, shift), rest)
  | 'e' :: cs => do
    let (e, rest) ← exponent cs
    return ((n, e), rest)
  | 'E' :: cs => do
    let (e, rest) ← exponent cs
    return ((n, e), rest)
  | _ => none

/-- Reads `inf` or `nan`. -/
def specialFloat : Reader Float
  | 'i' :: 'n' :: 'f' :: cs => some (1.0 / 0.0, cs)
  | 'n' :: 'a' :: 'n' :: cs => some (0.0 / 0.0, cs)
  | _ => none

/-- Reads a float.  A decimal too large for a float is refused when it is positive, and is minus
infinity when it is negative. -/
def float (cs : List Char) : Option (Value × List Char) := do
  let (negative, rest) := sign cs
  let signed (x : Float) : Value := .float (if negative then -x else x)
  match specialFloat rest with
  | some (x, rest) => return (signed x, rest)
  | none =>
    let (n, rest) ← wholeDigits rest
    let ((n, e), rest) ← fractionAndExponent n rest
    let x := Decimal.nearest n.value e
    if x.isInf && !negative then none else return (signed x, rest)

/-! ### Dates and times -/

/-- Reads a number of exactly `count` digits that lies from `lo` to `hi`. -/
def field (count lo hi : Nat) (cs : List Char) : Option (Nat × List Char) :=
  let front := cs.take count
  match front.mapM (digitValue? 10) with
  | none => none
  | some ds =>
    let n := ds.foldl (10 * · + ·) 0
    if front.length = count && lo ≤ n && n ≤ hi then some (n, cs.drop count) else none

/-- Reads the character `c`. -/
def mark (c : Char) : List Char → Option (List Char)
  | [] => none
  | d :: cs => if c = d then some cs else none

/-- The number of days of a month. -/
def daysIn (year month : Nat) : Nat :=
  if month = 2 then
    if year % 4 = 0 && (year % 100 ≠ 0 || year % 400 = 0) then 29 else 28
  else if month = 4 || month = 6 || month = 9 || month = 11 then 30
  else 31

/-- The text after a date. -/
def date? (cs : List Char) : Option (List Char) := do
  let (year, rest) ← field 4 0 9999 cs
  let rest ← mark '-' rest
  let (month, rest) ← field 2 1 12 rest
  let rest ← mark '-' rest
  let (_, rest) ← field 2 1 (daysIn year month) rest
  return rest

/-- The text after a time of day. -/
def time? (cs : List Char) : Option (List Char) := do
  let (_, rest) ← field 2 0 23 cs
  let rest ← mark ':' rest
  let (_, rest) ← field 2 0 59 rest
  let rest ← mark ':' rest
  let (_, rest) ← field 2 0 60 rest
  match rest with
  | '.' :: more =>
    return if more.head?.any Char.isDigit then more.dropWhile Char.isDigit else rest
  | _ => return rest

/-- The text after the difference from universal time, if one is there. -/
def zone? (cs : List Char) : Option (List Char) :=
  match cs with
  | 'Z' :: rest => some rest
  | 'z' :: rest => some rest
  | c :: rest =>
    if c = '+' || c = '-' then do
      let (_, rest) ← field 2 0 23 rest
      let rest ← mark ':' rest
      let (_, rest) ← field 2 0 59 rest
      return rest
    else some cs
  | [] => some []

/-- The text after a date, a time of day, or a date with a time of day and a zone. -/
def afterMoment? (cs : List Char) : Option (List Char) :=
  match date? cs with
  | none => time? cs
  | some rest =>
    match rest with
    | c :: more =>
      if c = 'T' || c = 't' || c = ' ' then
        match time? more with
        | none => some rest
        | some rest => zone? rest
      else some rest
    | [] => some []

/-- Reads a date, a time of day or both. -/
def moment (cs : List Char) : Option (Value × List Char) :=
  (afterMoment? cs).map fun rest => (.moment (cs.take (cs.length - rest.length)), rest)

/-- Reads a number, a date or a time. -/
def number (cs : List Char) : Option (Value × List Char) :=
  moment cs <|> float cs <|> integer cs

end KanaTyping.Toml
