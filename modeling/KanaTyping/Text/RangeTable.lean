/-!
# Tables of character ranges

A property of characters is given as a table of closed ranges of code points, in increasing
order.  Membership is a binary search.
-/

namespace KanaTyping

/-- Closed ranges of code points, in increasing order and apart from one another. -/
structure RangeTable where
  ranges : Array (Nat × Nat)

namespace RangeTable

/-- Whether `n` lies in one of the ranges numbered `lo` to `hi - 1`. -/
def holdsBetween (t : RangeTable) (n lo hi : Nat) : Bool :=
  if lo < hi then
    let mid := lo + (hi - lo) / 2
    match t.ranges[mid]? with
    | none => false
    | some (first, last) =>
      if n < first then t.holdsBetween n lo mid
      else if last < n then t.holdsBetween n (mid + 1) hi
      else true
  else false
termination_by hi - lo

/-- Whether `c` lies in one of the ranges. -/
def contains (t : RangeTable) (c : Char) : Bool :=
  t.holdsBetween c.toNat 0 t.ranges.size

end RangeTable

end KanaTyping
