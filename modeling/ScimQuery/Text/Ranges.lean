/-! # Sets of code points as sorted ranges

A character class is an array of closed ranges `(lo, hi)` of code points, sorted and
disjoint. Membership is found by halving the part of the array that can still hold a
range containing the code point.
-/

namespace ScimQuery.Text

/-- Whether `c` lies in one of the ranges at indices `lo ≤ i < hi`. -/
def inRangesBetween (ranges : Array (Nat × Nat)) (c : Nat) (lo hi : Nat) : Bool :=
  if _h : lo < hi then
    let mid := (lo + hi) / 2
    match ranges[mid]? with
    | none => false
    | some (a, b) =>
      if c < a then inRangesBetween ranges c lo mid
      else if b < c then inRangesBetween ranges c (mid + 1) hi
      else true
  else false
termination_by hi - lo

/-- Whether `c` lies in one of the sorted, disjoint ranges. -/
def inRanges (ranges : Array (Nat × Nat)) (c : Nat) : Bool :=
  inRangesBetween ranges c 0 ranges.size

end ScimQuery.Text
