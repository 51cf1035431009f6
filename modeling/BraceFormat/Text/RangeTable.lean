/-!
# Tables of code point ranges

A character property from the Unicode database is stored as the list of maximal closed intervals
of code points that have it, in increasing order. Membership walks the list and stops at the first
interval that starts past the code point, which is sound because the intervals increase.

## Main definitions

* `RangeTable`: increasing closed intervals `(lo, hi)` of code points.
* `RangeTable.contains`: whether a code point lies in one of the intervals.

## Main results

* `RangeTable.contains_nil`, `RangeTable.contains_cons`: the search, one interval at a time.
-/

namespace BraceFormat.Text

/-- Closed intervals `(lo, hi)` of code points, listed in increasing order. -/
abbrev RangeTable := List (Nat × Nat)

namespace RangeTable

/-- Whether the code point `n` lies in one of the intervals of the table. The walk stops at the
first interval starting past `n`: no later interval can hold it. -/
def contains : RangeTable → Nat → Bool
  | [], _ => false
  | (lo, hi) :: rest, n => if n < lo then false else if n ≤ hi then true else contains rest n

@[simp]
theorem contains_nil (n : Nat) : contains [] n = false := rfl

theorem contains_cons (lo hi n : Nat) (rest : RangeTable) :
    contains ((lo, hi) :: rest) n =
      if n < lo then false else if n ≤ hi then true else contains rest n := rfl

end RangeTable

end BraceFormat.Text
