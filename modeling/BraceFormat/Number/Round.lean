import BraceFormat.Number.Numeral
import BraceFormat.Text.Run
/-!
# Rounding exact quotients

Numbers are rounded as exact quotients `n / d` of natural numbers: to the nearest integer, a
quotient halfway between two integers going to the even one. On this rest two layouts of a
rounded magnitude as decimal text: a fixed number of fraction digits, and a fixed number of
significant digits with a power of ten.

## Main definitions

* `Round.halfEven`: `n / d` rounded to the nearest natural number, ties to even.
* `Round.leadExponent`: the power of ten of the leading digit of `n / d`.
* `Round.fixed`: the numeral of `n / d` with exactly `p` fraction digits.
* `Round.significant`: the digits of `n / d` rounded to `p + 1` significant digits, with the
  power of ten of the first.

## Main results

* `Round.halfEven_of_lt`, `Round.halfEven_of_gt`, `Round.halfEven_of_eq`: the three cases of the
  remainder.
-/

namespace BraceFormat.Round

/-- `n / d` rounded to the nearest natural number; a remainder of exactly half goes to the even
neighbour. -/
def halfEven (n d : Nat) : Nat :=
  if 2 * (n % d) < d then n / d
  else if d < 2 * (n % d) then n / d + 1
  else if n / d % 2 = 0 then n / d else n / d + 1

theorem halfEven_of_lt {n d : Nat} (h : 2 * (n % d) < d) : halfEven n d = n / d := by
  simp [halfEven, h]

theorem halfEven_of_gt {n d : Nat} (h : d < 2 * (n % d)) : halfEven n d = n / d + 1 := by
  simp [halfEven, h, Nat.not_lt.2 (Nat.le_of_lt h)]

theorem halfEven_of_eq {n d : Nat} (h : 2 * (n % d) = d) :
    halfEven n d = if n / d % 2 = 0 then n / d else n / d + 1 := by
  simp [halfEven, h]

/-- `n / d · 10 ^ k` as a quotient of natural numbers. -/
def scale (n d : Nat) (k : Int) : Nat × Nat :=
  if 0 ≤ k then (n * Nat.pow 10 k.toNat, d) else (n, d * Nat.pow 10 (-k).toNat)

/-- The number of decimal digits of `n`, one for zero. -/
def decimalLength (n : Nat) : Nat :=
  (Numeral.chars 10 false n).length

/-- The power of ten of the leading digit of `n / d`: the `k` with `10 ^ k ≤ n / d < 10 ^ (k + 1)`,
for positive `n` and `d`. The digit counts of `n` and `d` give it up to one. -/
def leadExponent (n d : Nat) : Int :=
  let k : Int := (decimalLength n : Int) - decimalLength d
  let (a, b) := scale n d (-k)
  if a < b then k - 1 else k

/-- The numeral of `n · 10 ^ z` with a point before its last `p` digits: zeros added in front so
that a digit stands before the point, and no point when `p` is zero. The `z` trailing zeros are
written as a run (`Text.run`), so a large shift costs no arithmetic on `n · 10 ^ z`. -/
def layoutFixed (n z p : Nat) : String :=
  let z := if n = 0 then 0 else z
  let ds := Numeral.chars 10 false n
  let len := ds.length + z
  if p = 0 then String.ofList ds ++ Text.run '0' z
  else if len ≤ p then "0." ++ Text.run '0' (p - len) ++ String.ofList ds ++ Text.run '0' z
  else if p ≤ z then String.ofList ds ++ Text.run '0' (z - p) ++ "." ++ Text.run '0' p
  else
    let k := len - p
    String.ofList (ds.take k) ++ "." ++ String.ofList (ds.drop k) ++ Text.run '0' z

/-- The numeral of `n / d` rounded to `p` fraction digits, ties to even, with exactly `p`
digits after the point and no point when `p` is zero. -/
def fixed (n d p : Nat) : String :=
  layoutFixed (halfEven (n * Nat.pow 10 p) d) 0 p

/-- `c / 10 ^ k` rounded to the nearest natural number, ties to even. When `10 ^ k` has two
digits more than `c` the quotient is below a tenth and rounds to zero without the power being
computed. -/
def halfEvenPow10 (c k : Nat) : Nat :=
  if decimalLength c + 1 < k then 0 else halfEven c (Nat.pow 10 k)

/-- `n / d`, positive, rounded to `p + 1` significant digits, ties to even: the digits as one
number below `10 ^ (p + 1)` and the power of ten of the first digit. A carry past the last
digit moves the power up. -/
def significant (n d p : Nat) : Nat × Int :=
  let k := leadExponent n d
  let (a, b) := scale n d ((p : Int) - k)
  let m := halfEven a b
  if m = Nat.pow 10 (p + 1) then (Nat.pow 10 p, k + 1) else (m, k)

end BraceFormat.Round
