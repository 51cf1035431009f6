import BraceFormat.Number.Binary64
/-!
# Shortest digits of a binary64 number

Every positive finite binary64 number `v` owns the interval of reals that round to it: half the
gap to each neighbour on either side, the lower gap being half as wide when `v` is a power of
two above the least normal number. The ends belong to the interval exactly when the
significand is even, since a tie then rounds to `v`.

The shortest digits of `v` are the fewest significant decimal digits of a number in that
interval, and of two such numbers the nearer to `v`, or the one with the even last digit when
both are equally near. With `n` digits the candidates are the two neighbours of `v` on the grid
`10 ^ (k + 1 - n)`, `10 ^ k` being the leading power of `v`: if any point of that grid lies in
the interval, one of them does. Seventeen digits always suffice.

The repr text of a number writes its shortest digits positionally when the point falls at
most four places before the first digit and at most sixteen after it, keeping `.0` on an
integral value, and otherwise with one digit before the point and an exponent of at least two
digits with its sign (`1e+16`, `1e-07`).

## Main definitions

* `Binary64.shortest`: the shortest digits as a coefficient without trailing zeros and a
  power of ten.
* `Binary64.reprDecimal`: the repr text read as a decimal number.
* `Binary64.repr`: the repr text.
-/

namespace BraceFormat

namespace Binary64

/-- Compares `a · 10 ^ k` with `b · 2 ^ j`. -/
def compareScaled (a : Nat) (k : Int) (b : Nat) (j : Int) : Ordering :=
  let left := a * (if 0 ≤ k then Nat.pow 10 k.toNat else 1) * (if j < 0 then Nat.pow 2 (-j).toNat else 1)
  let right := b * (if k < 0 then Nat.pow 10 (-k).toNat else 1) * (if 0 ≤ j then Nat.pow 2 j.toNat else 1)
  compare left right

/-- Whether `c · 10 ^ k` lies between `lo · 2 ^ j` and `hi · 2 ^ j`, the ends included when
`closed` is set. -/
def inInterval (closed : Bool) (lo hi : Nat) (j : Int) (c : Nat) (k : Int) : Bool :=
  let above := compareScaled c k lo j
  let below := compareScaled c k hi j
  if closed then above != .lt && below != .gt else above == .gt && below == .lt

/-- The candidate with `n` significant digits for the number `m · 2 ^ e`, whose leading power
of ten is `lead`, inside the interval from `lo · 2 ^ j` to `hi · 2 ^ j`: a coefficient and its
power of ten, if one of the two grid neighbours lies inside. -/
def candidate (m : Nat) (e : Int) (lead : Int) (closed : Bool) (lo hi : Nat) (j : Int)
    (n : Nat) : Option (Nat × Int) :=
  let k := lead + 1 - n
  let (a, b) := scale2 m 1 e
  let (a, b) := Round.scale a b (-k)
  let down := a / b
  let r := a % b
  let inDown := inInterval closed lo hi j down k
  let inUp := r ≠ 0 && inInterval closed lo hi j (down + 1) k
  if inDown && inUp then
    if 2 * r < b then some (down, k)
    else if b < 2 * r then some (down + 1, k)
    else if down % 2 = 0 then some (down, k) else some (down + 1, k)
  else if inDown then some (down, k)
  else if inUp then some (down + 1, k)
  else none

/-- A coefficient without its trailing zeros, the power of ten raised to match. -/
def dropTrailingZeros (c : Nat) (k : Int) : Nat × Int :=
  let ds := Numeral.chars 10 false c
  let kept := (ds.reverse.dropWhile (· = '0')).reverse
  (Decimal.digitsValue kept, k + (ds.length - kept.length : Nat))

/-- The shortest digits of the positive number with significand `m` and exponent field `f`: a
coefficient without trailing zeros and its power of ten. -/
def shortestOf (f m : Nat) : Nat × Int :=
  let e := exponent f
  let narrow := m = Nat.pow 2 52 && f > 1
  let lo := if narrow then 4 * m - 1 else 4 * m - 2
  let hi := 4 * m + 2
  let (a, b) := scale2 m 1 e
  let lead := Round.leadExponent a b
  let closed := m % 2 == 0
  let found := (List.range 17).findSome? fun i => candidate m e lead closed lo hi (e - 2) (i + 1)
  let (c, k) := found.getD (Round.significant a b 16)
  dropTrailingZeros c k

/-- The shortest digits of a finite number's magnitude: a coefficient without trailing zeros
and its power of ten; `(0, 0)` for a zero. -/
def shortest (f : Fin 2047) (x : Fin (Nat.pow 2 52)) : Nat × Int :=
  let m := significand f x
  if m = 0 then (0, 0) else shortestOf f m

/-- The repr text of a magnitude with shortest digits `ds` and the point `point` places after
the first digit. -/
def reprLayout (ds : List Char) (point : Int) : String :=
  if -4 < point && point ≤ 16 then
    if point ≤ 0 then String.ofList ('0' :: '.' :: List.replicate (-point).toNat '0' ++ ds)
    else if point.toNat < ds.length then
      String.ofList (ds.take point.toNat ++ '.' :: ds.drop point.toNat)
    else String.ofList (ds ++ List.replicate (point.toNat - ds.length) '0' ++ ['.', '0'])
  else
    let mantissa := match ds with
      | d :: rest@(_ :: _) => d :: '.' :: rest
      | _ => ds
    let power := point - 1
    let digits := Numeral.chars 10 false power.natAbs
    let digits := if digits.length < 2 then '0' :: digits else digits
    String.ofList (mantissa ++ 'e' :: (if power < 0 then '-' else '+') :: digits)

/-- The repr text of a binary64 number: `inf`, `-inf`, `nan`, or the shortest digits. -/
def repr : Binary64 → String
  | finite neg f x =>
    let sign := if neg then "-" else ""
    let (c, k) := shortest f x
    if c = 0 then sign ++ "0.0"
    else
      let ds := Numeral.chars 10 false c
      sign ++ reprLayout ds (k + ds.length)
  | infinite neg => if neg then "-inf" else "inf"
  | nan => "nan"

/-- The repr text of a finite number's magnitude read back as a decimal number: the shortest
digits, with one more zero after the point when the text ends in `.0`. -/
def reprDecimal (f : Fin 2047) (x : Fin (Nat.pow 2 52)) : Nat × Int :=
  let (c, k) := shortest f x
  if c = 0 then (0, -1)
  else
    let n := Round.decimalLength c
    let point : Int := k + n
    if -4 < point && point ≤ 16 && n ≤ point then (c * Nat.pow 10 (point - n + 1).toNat, -1)
    else (c, k)

end Binary64

end BraceFormat
