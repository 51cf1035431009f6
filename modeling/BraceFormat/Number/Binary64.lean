import BraceFormat.Number.Decimal
import BraceFormat.Number.Integer
/-!
# Binary64 numbers

An IEEE 754 binary64 number: a finite value given by its sign, its 11-bit biased exponent field
(below `2047`) and its 52-bit fraction, an infinity, or a NaN. A finite number with field `0` is
a zero or a subnormal, `fraction · 2 ^ -1074`; a field `f ≥ 1` gives the normal number
`(2 ^ 52 + fraction) · 2 ^ (f - 1075)`. The bounds of the fields are part of the type, so every
value of the type is a binary64 number and each number has one representation, the two zeros
apart.

A positive quotient is rounded to the nearest binary64 number, a tie going to the even
significand; a quotient at or past the midpoint between the largest finite number and
`2 ^ 1024` becomes an infinity. Literals are read exactly as decimal numbers and then rounded,
so a literal too large for a finite number reads as an infinity.

## Main definitions

* `Binary64`: the numbers.
* `Binary64.significand`, `Binary64.exponent`: the finite value `significand · 2 ^ exponent`.
* `Binary64.ofQuotient`: rounding a quotient of natural numbers with a sign.
* `Binary64.read`: reading a literal.
* `Binary64.toDecimal`: the exact value of a finite number as a decimal number.
* `Binary64.fixedFault?`: when a fixed layout is refused.
-/

namespace BraceFormat

/-- An IEEE 754 binary64 number. -/
inductive Binary64 where
  /-- A finite number by its sign, biased exponent field and fraction. -/
  | finite (neg : Bool) (field : Fin 2047) (fraction : Fin (Nat.pow 2 52))
  /-- An infinity. -/
  | infinite (neg : Bool)
  /-- A NaN; its sign is never shown. -/
  | nan
  deriving DecidableEq, Repr

namespace Binary64

/-- The integral significand of a finite number: the fraction, with the hidden bit `2 ^ 52` for
a normal number. -/
def significand (field fraction : Nat) : Nat :=
  if field = 0 then fraction else Nat.pow 2 52 + fraction

/-- The power of two that the significand of a finite number is scaled by. -/
def exponent (field : Nat) : Int :=
  (max field 1 : Nat) - 1075

/-- `n / d · 2 ^ k` as a quotient of natural numbers. -/
def scale2 (n d : Nat) (k : Int) : Nat × Nat :=
  if 0 ≤ k then (n * Nat.pow 2 k.toNat, d) else (n, d * Nat.pow 2 (-k).toNat)

/-- The power of two of the leading bit of `n / d`: the `k` with `2 ^ k ≤ n / d < 2 ^ (k + 1)`,
for positive `n` and `d`. The bit lengths of `n` and `d` give it up to one. -/
def leadExponent (n d : Nat) : Int :=
  let k : Int := (n.log2 : Int) - d.log2
  let (a, b) := scale2 n d (-k)
  if a < b then k - 1 else k

/-- The binary64 number nearest to `± n / d`, a tie going to the even significand. -/
def ofQuotient (neg : Bool) (n d : Nat) : Binary64 :=
  if n = 0 then finite neg 0 0
  else
    let e : Int := max (leadExponent n d - 52) (-1074)
    let (a, b) := scale2 n d (-e)
    let m := Round.halfEven a b
    let (m, e) := if m = Nat.pow 2 53 then (Nat.pow 2 52, e + 1) else (m, e)
    if h : m < Nat.pow 2 52 then finite neg 0 ⟨m, h⟩
    else if hf : (e + 1075).toNat < 2047 then
      if hm : m - Nat.pow 2 52 < Nat.pow 2 52 then finite neg ⟨(e + 1075).toNat, hf⟩ ⟨m - Nat.pow 2 52, hm⟩
      else infinite neg
    else infinite neg

/-- The binary64 number nearest to `± coef · 10 ^ exp`. Far outside the finite range the answer
is an infinity or a zero without computing the power. -/
def ofScientific (neg : Bool) (coef : Nat) (exp : Int) : Binary64 :=
  let lead : Int := exp + Round.decimalLength coef
  if coef = 0 then finite neg 0 0
  else if 400 < lead then infinite neg
  else if lead < -400 then finite neg 0 0
  else
    let (n, d) := Decimal.quotient coef exp
    ofQuotient neg n d

/-- Whether underscores in a literal stand only between two digits. -/
def underscoresBetweenDigits : List Char → Bool
  | a :: '_' :: b :: rest => a.isDigit && b.isDigit && underscoresBetweenDigits (b :: rest)
  | '_' :: _ => false
  | _ :: rest => underscoresBetweenDigits rest
  | [] => true

/-- Text without the ASCII blanks at both ends. -/
def trimAsciiBlanks (cs : List Char) : List Char :=
  ((cs.dropWhile Integer.isAsciiBlank).reverse.dropWhile Integer.isAsciiBlank).reverse

/-- Reads the ASCII characters of a literal: a sign, then `inf`, `infinity` or `nan` in any case,
or digits with an optional point and exponent, underscores allowed between two digits. -/
def readAscii (cs : List Char) : Option Binary64 :=
  let (neg, body) := Decimal.readSign cs
  let lower := body.map Char.toLower
  if lower = "inf".toList || lower = "infinity".toList then some (infinite neg)
  else if lower = "nan".toList then some nan
  else if underscoresBetweenDigits body then
    (Decimal.readFinite (body.filter (· ≠ '_'))).map fun (c, x) => ofScientific neg c x
  else none

/-- Reads a literal. The text is first brought to ASCII (`Text.asciiNumeral`), and only then are
the ASCII blanks at its ends dropped, so a blank beyond ASCII counts as a space while an
information separator does not count as a blank. -/
def read (s : String) : Except Fault Binary64 :=
  match readAscii (trimAsciiBlanks (s.toList.map Text.asciiNumeral)) with
  | some x => .ok x
  | none => .error (.notFloat s)

/-- Whether a number is negative or a negative zero; never a NaN. -/
def isNeg : Binary64 → Bool
  | finite neg _ _ => neg
  | infinite neg => neg
  | nan => false

/-- The exact value of a finite number as a decimal number: `m · 2 ^ e` is `m · 5 ^ -e · 10 ^ e`
for a negative `e`. -/
def toDecimal : Binary64 → Decimal
  | finite neg f x =>
    let m := significand f x
    let e := exponent f
    if 0 ≤ e then .finite neg (m * Nat.pow 2 e.toNat) 0 else .finite neg (m * Nat.pow 5 (-e).toNat) e
  | infinite neg => .infinite neg
  | nan => .nan false false 0

/-- The greatest precision of the fixed layout of a binary64 number. -/
def maxPrecision : Nat := Nat.pow 2 31 - 1

/-- Why a finite binary64 number of exact value `coef · 10 ^ exp` cannot be laid out with `p`
fraction digits, if it cannot: a precision from `indexLimit` on cannot be read as a count, one
beyond `maxPrecision` is refused, and the text must fit in the memory. -/
def fixedFault? (coef : Nat) (exp : Int) (p : Nat) : Option Fault :=
  if indexLimit ≤ p then some .longPrecision
  else if maxPrecision < p then some .precisionTooBig
  else if memoryLimit ≤ Decimal.fixedLength coef exp p then some .outOfMemory
  else none

end Binary64

end BraceFormat
