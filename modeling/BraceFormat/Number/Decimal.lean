import BraceFormat.Number.Round
import BraceFormat.Fault
import BraceFormat.Text.Digit
import BraceFormat.Text.Run
/-!
# Decimal numbers

A decimal number is a sign, a coefficient and a power of ten, kept exactly as written: `2.50`
has coefficient `250` and exponent `-2`, so it keeps its trailing zero. Beside the finite numbers
there are the infinities and the quiet and signalling NaNs, which may carry a payload.

Three texts of a decimal number are used:

* the standard text, in which a number with a positive exponent or with its leading digit more
  than six places after the point takes an exponent (`1E+16`, `1.23456789E-30`) and every other
  number is written out (`0.000123`, `1200`);
* the plain layout of a magnitude, never with an exponent (`10000000000000000`); a zero with a
  positive exponent is written `0`;
* the scientific layout of a magnitude, a mantissa with one digit before the point and an
  exponent with no plus sign and no leading zeros (`4.2e5`).

A layout too large to be made is refused: its text must fit in the memory (`memoryLimit`), a
precision must be at most `maxPrecision`, and a coefficient shifted for a precision must stay
within one digit more than that. A precision from `indexLimit` on is beyond the fast layouts and
goes to a general method that fails on the run of zeros it starts with.

Reading accepts a sign, digits with an optional point, an optional exponent, `Inf`,
`Infinity`, `NaN` and `sNaN` with an optional payload, in any case, with blanks around it. The
blanks at the ends are dropped first, then every underscore wherever it stands; digits of every
script count (`Text.asciiNumeral`), and any other character makes the text no numeral. A finite
number must have its exponent in range: its leading digit at most at `10 ^ maxAdjusted`, and
the exponent itself at least `minExponent`.

## Main definitions

* `Decimal`: the numbers.
* `Decimal.readFinite`: digits, a point and an exponent as coefficient and exponent.
* `Decimal.read`: reading a decimal number.
* `Decimal.text`: the standard text.
* `Decimal.plain`, `Decimal.fixed`, `Decimal.scientific`: the layouts of a magnitude.
* `Decimal.plainFault?`, `Decimal.fixedFault?`, `Decimal.scientificFault?`: when a layout is too
  large to be made.
-/

namespace BraceFormat

/-- A decimal number. -/
inductive Decimal where
  /-- `(-1) ^ neg · coef · 10 ^ exp`, with the exponent as written. -/
  | finite (neg : Bool) (coef : Nat) (exp : Int)
  /-- An infinity. -/
  | infinite (neg : Bool)
  /-- A NaN, quiet or signalling, with its payload (`0` for none). -/
  | nan (neg : Bool) (signaling : Bool) (payload : Nat)
  deriving DecidableEq, Repr, Inhabited

namespace Decimal

/-- The value of a run of decimal digits. -/
def digitsValue (ds : List Char) : Nat :=
  ds.foldl (fun acc d => acc * 10 + (d.toNat - 48)) 0

/-- Reads an exponent: an optional sign and at least one digit, nothing after them. -/
def readExponent (cs : List Char) : Option Int :=
  let (neg, ds) := match cs with
    | '-' :: rest => (true, rest)
    | '+' :: rest => (false, rest)
    | _ => (false, cs)
  if !ds.isEmpty && ds.all Char.isDigit then
    some (if neg then -(digitsValue ds : Int) else digitsValue ds)
  else none

/-- Reads digits with an optional point and an optional exponent as a coefficient and an
exponent. At least one digit must stand before or after the point. -/
def readFinite (cs : List Char) : Option (Nat × Int) :=
  let whole := cs.takeWhile Char.isDigit
  let rest := cs.dropWhile Char.isDigit
  let (frac, rest) := match rest with
    | '.' :: r => (r.takeWhile Char.isDigit, r.dropWhile Char.isDigit)
    | _ => ([], rest)
  if whole.isEmpty && frac.isEmpty then none
  else
    let exp? : Option Int := match rest with
      | [] => some 0
      | c :: r => if c = 'e' || c = 'E' then readExponent r else none
    exp?.map fun x => (digitsValue (whole ++ frac), x - frac.length)

/-- Text without the blanks at both ends. -/
def trimBlanks (cs : List Char) : List Char :=
  ((cs.dropWhile Text.isBlank).reverse.dropWhile Text.isBlank).reverse

/-- A leading sign: whether it is `-`, and what follows it. -/
def readSign : List Char → Bool × List Char
  | '-' :: rest => (true, rest)
  | '+' :: rest => (false, rest)
  | cs => (false, cs)

/-- Reads a NaN payload: nothing, or digits. -/
def readPayload (cs : List Char) : Option Nat :=
  if cs.all Char.isDigit then some (digitsValue cs) else none

/-- The characters of a numeral as the grammar reads them: the blanks at both ends dropped,
then every underscore, and what is left brought to ASCII. -/
def numeralChars (s : String) : List Char :=
  ((trimBlanks s.toList).filter (· ≠ '_')).map Text.asciiNumeral

/-- Reads the ASCII characters of a numeral. -/
def readAscii (cs : List Char) : Option Decimal :=
  let (neg, body) := readSign cs
  let lower := body.map Char.toLower
  if lower = "inf".toList || lower = "infinity".toList then some (infinite neg)
  else if lower.take 3 = "nan".toList then (readPayload (lower.drop 3)).map (nan neg false)
  else if lower.take 4 = "snan".toList then (readPayload (lower.drop 4)).map (nan neg true)
  else (readFinite body).map fun (c, x) => finite neg c x

/-- The largest adjusted exponent, the exponent of the leading digit, of a decimal number. -/
def maxAdjusted : Int := 999999999999999999

/-- The smallest exponent of a decimal number. -/
def minExponent : Int := -1999999999999999997

/-- Whether a coefficient and an exponent stand for a decimal number exactly: the leading
digit's exponent at most `maxAdjusted` (a zero counting as one digit) and the exponent at least
`minExponent`. -/
def inRange (coef : Nat) (exp : Int) : Bool :=
  exp + Round.decimalLength coef - 1 ≤ maxAdjusted && minExponent ≤ exp

/-- Reads a decimal number: text that is no numeral is a syntax fault, and a finite number
outside the range of exponents is a range fault. -/
def read (s : String) : Except Fault Decimal :=
  match readAscii (numeralChars s) with
  | none => .error .decimalSyntax
  | some (finite neg c x) => if inRange c x then .ok (finite neg c x) else .error .decimalRange
  | some d => .ok d

/-- The standard text of a finite number's magnitude: written out when the exponent is not
positive and the leading digit is at most six places after the point, and otherwise with one
digit before the point and an exponent. -/
def magnitudeText (coef : Nat) (exp : Int) : String :=
  let ds := Numeral.chars 10 false coef
  let lead : Int := exp + ds.length
  if exp ≤ 0 && lead > -6 then
    if lead ≤ 0 then
      String.ofList ('0' :: '.' :: List.replicate (-lead).toNat '0' ++ ds)
    else if lead.toNat < ds.length then
      String.ofList (ds.take lead.toNat ++ '.' :: ds.drop lead.toNat)
    else String.ofList ds
  else
    let mantissa := match ds with
      | d :: rest@(_ :: _) => d :: '.' :: rest
      | _ => ds
    let power := lead - 1
    String.ofList mantissa ++ "E" ++ (if power < 0 then "-" else "+") ++
      Numeral.decimal power.natAbs

/-- The standard text of a decimal number. -/
def text : Decimal → String
  | finite neg c x => (if neg then "-" else "") ++ magnitudeText c x
  | infinite neg => (if neg then "-" else "") ++ "Infinity"
  | nan neg sig p =>
    (if neg then "-" else "") ++ (if sig then "sNaN" else "NaN") ++
      (if p = 0 then "" else Numeral.decimal p)

/-- The plain layout of the magnitude `coef · 10 ^ exp`: every digit written out, the point
only when the exponent is negative, and `0` for a zero with a positive exponent. -/
def plain (coef : Nat) (exp : Int) : String :=
  let exp := if coef = 0 && exp > 0 then 0 else exp
  let ds := Numeral.chars 10 false coef
  if 0 ≤ exp then String.ofList ds ++ Text.run '0' exp.toNat
  else
    let lead : Int := ds.length + exp
    if lead ≤ 0 then "0." ++ Text.run '0' (-lead).toNat ++ String.ofList ds
    else String.ofList (ds.take lead.toNat ++ '.' :: ds.drop lead.toNat)

/-- The magnitude `coef · 10 ^ exp` as a quotient of natural numbers. -/
def quotient (coef : Nat) (exp : Int) : Nat × Nat :=
  Round.scale coef 1 exp

/-- The magnitude `coef · 10 ^ exp` rounded to `p` fraction digits, ties to even. -/
def fixed (coef : Nat) (exp : Int) (p : Nat) : String :=
  let shift := exp + p
  if 0 ≤ shift then Round.layoutFixed coef shift.toNat p
  else Round.layoutFixed (Round.halfEvenPow10 coef (-shift).toNat) 0 p

/-- A positive coefficient rounded to `p + 1` significant digits, ties to even: the digits as
`m · 10 ^ z` with exactly `p + 1` digits in all, and how many places the point moved, one more
when the rounding carries into a new digit. A coefficient with at most `p + 1` digits keeps them,
followed by zeros. -/
def roundSignificant (coef p : Nat) : Nat × Nat × Nat :=
  let len := Round.decimalLength coef
  if len ≤ p + 1 then (coef, p + 1 - len, 0)
  else
    let m := Round.halfEven coef (Nat.pow 10 (len - (p + 1)))
    if m = Nat.pow 10 (p + 1) then (1, p, 1) else (m, 0, 0)

/-- The scientific layout of the magnitude `coef · 10 ^ exp` with `marker` before the exponent.
Without a precision the mantissa keeps the significant digits of the coefficient, trailing
zeros dropped; with precision `p` it is rounded to `p` fraction digits, ties to even. Zero is
`0`, with `p` zeros after a point when `p` is positive, and exponent `0`. -/
def scientific (coef : Nat) (exp : Int) (precision : Option Nat) (marker : String) : String :=
  if coef = 0 then
    let frac := match precision with
      | some p => if p = 0 then "" else "." ++ Text.run '0' p
      | none => ""
    "0" ++ frac ++ marker ++ "0"
  else
    match precision with
    | none =>
      let ds := Numeral.chars 10 false coef
      let power := exp + ds.length - 1
      let sig := (ds.reverse.dropWhile (· = '0')).reverse
      let mantissa := match sig with
        | d :: rest@(_ :: _) => d :: '.' :: rest
        | _ => sig
      String.ofList mantissa ++ marker ++ Numeral.signed power
    | some p =>
      let (m, z, carry) := roundSignificant coef p
      let power := exp + Round.decimalLength coef - 1 + carry
      let ds := Numeral.chars 10 false m
      let mantissa :=
        if p = 0 then String.ofList ds
        else String.ofList (ds.take 1 ++ '.' :: ds.drop 1) ++ Text.run '0' z
      mantissa ++ marker ++ Numeral.signed power

/-- The greatest precision of a decimal number. -/
def maxPrecision : Nat := 999999999999999999

/-- The length of the plain layout of `coef · 10 ^ exp`. -/
def plainLength (coef : Nat) (exp : Int) : Nat :=
  let len := Round.decimalLength coef
  if coef = 0 && exp > 0 then 1
  else if 0 ≤ exp then len + exp.toNat
  else max len (-exp).toNat + 2

/-- Why the plain layout of `coef · 10 ^ exp` cannot be made, if it cannot: it must fit in the
memory. -/
def plainFault? (coef : Nat) (exp : Int) : Option Fault :=
  if memoryLimit ≤ plainLength coef exp then some .outOfMemory else none

/-- The length of the layout of `coef · 10 ^ exp` with `p` fraction digits. -/
def fixedLength (coef : Nat) (exp : Int) (p : Nat) : Nat :=
  (max ((Round.decimalLength coef : Int) + exp + p) (p + 1)).toNat + 1

/-- Why the layout of `coef · 10 ^ exp` with `p` fraction digits cannot be made, if it cannot.
A precision from `indexLimit` on is laid out by a general method that first writes out the
zeros the coefficient is shifted by, `exp + p` of them (`p - 1` for a zero), and no such run can
be made. Otherwise the precision must be at most `maxPrecision`, a coefficient shifted to the
left must have at most one digit more than that, and the text must fit in the memory. -/
def fixedFault? (coef : Nat) (exp : Int) (p : Nat) : Option Fault :=
  if indexLimit ≤ p then Fault.ofRun? (if coef = 0 then p - 1 else (exp + p).toNat)
  else if maxPrecision < p then some .decimalLimits
  else if coef ≠ 0 && 0 < exp + p &&
      ((maxPrecision + 1 : Nat) : Int) < Round.decimalLength coef + exp + p then
    some .decimalLimits
  else if memoryLimit ≤ fixedLength coef exp p then some .outOfMemory
  else none

/-- Why the scientific layout of `coef · 10 ^ exp` with a precision cannot be made, if it
cannot. A zero writes its fraction digits as a run of zeros. Any other coefficient is rounded to
`p + 1` digits: a precision from `indexLimit` on by the general method, which writes the
`p + 1` digits less those of the coefficient as a run of zeros first; otherwise the precision
must be at most `maxPrecision` and the digits must fit in the memory. -/
def scientificFault? (coef : Nat) (precision : Option Nat) : Option Fault :=
  match precision with
  | none => none
  | some p =>
    if coef = 0 then Fault.ofRun? p
    else if indexLimit ≤ p then Fault.ofRun? (p + 1 - Round.decimalLength coef)
    else if maxPrecision < p then some .decimalLimits
    else if memoryLimit ≤ p + 1 then some .outOfMemory
    else none

/-- The exponent code of a number that is not finite, as its tuple form gives it in place of an
exponent: `F` for an infinity, `n` for a quiet NaN and `N` for a signalling one. -/
def exponentCode : Decimal → String
  | finite _ _ x => Numeral.signed x
  | infinite _ => "F"
  | nan _ false _ => "n"
  | nan _ true _ => "N"

/-- The scientific layout of a decimal number. A zero is written as zero whatever its sign;
without a precision the sign of any other number is dropped, and with one a negative number
keeps its `-`. Infinities and NaNs have no scientific layout: the exponent is read as an integer
from text that holds none, the empty text after the missing exponent marker with a precision,
the exponent code without one. -/
def scientificText (d : Decimal) (precision : Option Nat) (marker : String) :
    Except Fault String :=
  match d with
  | finite neg c x =>
    match scientificFault? c precision with
    | some f => .error f
    | none =>
      if c = 0 || precision.isNone then .ok (scientific c x precision marker)
      else .ok ((if neg then "-" else "") ++ scientific c x precision marker)
  | d => .error (.notInteger (if precision.isSome then "" else d.exponentCode))

end Decimal

end BraceFormat
