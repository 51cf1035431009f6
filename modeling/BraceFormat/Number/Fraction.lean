import BraceFormat.Number.Binary64
/-!
# Fractions

A fraction is an integer over a positive denominator in lowest terms. Its literal form is
`Fraction(n, d)`, and its value as a binary64 number is the quotient rounded once.

Reading accepts blanks around the text, a sign, and either `n/d`, with no blanks around the
slash and runs of digits of any script (underscores between digits allowed), or a decimal
literal with a point and an exponent.
Each run is then read as an integer numeral, so the digit limit applies to each; a decimal part
may also be a run of the letter `d`, which is accepted by the syntax but is no numeral. A zero
denominator is refused, and so is a fraction too large for a binary64 number when it is
converted to one.

## Main definitions

* `Fraction`: the fractions.
* `Fraction.normalize`: lowest terms of a sign, a numerator and a denominator.
* `Fraction.parse`, `Fraction.read`: the parts of a literal, and reading a fraction.
* `Fraction.repr`, `Fraction.toBinary64`.
-/

namespace BraceFormat

/-- A fraction in lowest terms. -/
structure Fraction where
  num : Int
  den : Nat
  deriving DecidableEq, Repr

namespace Fraction

/-- The fraction `± n / d` in lowest terms; `none` when `d` is zero. -/
def normalize (neg : Bool) (n d : Nat) : Option Fraction :=
  if d = 0 then none
  else
    let g := Nat.gcd n d
    let n := n / g
    some ⟨if neg then -(n : Int) else n, d / g⟩

/-- The characters of a run of digits: decimal digits of any script and underscores. -/
def isRunChar (c : Char) : Bool :=
  Text.isDecimalDigit c || c == '_'

/-- Whether text is a non-empty run of digits with its underscores between digits. -/
def isJoinedRun (cs : List Char) : Bool :=
  !cs.isEmpty && cs.all isRunChar && Integer.joined cs

/-- The parts of a fraction literal as written: the sign, the numerator's digits, and either the
denominator's digits, or the digits of a decimal part and an exponent with its sign. -/
structure Literal where
  neg : Bool
  num : List Char
  denom : Option (List Char) := none
  decimal : List Char := []
  exp : Option (List Char) := none
  deriving DecidableEq, Repr

/-- Reads an exponent after its marker: a sign and a run of digits, the sign kept. -/
def readExponent (cs : List Char) : Option (List Char) :=
  let body := match cs with
    | '+' :: r => r
    | '-' :: r => r
    | r => r
  if isJoinedRun body then some cs else none

/-- Reads what may end a literal: nothing, or an exponent marker in either case and an exponent. -/
def readTail : List Char → Option (Option (List Char))
  | [] => some none
  | c :: r => if c == 'e' || c == 'E' then (readExponent r).map some else none

/-- Whether a character is the letter `d` in either case. -/
def isLetterD (c : Char) : Bool :=
  c == 'd' || c == 'D'

/-- Reads a decimal part and what follows it. A decimal part is first tried as a run of the
letter `d` in either case, possibly empty, and only then as a run of digits; a run of letters is
kept here and refused later, when its value is read. -/
def readDecimal (cs : List Char) : Option (List Char × Option (List Char)) :=
  match readTail (cs.dropWhile isLetterD) with
  | some e => some (cs.takeWhile isLetterD, e)
  | none =>
    let run := cs.takeWhile isRunChar
    if isJoinedRun run then (readTail (cs.dropWhile isRunChar)).map (run, ·) else none

/-- Reads what follows the numerator: nothing, a slash and a denominator, or an optional decimal
part after a point and an optional exponent. -/
def readAfterNumerator (neg : Bool) (num : List Char) : List Char → Option Literal
  | [] => some { neg, num }
  | '/' :: r => if isJoinedRun r then some { neg, num, denom := some r } else none
  | '.' :: r => (readDecimal r).map fun (decimal, exp) => { neg, num, decimal, exp }
  | cs => (readTail cs).map fun exp => { neg, num, exp }

/-- Whether a literal's body may begin here: with a digit, or with a point and a digit. -/
def startsNumber : List Char → Bool
  | '.' :: d :: _ => Text.isDecimalDigit d
  | c :: _ => Text.isDecimalDigit c
  | [] => false

/-- Splits a fraction literal into its parts: blanks at both ends, a sign, and a numerator that
is a run of digits, possibly empty when a point and a digit follow. -/
def parse (s : String) : Option Literal :=
  let (neg, body) := Decimal.readSign (Decimal.trimBlanks s.toList)
  let num := body.takeWhile isRunChar
  if startsNumber body && Integer.joined num then
    readAfterNumerator neg num (body.dropWhile isRunChar)
  else none

/-- Reads the value of a run of digits as an integer numeral. -/
def readPart (cs : List Char) : Except Fault Int :=
  Integer.read (String.ofList cs)

/-- The fraction a literal's parts stand for: the numerator over the denominator, or the
numerator and decimal part over the power of ten of the decimal part's length, scaled by the
exponent; the sign last, and a zero denominator refused with the signed numerator. -/
def Literal.value (l : Literal) : Except Fault Fraction := do
  let n ← readPart (if l.num.isEmpty then ['0'] else l.num)
  let (n, d) ← match l.denom with
    | some ds => do
      let d ← readPart ds
      pure (n, d)
    | none => do
      let digits := l.decimal.filter (· ≠ '_')
      let (n, d) ← if digits.isEmpty then pure (n, (1 : Int)) else do
        let f ← readPart digits
        pure (n * Int.pow 10 digits.length + f, Int.pow 10 digits.length)
      match l.exp with
      | none => pure (n, d)
      | some es => do
        let e ← readPart es
        pure (if 0 ≤ e then (n * Int.pow 10 e.toNat, d) else (n, d * Int.pow 10 e.natAbs))
  let n := if l.neg then -n else n
  match normalize (n < 0) n.natAbs d.toNat with
  | some q => .ok q
  | none => .error (.zeroDenominator n)

/-- Reads a fraction. -/
def read (s : String) : Except Fault Fraction :=
  match parse s with
  | some l => l.value
  | none => .error (.notFraction s)

/-- The literal form `Fraction(n, d)`. -/
def repr (q : Fraction) : String :=
  "Fraction(" ++ Numeral.signed q.num ++ ", " ++ Numeral.decimal q.den ++ ")"

/-- The standard text: `n/d`, or `n` when the denominator is one. -/
def text (q : Fraction) : String :=
  if q.den = 1 then Numeral.signed q.num
  else Numeral.signed q.num ++ "/" ++ Numeral.decimal q.den

/-- The binary64 number nearest to the fraction; a fraction that rounds past the largest finite
number overflows. -/
def toBinary64 (q : Fraction) : Except Fault Binary64 :=
  match Binary64.ofQuotient (q.num < 0) q.num.natAbs q.den with
  | .infinite _ => .error .quotientOverflow
  | x => .ok x

end Fraction

end BraceFormat
