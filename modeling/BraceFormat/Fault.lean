import BraceFormat.Text.Quoted
/-!
# Conversion faults

Some values cannot be turned into text or into numbers at all, whatever the template asks for:
an integer too long to write in decimal, a numeral too long to read, text that is not a numeral
of the kind wanted, a quotient too large for a binary64 number, or a dictionary key that cannot
be hashed. Such a fault ends a call where it happens, like a formatting error, but it belongs to
the value rather than to the template: it is reported by the class of the failure and a message,
with no offset.

Integers are written and read in decimal only up to `digitLimit` digits, which bounds the
quadratic cost of those conversions; the sign does not count, leading zeros of a numeral do.

Texts are built within two bounds: a count of characters is a machine word, below `indexLimit`,
and a text must fit in the memory, below `memoryLimit` characters. A width, a precision or an
exponent that calls for more fails with `indexOverflow` or `outOfMemory`; the layouts of numbers
have precision bounds of their own (`precisionTooBig`, `longPrecision`, `decimalLimits`).

## Main definitions

* `digitLimit`: the most decimal digits an integer may have as text.
* `Fault`: the faults.
* `indexLimit`, `memoryLimit`: the bounds on counts of characters and on texts.
* `Fault.kind`, `Fault.message`: the class of a fault and its message.
* `Fault.ofRun?`: why a run of copies of a character cannot be made.
-/

namespace BraceFormat

/-- The most decimal digits an integer may be written or read with. -/
def digitLimit : Nat := 4300

/-- Counts of characters are machine words: a count from `2 ^ 63` on cannot be used. -/
def indexLimit : Nat := Nat.pow 2 63

/-- The most characters a text may have; building a longer one exhausts the memory. -/
def memoryLimit : Nat := Nat.pow 2 31

/-- Why a value cannot be converted. -/
inductive Fault where
  /-- A numeral with more digits than `digitLimit`, and how many it has. -/
  | numeralTooLong (digits : Nat)
  /-- An integer with more digits than `digitLimit`, to be written in decimal. -/
  | integerTooLong
  /-- Text that is not a decimal integer. -/
  | notInteger (text : String)
  /-- Text that is not a binary64 literal. -/
  | notFloat (text : String)
  /-- Text that is not a decimal number. -/
  | decimalSyntax
  /-- A decimal number whose exponent is outside the range of decimal numbers. -/
  | decimalRange
  /-- Text that is not a fraction. -/
  | notFraction (text : String)
  /-- A fraction with denominator zero, and its numerator. -/
  | zeroDenominator (numerator : Int)
  /-- A quotient too large for a binary64 number. -/
  | quotientOverflow
  /-- A dictionary key of a type that cannot be hashed, by the type's name. -/
  | unhashable (typeName : String)
  /-- A signalling NaN as a dictionary key. -/
  | signalingKey
  /-- A capability name that names no capability, as its literal form shows it. -/
  | unknownCapability (shown : String)
  /-- A count of characters from `indexLimit` on. -/
  | indexOverflow
  /-- A text longer than the memory holds. -/
  | outOfMemory
  /-- A precision beyond what a binary64 layout accepts. -/
  | precisionTooBig
  /-- A precision too long to be read as a machine-word count. -/
  | longPrecision
  /-- A decimal layout beyond the precision or the digits a decimal number may have. -/
  | decimalLimits
  deriving DecidableEq, Repr, Inhabited

namespace Fault

/-- The class of a fault. -/
def kind : Fault → String
  | numeralTooLong _ | integerTooLong | notInteger _ | notFloat _ | notFraction _
  | unknownCapability _ | precisionTooBig | longPrecision | decimalLimits => "ValueError"
  | decimalSyntax | decimalRange => "InvalidOperation"
  | zeroDenominator _ => "ZeroDivisionError"
  | quotientOverflow | indexOverflow => "OverflowError"
  | unhashable _ | signalingKey => "TypeError"
  | outOfMemory => "MemoryError"

/-- The first part of the message of a fault about the digit limit. -/
def limitText : String :=
  "Exceeds the limit (" ++ Numeral.decimal digitLimit ++ " digits) for integer string conversion"

/-- How the message of a fault about the digit limit ends. -/
def limitAdvice : String :=
  "use sys.set_int_max_str_digits() to increase the limit"

/-- The message of a fault. Text that is not an integer is shown by its literal form cut to 200
characters, so a long text gives a bounded message. -/
def message : Fault → String
  | numeralTooLong n =>
    limitText ++ ": value has " ++ Numeral.decimal n ++ " digits; " ++ limitAdvice
  | integerTooLong => limitText ++ "; " ++ limitAdvice
  | notInteger s =>
    "invalid literal for int() with base 10: " ++ String.ofList ((Text.Quoted.text s).toList.take 200)
  | notFloat s => "could not convert string to float: " ++ Text.Quoted.text s
  | decimalSyntax => "[<class 'decimal.ConversionSyntax'>]"
  | decimalRange => "[<class 'decimal.InvalidOperation'>]"
  | notFraction s => "Invalid literal for Fraction: " ++ Text.Quoted.text s
  | zeroDenominator n => "Fraction(" ++ Numeral.signed n ++ ", 0)"
  | quotientOverflow => "integer division result too large for a float"
  | unhashable t => "unhashable type: '" ++ t ++ "'"
  | signalingKey => "Cannot hash a signaling NaN value"
  | unknownCapability v => v ++ " is not a valid Capability"
  | indexOverflow => "cannot fit 'int' into an index-sized integer"
  | outOfMemory => ""
  | precisionTooBig => "precision too big"
  | longPrecision => "Too many decimal digits in format string"
  | decimalLimits => "format specification exceeds internal limits of _decimal"

/-- Why a run of `n` copies of a character cannot be made, if it cannot: a count from
`indexLimit` on is no machine-word count, and a run from `memoryLimit` on exhausts the memory. -/
def ofRun? (n : Nat) : Option Fault :=
  if indexLimit ≤ n then some indexOverflow
  else if memoryLimit ≤ n then some outOfMemory
  else none

theorem ofRun?_of_lt {n : Nat} (h : n < memoryLimit) : ofRun? n = none := by
  have h' : n < indexLimit := Nat.lt_of_lt_of_le h (by decide)
  simp [ofRun?, Nat.not_le.2 h, Nat.not_le.2 h']

end Fault

end BraceFormat
