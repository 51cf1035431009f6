import BraceFormat.Text.Blank
/-!
# Decimal digits of every script

Numerals may be written with the decimal digits of any script: the characters of the Unicode
general category `Nd`. They come in runs of ten consecutive code points, from the digit zero to
the digit nine, so a table of the zeros gives every digit with its value. The table follows
Unicode 14.0.

Reading a number first brings its text to ASCII: a digit of another script becomes the ASCII
digit of the same value, a blank beyond ASCII becomes a space, and any other character beyond
ASCII becomes `?`, which no numeral accepts; ASCII characters are kept as they are.

## Main definitions

* `digitZeros`: the code points of the zeros.
* `digitValue?`, `isDecimalDigit`: the value of a digit, and the test.
* `asciiNumeral`: one character of a numeral brought to ASCII.
-/

namespace BraceFormat.Text

/-- Code points of the digit zero of each run of ten decimal digits. -/
def digitZeros : List Nat := [
  0x30, 0x660, 0x6F0, 0x7C0, 0x966, 0x9E6, 0xA66, 0xAE6, 0xB66, 0xBE6,
  0xC66, 0xCE6, 0xD66, 0xDE6, 0xE50, 0xED0, 0xF20, 0x1040, 0x1090, 0x17E0,
  0x1810, 0x1946, 0x19D0, 0x1A80, 0x1A90, 0x1B50, 0x1BB0, 0x1C40, 0x1C50, 0xA620,
  0xA8D0, 0xA900, 0xA9D0, 0xA9F0, 0xAA50, 0xABF0, 0xFF10, 0x104A0, 0x10D30, 0x11066,
  0x110F0, 0x11136, 0x111D0, 0x112F0, 0x11450, 0x114D0, 0x11650, 0x116C0, 0x11730, 0x118E0,
  0x11950, 0x11C50, 0x11D50, 0x11DA0, 0x16A60, 0x16AC0, 0x16B50, 0x1D7CE, 0x1D7D8, 0x1D7E2,
  0x1D7EC, 0x1D7F6, 0x1E140, 0x1E2F0, 0x1E950, 0x1FBF0]

/-- The value of a decimal digit of any script, found from the zero of its run. -/
def digitValue? (c : Char) : Option Nat :=
  (digitZeros.find? fun z => z ≤ c.toNat && c.toNat < z + 10).map (c.toNat - ·)

/-- Whether a character is a decimal digit of some script. -/
def isDecimalDigit (c : Char) : Bool :=
  (digitValue? c).isSome

/-- A character of a numeral brought to ASCII: kept when it is ASCII, a space for a blank, the
ASCII digit of the same value for a digit, and `?` for anything else. -/
def asciiNumeral (c : Char) : Char :=
  if c.toNat < 128 then c
  else if isBlank c then ' '
  else match digitValue? c with
    | some d => Char.ofNat (48 + d)
    | none => '?'

theorem asciiNumeral_of_lt {c : Char} (h : c.toNat < 128) : asciiNumeral c = c := by
  simp [asciiNumeral, h]

end BraceFormat.Text
