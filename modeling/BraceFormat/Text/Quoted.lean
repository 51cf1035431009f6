import BraceFormat.Text.Printable
import BraceFormat.Number.Numeral
/-!
# Quoted text

The literal form of a text value: the text between quote marks, with the characters that cannot
stand there written as escapes. The mark is a single quote, unless the text holds a single quote
and no double quote, in which case it is a double quote. Inside, a backslash and the chosen mark
take a backslash; tab, line feed and carriage return are written `\t`, `\n` and `\r`; the other
controls below the space and `U+007F` are written `\x` with two hexadecimal digits; other
characters stand as they are when they are printable, and otherwise take `\x`, `\u` or `\U`
with two, four or eight digits, the fewest that hold the code point.

Byte strings are written the same way behind a `b`, every byte from `0x7F` up as `\x`.

## Main definitions

* `Quoted.mark`: the quote mark a text is written with.
* `Quoted.text`: the literal form of a text.
* `Quoted.bytes`: the literal form of a byte string.
-/

namespace BraceFormat.Text.Quoted

/-- The lowercase hexadecimal numeral of `n`, padded with zeros to `width` digits. -/
def hex (width n : Nat) : List Char :=
  let ds := Numeral.chars 16 false n
  List.replicate (width - ds.length) '0' ++ ds

/-- The mark a text is quoted with: a double quote when the text holds a single quote and no
double quote, and a single quote otherwise. -/
def mark (s : List Char) : Char :=
  if s.contains '\'' && !s.contains '"' then '"' else '\''

/-- How one character is written between the marks `q`. -/
def escape (q c : Char) : List Char :=
  if c == q || c == '\\' then ['\\', c]
  else if c == '\t' then ['\\', 't']
  else if c == '\n' then ['\\', 'n']
  else if c == '\r' then ['\\', 'r']
  else if c.toNat < 0x20 || c.toNat == 0x7F then '\\' :: 'x' :: hex 2 c.toNat
  else if c.toNat < 0x7F || isPrintable c then [c]
  else if c.toNat ≤ 0xFF then '\\' :: 'x' :: hex 2 c.toNat
  else if c.toNat ≤ 0xFFFF then '\\' :: 'u' :: hex 4 c.toNat
  else '\\' :: 'U' :: hex 8 c.toNat

/-- The literal form of a text, marks included, as characters. -/
def textChars (s : List Char) : List Char :=
  let q := mark s
  q :: s.flatMap (escape q) ++ [q]

/-- The literal form of a text, marks included. -/
def text (s : String) : String :=
  String.ofList (textChars s.toList)

/-- How one byte is written between the marks `q`. -/
def escapeByte (q : Char) (b : UInt8) : List Char :=
  let c := Char.ofNat b.toNat
  if c == q || c == '\\' then ['\\', c]
  else if c == '\t' then ['\\', 't']
  else if c == '\n' then ['\\', 'n']
  else if c == '\r' then ['\\', 'r']
  else if b.toNat < 0x20 || 0x7F ≤ b.toNat then '\\' :: 'x' :: hex 2 b.toNat
  else [c]

/-- The literal form of a byte string: `b` and the bytes between marks. -/
def bytes (bs : List UInt8) : String :=
  let q := mark (bs.map fun b => Char.ofNat b.toNat)
  String.ofList ('b' :: q :: bs.flatMap (escapeByte q) ++ [q])

end BraceFormat.Text.Quoted
