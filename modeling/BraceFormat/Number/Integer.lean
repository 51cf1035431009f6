import BraceFormat.Fault
import BraceFormat.Text.Digit
/-!
# Integers as decimal text

Writing an integer in decimal fails when it has more than `digitLimit` digits.

Reading an integer numeral first brings the text to ASCII (`Text.asciiNumeral`), so the digits
of every script count and blanks beyond ASCII become spaces. Then it takes, in order: ASCII
blanks, an optional sign, a run of digits in which an underscore may stand only between two
digits, and ASCII blanks to the end. The digit limit is checked as soon as the run is read, so
a numeral with too many digits is refused for its length even when text follows the run; the
count includes leading zeros and leaves out the sign and the underscores.

## Main definitions

* `Integer.writable`, `Integer.write`: writing within the limit.
* `Integer.joined`: whether the underscores of a run stand between digits.
* `Integer.read`: reading a numeral.
-/

namespace BraceFormat.Integer

/-- Whether an integer's decimal numeral has at most `digitLimit` digits. -/
def writable (i : Int) : Bool :=
  i.natAbs < Nat.pow 10 digitLimit

/-- The decimal numeral of an integer, refused beyond the digit limit. -/
def write (i : Int) : Except Fault String :=
  if writable i then .ok (Numeral.signed i) else .error .integerTooLong

theorem write_of_writable {i : Int} (h : writable i = true) : write i = .ok (Numeral.signed i) := by
  simp [write, h]

/-- The ASCII blanks: space, tab, line feed, vertical tab, form feed and carriage return. -/
def isAsciiBlank (c : Char) : Bool :=
  c == ' ' || c == '\t' || c == '\n' || c == '\x0b' || c == '\x0c' || c == '\r'

/-- The characters of a run of digits: ASCII digits and underscores. -/
def isRunChar (c : Char) : Bool :=
  c.isDigit || c == '_'

/-- Whether every underscore of a run stands between two digits: no underscore first, last, or
next to another. -/
def joined : List Char → Bool
  | [] => true
  | '_' :: _ => false
  | [_] => true
  | _ :: '_' :: [] => false
  | _ :: '_' :: t@(_ :: _) => joined t
  | _ :: t@(_ :: _) => joined t

/-- The value of a run of ASCII digits. -/
def digitsValue (ds : List Char) : Nat :=
  ds.foldl (fun acc d => acc * 10 + (d.toNat - 48)) 0

/-- Reads an integer numeral; the text itself is kept for the message of a refusal. -/
def read (s : String) : Except Fault Int :=
  let cs := (s.toList.map Text.asciiNumeral).dropWhile isAsciiBlank
  let (neg, cs) := match cs with
    | '-' :: r => (true, r)
    | '+' :: r => (false, r)
    | r => (false, r)
  let run := cs.takeWhile isRunChar
  let digits := run.filter Char.isDigit
  if !joined run then .error (.notInteger s)
  else if digitLimit < digits.length then .error (.numeralTooLong digits.length)
  else if digits.isEmpty || !((cs.dropWhile isRunChar).all isAsciiBlank) then
    .error (.notInteger s)
  else
    let n : Int := digitsValue digits
    .ok (if neg then -n else n)

end BraceFormat.Integer
