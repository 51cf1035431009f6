import BraceFormat.Spec.Basic
import BraceFormat.Text.Letter
import BraceFormat.Text.Quoted
import BraceFormat.Fault
/-!
# Reading placeholders

The grammar of a placeholder body, the text between its braces:

    body       := [argument] [':' directives]
    argument   := digits | name
    directives := [align] ['+'] ['#'] ['0'] [width] ['.' precision] [conversion]
    width      := digits | argument '$'
    precision  := digits | '*' | argument '$'

Digits are ASCII; an index may have leading zeros. A name starts with an underscore or a letter
and goes on with underscores, letters and numbers (`Text.Letter`). Two places need care: `0$` is a
width taken from argument `0`, not the zero flag, and a bare name where a width could stand is
not a width at all but the conversion (the `x` of `{:x}`), so the reader backs out of it.

Each reader takes the characters left and returns what it read with the characters after it. A
failure carries the characters left where reading stopped, so its position in the body is the
body's length less theirs.

## Main definitions

* `SyntaxFault`, `SyntaxError`: why and where a body does not match the grammar.
* `Spec.readArgument`, `Spec.readDirectives`, `Spec.readBody`: the readers on characters.
* `Spec.parseBody`, `Spec.parseDirectives`: reading a placeholder body and a directive text.
-/

namespace BraceFormat

/-- Why a placeholder body does not match the grammar. -/
inductive SyntaxFault where
  /-- The argument is followed by neither `:` nor the end. -/
  | afterArgument
  /-- A character that no directive can start, or one after the conversion. -/
  | unexpected (c : Char)
  /-- A `.` with no precision after it. -/
  | missingPrecision
  /-- A precision given by a name without the `$` after it. -/
  | missingDollar
  /-- A run of digits too long to read as a number: more than `digitLimit` digits. -/
  | longNumber (digits : Nat)
  deriving DecidableEq, Repr, Inhabited

/-- The detail that the error message gives for a fault. -/
def SyntaxFault.detail : SyntaxFault → String
  | .afterArgument => "expected ':' or '\x7d' after argument"
  | .unexpected c => "unexpected " ++ Text.Quoted.text c.toString
  | .missingPrecision => "expected precision after '.'"
  | .missingDollar => "expected '$' after precision argument name"
  | .longNumber n => (Fault.numeralTooLong n).message

/-- A body that does not match the grammar, with the character position where reading stopped. -/
structure SyntaxError where
  fault : SyntaxFault
  body : String
  position : Nat
  deriving DecidableEq, Repr, Inhabited

/-- The message of a syntax error, without the template offset. -/
def SyntaxError.message (e : SyntaxError) : String :=
  "Invalid format syntax in \x7b" ++ e.body ++ "\x7d at position " ++
    Numeral.decimal e.position ++ ": " ++ e.fault.detail

namespace Spec

/-- The value of a run of decimal digits. -/
def digitsValue (ds : List Char) : Nat :=
  ds.foldl (fun acc d => acc * 10 + (d.toNat - 48)) 0

/-- What reading an argument gives: what was read and the characters after it, nothing when no
argument starts here, or a fault for a position with too many digits. -/
abbrev ArgumentRead := Except (SyntaxFault × List Char) (Option (Selector × List Char))

/-- Reads an argument: a run of digits is a position, a name start begins a name. -/
def readArgument : List Char → ArgumentRead
  | [] => .ok none
  | c :: rest =>
    if c.isDigit then
      let ds := c :: rest.takeWhile Char.isDigit
      if digitLimit < ds.length then .error (.longNumber ds.length, c :: rest)
      else .ok (some (.index (digitsValue ds), rest.dropWhile Char.isDigit))
    else if Text.isNameStart c then
      .ok (some (.name (String.ofList (c :: rest.takeWhile Text.isNameChar)),
        rest.dropWhile Text.isNameChar))
    else .ok none

/-- Reads an alignment token if one comes next. -/
def readAlign : List Char → Option Align × List Char
  | '<' :: rest => (some .left, rest)
  | '^' :: rest => (some .center, rest)
  | '>' :: rest => (some .right, rest)
  | cs => (none, cs)

/-- Reads the flag character `t` if it comes next. -/
def readFlag (t : Char) : List Char → Bool × List Char
  | [] => (false, [])
  | c :: rest => if c = t then (true, rest) else (false, c :: rest)

/-- Reads the zero flag; a `0` followed by `$` is left for the width. -/
def readZero : List Char → Bool × List Char
  | '0' :: '$' :: rest => (false, '0' :: '$' :: rest)
  | '0' :: rest => (true, rest)
  | cs => (false, cs)

/-- Reads a width if one comes next; a name without `$` is left alone. -/
def readWidth (cs : List Char) : Except (SyntaxFault × List Char) (Option Count × List Char) := do
  match ← readArgument cs with
  | some (a, '$' :: rest) => pure (some (.given a), rest)
  | some (.index i, rest) => pure (some (.literal i), rest)
  | _ => pure (none, cs)

/-- Reads the precision after a `.`. -/
def readPrecision : List Char → Except (SyntaxFault × List Char) (Count × List Char)
  | '*' :: rest => .ok (.given .next, rest)
  | cs => do
    match ← readArgument cs with
    | none => throw (.missingPrecision, cs)
    | some (a, '$' :: rest) => pure (.given a, rest)
    | some (.index i, rest) => pure (.literal i, rest)
    | some (_, rest) => throw (.missingDollar, rest)

/-- Reads a conversion token if one comes next; display otherwise. -/
def readConversion : List Char → Conversion × List Char
  | [] => (.display, [])
  | c :: rest =>
    match Conversion.ofToken? c with
    | some k => (k, rest)
    | none => (.display, c :: rest)

/-- Reads the directives after the `:` of a placeholder whose argument is `value`; they must take
all of the characters. -/
def readDirectives (value : Selector) (cs : List Char) :
    Except (SyntaxFault × List Char) Spec := do
  let (align, cs) := readAlign cs
  let (plus, cs) := readFlag '+' cs
  let (alternate, cs) := readFlag '#' cs
  let (zeroPad, cs) := readZero cs
  let (width, cs) ← readWidth cs
  let (precision, cs) ← match cs with
    | '.' :: rest => do
      let (p, rest) ← readPrecision rest
      pure (some p, rest)
    | _ => pure (none, cs)
  let (conversion, cs) := readConversion cs
  match cs with
  | [] => pure { value, align, plus, alternate, zeroPad, width, precision, conversion }
  | c :: rest => throw (.unexpected c, c :: rest)

/-- Reads a whole placeholder body: an optional argument, then the end or `:` and directives. -/
def readBody (cs : List Char) : Except (SyntaxFault × List Char) Spec := do
  let (value, rest) := (← readArgument cs).getD (.next, cs)
  match rest with
  | [] => pure { value }
  | ':' :: rest => readDirectives value rest
  | rest => throw (.afterArgument, rest)

/-- Places a reader's failure in the text it read. -/
def locate (text : String) : Except (SyntaxFault × List Char) Spec → Except SyntaxError Spec
  | .ok s => .ok s
  | .error (f, rest) => .error { fault := f, body := text, position := text.length - rest.length }

/-- Reads the text between a placeholder's braces. -/
def parseBody (body : String) : Except SyntaxError Spec :=
  locate body (readBody body.toList)

/-- Reads a directive text on its own, as after the `:` of a placeholder with an implicit
argument. -/
def parseDirectives (text : String) : Except SyntaxError Spec :=
  locate text (readDirectives .next text.toList)

end Spec

end BraceFormat
