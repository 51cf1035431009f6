import BraceFormat.Template.Scanner
import BraceFormat.Value.Literal
/-!
# Formatting errors

Every way a formatting call fails, with the offset of the placeholder (or brace) it concerns when
there is one. The message of an error is its description followed by ` (at offset N)` when the
offset is known. A call may also fail on a value that cannot be converted, a `Fault` of the
value rather than an error of the template, or be given a template that is not text.

## Main definitions

* `CountFault`: why a width or precision is refused.
* `FormatError`: the errors.
* `FormatError.offset`, `FormatError.description`, `FormatError.message`.
* `CallError`: a formatting error, a conversion fault, or a template that is not text.
* `SyntaxError.toCallError`, `ReadError.toCallError`: reading errors as call errors.
-/

namespace BraceFormat

/-- Why a width or precision is refused. -/
inductive CountFault where
  /-- The argument's number is not a non-negative integer. -/
  | notCount
  /-- The count is above the configured maximum. -/
  | tooLarge (max : Nat)
  deriving Repr

/-- The reason a count fault gives in messages. -/
def CountFault.reason : CountFault → String
  | .notCount => "expected a non-negative integer"
  | .tooLarge m => "exceeds maximum of " ++ Numeral.decimal m

/-- Why a formatting call fails. -/
inductive FormatError where
  /-- An opening brace with no closing brace after it. -/
  | unterminated (offset : Nat)
  /-- A closing brace outside any placeholder. -/
  | unmatchedClose (offset : Nat)
  /-- A placeholder body that does not match the grammar, with the offset it was given, which a
  caller may give as any integer. -/
  | malformed (e : SyntaxError) (offset : Option Int)
  /-- A position past the arguments, or a name not among them. -/
  | missing (s : Selector) (offset : Nat)
  /-- An implicit selector after every positional argument was taken. -/
  | exhausted (consumed : Nat) (offset : Nat)
  /-- A value without the capability a conversion needs, or without a suitable number. -/
  | unsupported (c : Conversion) (k : Kind) (offset : Nat)
  /-- A width or precision refused; the source is the argument, or none for a literal count. -/
  | invalidCount (source : Option Selector) (value : Value) (fault : CountFault) (offset : Nat)
  /-- Arguments that no placeholder used, in strict mode. -/
  | unused (positions : List Nat) (names : List String)
  deriving Repr

namespace FormatError

/-- The template offset an error concerns, if any. -/
def offset : FormatError → Option Int
  | unterminated o => some o
  | unmatchedClose o => some o
  | malformed _ o => o
  | missing _ o => some o
  | exhausted _ o => some o
  | unsupported _ _ o => some o
  | invalidCount _ _ _ o => some o
  | unused _ _ => none

/-- The description of an error, without its offset. -/
def description : FormatError → String
  | unterminated _ => "Unterminated placeholder"
  | unmatchedClose _ => "Unmatched closing brace"
  | malformed e _ => e.message
  | missing s _ => "Missing argument " ++ s.describe
  | exhausted n _ =>
    "No positional argument left for implicit placeholder (" ++ Numeral.decimal n ++
      " already consumed)"
  | unsupported c k _ => "Conversion " ++ c.label ++ " is not supported by " ++ k.name ++ " value"
  | invalidCount src v f _ =>
    let source := match src with
      | some s => "argument " ++ s.describe
      | none => "literal count"
    "Invalid count " ++ v.literal ++ " from " ++ source ++ ": " ++ f.reason
  | unused ps ns =>
    let parts :=
      (if ps.isEmpty then [] else ["positions: " ++ ", ".intercalate (ps.map Numeral.decimal)]) ++
      (if ns.isEmpty then [] else ["names: " ++ ", ".intercalate ns])
    "Unused arguments (" ++ "; ".intercalate parts ++ ")"

/-- The message of an error: its description, then its offset when known. -/
def message (e : FormatError) : String :=
  match e.offset with
  | some o => e.description ++ " (at offset " ++ Numeral.signed o ++ ")"
  | none => e.description

end FormatError

/-- Why a call fails. -/
inductive CallError where
  /-- A formatting error. -/
  | format (e : FormatError)
  /-- A value that could not be converted on the way. -/
  | fault (f : Fault)
  /-- The template is not text; the name of its type. -/
  | notText (typeName : String)
  deriving Repr

namespace CallError

/-- The message of a call error. -/
def message : CallError → String
  | .format e => e.message
  | .fault f => f.message
  | .notText t => "Template must be str, got " ++ t

/-- A refused count. Its message shows the value's literal form, so a value holding an integer
beyond the digit limit cannot be shown and fails instead. -/
def refusedCount (source : Option Selector) (v : Value) (f : CountFault) (offset : Nat) :
    CallError :=
  if v.writable then .format (.invalidCount source v f offset) else .fault .integerTooLong

end CallError

/-- A placeholder body that does not read, as a call error: a number too long to read is a fault
of its own, with no offset; any other is a formatting error at `offset`. -/
def SyntaxError.toCallError (e : SyntaxError) (offset : Option Int) : CallError :=
  match e.fault with
  | .longNumber n => .fault (.numeralTooLong n)
  | _ => .format (.malformed e offset)

/-- A template reading error as a call error. -/
def ReadError.toCallError : ReadError → CallError
  | .unterminated o => .format (.unterminated o)
  | .unmatchedClose o => .format (.unmatchedClose o)
  | .malformed e o => e.toCallError (some o)

end BraceFormat
