import BraceFormat.Number.Integer
/-!
# Placeholder specifications

A placeholder `{arg:directives}` names the argument it formats and says how: alignment, a forced
plus sign, the alternate form, zero padding, a width, a precision and a conversion. Widths and
precisions are counts, written in the template or taken from another argument.

Every specification has one canonical text: the directives in their fixed order, each written
only when it differs from its default, and the placeholder `{arg}` or `{arg:directives}` around
them. Positions and literal counts print in decimal without leading zeros, and like every
decimal writing of an integer they are refused past `digitLimit` digits, so the canonical text
of a specification holding such a number is not made.

## Main definitions

* `Selector`: the next positional argument, a position, or a name.
* `Count`: a literal count, or one taken from an argument (`n$`, `name$`, or `*` for the next).
* `Align`, `Conversion`: the directive tokens.
* `Spec`: a parsed placeholder.
* `Spec.directives`, `Spec.placeholder`: the canonical texts.
-/

namespace BraceFormat

/-- Which argument a placeholder or a count takes. -/
inductive Selector where
  /-- The next positional argument not yet taken by another implicit selector. -/
  | next
  /-- The positional argument at an index. -/
  | index (i : Nat)
  /-- The named argument of a name. -/
  | name (n : String)
  deriving DecidableEq, Repr, Inhabited

namespace Selector

/-- The selector as written in a template: nothing, the index, or the name. -/
def text : Selector → Except Fault String
  | next => .ok ""
  | index i => Integer.write i
  | name n => .ok n

/-- The selector as error messages describe it: `<next>`, `#i` or `'name'`. -/
def describe : Selector → String
  | next => "<next>"
  | index i => "#" ++ Numeral.decimal i
  | name n => "'" ++ n ++ "'"

end Selector

/-- A width or a precision. -/
inductive Count where
  /-- A count written in the template. -/
  | literal (n : Nat)
  /-- A count taken from an argument. -/
  | given (s : Selector)
  deriving DecidableEq, Repr, Inhabited

/-- The count as written in a template: `n`, `*` for the next argument, or `arg$`. -/
def Count.text : Count → Except Fault String
  | .literal n => Integer.write n
  | .given .next => .ok "*"
  | .given s => (· ++ "$") <$> s.text

/-- The text of an optional count after its lead (`.` for a precision); nothing when it is
absent. -/
def Count.optionText (lead : String) : Option Count → Except Fault String
  | some c => (lead ++ ·) <$> c.text
  | none => .ok ""

/-- Where padding puts the value. -/
inductive Align where
  | left
  | center
  | right
  deriving DecidableEq, Repr, Inhabited

/-- The alignment token. -/
def Align.token : Align → Char
  | .left => '<'
  | .center => '^'
  | .right => '>'

/-- How a value is written. -/
inductive Conversion where
  | display
  | debug
  | binary
  | octal
  | lowerHex
  | upperHex
  | lowerExp
  | upperExp
  deriving DecidableEq, Repr, Inhabited

namespace Conversion

/-- The conversion token; display has none. -/
def token : Conversion → String
  | display => ""
  | debug => "?"
  | binary => "b"
  | octal => "o"
  | lowerHex => "x"
  | upperHex => "X"
  | lowerExp => "e"
  | upperExp => "E"

/-- The conversion's name in error messages. -/
def label : Conversion → String
  | display => "display"
  | debug => "debug"
  | binary => "binary"
  | octal => "octal"
  | lowerHex => "lower_hex"
  | upperHex => "upper_hex"
  | lowerExp => "lower_exp"
  | upperExp => "upper_exp"

/-- The conversion a token character stands for. -/
def ofToken? : Char → Option Conversion
  | '?' => some debug
  | 'b' => some binary
  | 'o' => some octal
  | 'x' => some lowerHex
  | 'X' => some upperHex
  | 'e' => some lowerExp
  | 'E' => some upperExp
  | _ => none

end Conversion

/-- A parsed placeholder: the argument and the directives. -/
structure Spec where
  value : Selector := .next
  align : Option Align := none
  plus : Bool := false
  alternate : Bool := false
  zeroPad : Bool := false
  width : Option Count := none
  precision : Option Count := none
  conversion : Conversion := .display
  deriving DecidableEq, Repr, Inhabited

namespace Spec

/-- The canonical directive text: the directives in order, each only when it is set. -/
def directives (s : Spec) : Except Fault String := do
  let width ← Count.optionText "" s.width
  let precision ← Count.optionText "." s.precision
  pure ((match s.align with | some a => a.token.toString | none => "") ++
    (if s.plus then "+" else "") ++
    (if s.alternate then "#" else "") ++
    (if s.zeroPad then "0" else "") ++
    width ++ precision ++ s.conversion.token)

/-- The canonical placeholder, braces included: `{arg}` when there are no directives. -/
def placeholder (s : Spec) : Except Fault String := do
  let d ← s.directives
  let v ← s.value.text
  pure (if d.isEmpty then "\x7b" ++ v ++ "\x7d" else "\x7b" ++ v ++ ":" ++ d ++ "\x7d")

/-- The selectors of the indirect counts, width before precision. -/
def countSelectors (s : Spec) : List Selector :=
  (match s.width with | some (.given a) => [a] | _ => []) ++
  (match s.precision with | some (.given a) => [a] | _ => [])

end Spec

end BraceFormat
