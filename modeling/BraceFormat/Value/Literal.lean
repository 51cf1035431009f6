import BraceFormat.Value.Basic
import BraceFormat.Number.Shortest
import BraceFormat.Text.Quoted
import BraceFormat.Number.Integer
/-!
# Literal forms and standard texts of values

The literal form of a value is the text that writes it back: integers in decimal, binary64
numbers by their repr text, decimal numbers as `Decimal('…')`, fractions as `Fraction(n, d)`,
text and byte strings quoted, `True`, `False` and `None`, and containers with the literal forms
of their items between brackets: `[a, b]`, `(a, b)` with `(a,)` for one item, and
`{k: v}`. An object's literal form is its debug text.

The standard text of a value is the text itself for text, the standard text of a decimal number
or fraction, an object's display text, and the literal form for everything else.

Both texts write integers in decimal, so both are refused for a value holding an integer, or a
fraction's numerator or denominator, beyond the digit limit (`Integer.write`).

## Main definitions

* `Value.literal`: the literal form.
* `Value.displayText`: the standard text.
* `Value.writable`, `Value.writeWith`: the digit limit on the integers these texts write.
* `Value.capability`: the capability a value names.
-/

namespace BraceFormat

namespace Value

/-- The names of a set of capabilities, as a bound value's literal form lists them. -/
def capsLiteral (c : Caps) : String :=
  "\x7b" ++ ", ".intercalate (c.names.map fun n => Text.Quoted.text n) ++ "\x7d"

mutual

/-- The literal form of a value. -/
def literal : Value → String
  | int i => Numeral.signed i
  | float x => x.repr
  | decimal d => "Decimal(" ++ Text.Quoted.text d.text ++ ")"
  | fraction q => q.repr
  | text s => Text.Quoted.text s
  | bool b => if b then "True" else "False"
  | none => "None"
  | list xs => "[" ++ literalItems xs ++ "]"
  | tuple xs => if xs.length = 1 then "(" ++ literalItems xs ++ ",)" else "(" ++ literalItems xs ++ ")"
  | dict es => "\x7b" ++ literalEntries es ++ "\x7d"
  | bytes bs => Text.Quoted.bytes bs
  | object o _ => o.debug
  | bound raw c => "BoundValue(value=" ++ literal raw ++ ", capabilities=" ++ capsLiteral c ++ ")"

/-- The literal forms of items, separated by commas. -/
def literalItems : List Value → String
  | [] => ""
  | [x] => literal x
  | x :: rest => literal x ++ ", " ++ literalItems rest

/-- The literal forms of dictionary entries, separated by commas. -/
def literalEntries : List (Value × Value) → String
  | [] => ""
  | [(k, v)] => literal k ++ ": " ++ literal v
  | (k, v) :: rest => literal k ++ ": " ++ literal v ++ ", " ++ literalEntries rest

end

/-- The standard text of a value. -/
def displayText : Value → String
  | int i => Numeral.signed i
  | float x => x.repr
  | decimal d => d.text
  | fraction q => q.text
  | .text s => s
  | bool b => if b then "True" else "False"
  | none => "None"
  | object o _ => o.display
  | v => v.literal

mutual

/-- Whether every integer the literal form of a value writes is within the digit limit: the
integers, the numerators and denominators of fractions, and those inside containers and bound
values. -/
def writable : Value → Bool
  | int i => Integer.writable i
  | fraction q => Integer.writable q.num && Integer.writable q.den
  | list xs => itemsWritable xs
  | tuple xs => itemsWritable xs
  | dict es => entriesWritable es
  | bound raw _ => writable raw
  | _ => true

/-- Whether every item's literal form is within the digit limit. -/
def itemsWritable : List Value → Bool
  | [] => true
  | x :: rest => writable x && itemsWritable rest

/-- Whether every key's and value's literal form is within the digit limit. -/
def entriesWritable : List (Value × Value) → Bool
  | [] => true
  | (k, v) :: rest => writable k && writable v && entriesWritable rest

end

/-- A text of a value that writes the integers in it, refused when one of them is beyond the
digit limit. -/
def writeWith (f : Value → String) (v : Value) : Except Fault String :=
  if v.writable then .ok (f v) else .error .integerTooLong

/-- The capability a value names: only the text of a capability's name names one, and any other
value is refused with its literal form. -/
def capability (v : Value) : Except Fault Capability :=
  match v with
  | .text s =>
    match Capability.ofName? s with
    | some c => .ok c
    | Option.none => .error (.unknownCapability v.literal)
  | v => do
    let shown ← writeWith literal v
    .error (.unknownCapability shown)

end Value

end BraceFormat
