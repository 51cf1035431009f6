import BraceFormat.Value.Pretty
/-!
# Bound values

Binding gives a value the capabilities it may be rendered with: a formattable object the ones it
declares, any other value the natural set of its kind. A value that is already bound keeps its
raw value and its set. Binding with a collection of capabilities narrows the set to the
capabilities in both, so binding never widens a set and narrowing twice is narrowing by the
intersection.

Numeric rendering and counts take a value's number: an integer's own, a binary64 or decimal
number itself, a fraction's nearest binary64 number, and for an object its own number when it
has one (only an integer, binary64 or decimal number counts, anything else means none), else its
index, else its binary64 value. A count is a number that is a non-negative integer. A fraction
too large for a binary64 number makes taking its number fail, and so does writing a text of a
value that holds an integer beyond the digit limit.

## Main definitions

* `Number`: the numbers of values.
* `Bound`: a raw value with its capabilities.
* `Value.bind`: binding, with an optional narrowing.
* `Value.number`, `Bound.count?`: numbers and counts.
* `Bound.displayText`, `Bound.debugText`: the texts rendered for a placeholder.
-/

namespace BraceFormat

/-- A number offered to numeric rendering. -/
inductive Number where
  | int (i : Int)
  | float (x : Binary64)
  | decimal (d : Decimal)
  deriving DecidableEq, Repr

/-- A value ready for rendering: the raw value and the capabilities it may be rendered with. -/
structure Bound where
  raw : Value
  caps : Caps
  deriving Repr

namespace Value

/-- The capabilities a raw value has when it is first bound. -/
def ownCaps : Value → Caps
  | object o _ => if o.formattable then o.caps else Kind.object.natural
  | v => v.classify.natural

/-- Binds a value, narrowing its capabilities to `narrow` when it is given. -/
def bind (v : Value) (narrow : Option Caps) : Bound :=
  let b : Bound := match v with
    | bound raw c => ⟨raw, c⟩
    | v => ⟨v, v.ownCaps⟩
  match narrow with
  | Option.none => b
  | some c => ⟨b.raw, b.caps.inter c⟩

/-- The bound value narrowed by `c`, as a value of its own. -/
def narrow (v : Value) (c : Caps) : Value :=
  let b := v.bind (some c)
  bound b.raw b.caps

/-- The number an object's own number stands for: integers, binary64 and decimal numbers only. -/
def asOwnNumber : Value → Option Number
  | int i => some (.int i)
  | float x => some (.float x)
  | decimal d => some (.decimal d)
  | _ => Option.none

/-- The number of a raw value, if it has one; a fraction too large for a binary64 number fails. -/
def number : Value → Except Fault (Option Number)
  | int i => .ok (some (.int i))
  | float x => .ok (some (.float x))
  | decimal d => .ok (some (.decimal d))
  | fraction q => (some ∘ Number.float) <$> q.toBinary64
  | object o n =>
    match n with
    | some v => .ok v.asOwnNumber
    | Option.none =>
      match o.index with
      | some i => .ok (some (.int i))
      | Option.none => .ok (o.real.map Number.float)
  | _ => .ok Option.none

end Value

namespace Bound

/-- The kind of a bound value: the kind of its raw value. -/
def kind (b : Bound) : Kind :=
  b.raw.classify

/-- The number of a bound value. -/
def number (b : Bound) : Except Fault (Option Number) :=
  b.raw.number

/-- The count a bound value gives: its number when that is a non-negative integer. -/
def count? (b : Bound) : Except Fault (Option Nat) := do
  match ← b.number with
  | some (.int i) => pure (if 0 ≤ i then some i.toNat else none)
  | _ => pure none

/-- What a formattable object that echoes its placeholder adds to its texts. -/
def echo (o : ObjectInfo) (spec : Spec) : Except Fault String :=
  if o.formattable && o.echoSpec then ("|" ++ ·) <$> spec.placeholder else .ok ""

/-- The display text of a bound value for a placeholder. -/
def displayText (b : Bound) (spec : Spec) : Except Fault String :=
  match b.raw with
  | .object o _ => (o.display ++ ·) <$> echo o spec
  | v => v.writeWith Value.displayText

/-- The debug text of a bound value for a placeholder: the pretty layout for a container under
the alternate flag, the literal form otherwise. -/
def debugText (b : Bound) (spec : Spec) : Except Fault String :=
  match b.raw with
  | .object o _ => (o.debug ++ ·) <$> echo o spec
  | v@(.list _) | v@(.tuple _) | v@(.dict _) =>
    v.writeWith (if spec.alternate then Value.prettyLayout else Value.literal)
  | v => v.writeWith Value.literal

end Bound

end BraceFormat
