import BraceFormat.Render.Padding
import BraceFormat.Value.Bound
import BraceFormat.Error
/-!
# Rendering a value under a conversion

Text, booleans and objects under display or debug are written as their display or debug text,
cut to the precision when one is given. Everything else is rendered from the value's number.

An integer is written in binary, octal or hexadecimal by its magnitude, with the prefix `0b`,
`0o` or `0x` under the alternate flag (the prefix stays lower case for upper-case hexadecimal),
in scientific layout for the exponent conversions, and in decimal otherwise, the precision
ignored. A binary64 or decimal number is written without exponent and with its own digits when
there is no precision (the shortest digits of a binary64 number), with exactly the precision's
fraction digits, rounded half to even on the exact value, when there is one, and in scientific
layout for the exponent conversions. Infinities and NaN are `inf` and `nan`; a NaN has no sign.
A negative number, negative zeros included, takes `-`; the plus flag gives `+` to the others.

A value without the capability its conversion needs, or without a number that suits it, is
refused. Taking the number or the text may itself fail (`Fault`), which ends the call, and so
does a layout too large to be made (a precision or an exponent beyond the layout's bounds).

## Main definitions

* `Rendered.ofInt`, `Rendered.ofDecimal`, `Rendered.ofBinary64`: numeric renderings.
* `Bound.render`: rendering a bound value for a placeholder.
-/

namespace BraceFormat

namespace Rendered

/-- The sign of a number: `-` when negative, `+` under the plus flag, nothing otherwise. -/
def signOf (neg : Bool) (spec : Spec) : String :=
  if neg then "-" else if spec.plus then "+" else ""

/-- The exponent marker of a conversion, for the exponent conversions. -/
def marker? : Conversion → Option String
  | .lowerExp => some "e"
  | .upperExp => some "E"
  | _ => none

/-- Whether a conversion writes digits in a base. -/
def isBase : Conversion → Bool
  | .binary | .octal | .lowerHex | .upperHex => true
  | _ => false

/-- A layout, or the fault that prevents it; the layout is only made when nothing does. -/
def checked (fault? : Option Fault) (body : Unit → String) : Except Fault String :=
  match fault? with
  | some f => .error f
  | none => .ok (body ())

/-- The scientific layout of `coef · 10 ^ exp`, refused when it is too large. -/
def scientific (coef : Nat) (exp : Int) (precision : Option Nat) (marker : String) :
    Except Fault String :=
  checked (Decimal.scientificFault? coef precision) fun _ =>
    Decimal.scientific coef exp precision marker

/-- The rendering of an integer; in decimal it is refused beyond the digit limit. -/
def ofInt (n : Int) (spec : Spec) (precision : Option Nat) : Except Fault Rendered :=
  let sign := signOf (n < 0) spec
  let mag := n.natAbs
  let based (b : Nat) (upper : Bool) (pre : String) : Except Fault Rendered :=
    .ok ⟨sign, if spec.alternate then pre else "", Numeral.write b upper mag, true, true⟩
  match spec.conversion with
  | .binary => based 2 false "0b"
  | .octal => based 8 false "0o"
  | .lowerHex => based 16 false "0x"
  | .upperHex => based 16 true "0x"
  | .lowerExp => (⟨sign, "", ·, true, true⟩) <$> scientific mag 0 precision "e"
  | .upperExp => (⟨sign, "", ·, true, true⟩) <$> scientific mag 0 precision "E"
  | _ => (fun body => ⟨sign, "", body, true, true⟩) <$> Integer.write mag

/-- The rendering of a number that is not finite. -/
def ofSpecial (neg : Bool) (isNaN : Bool) (spec : Spec) : Rendered :=
  if isNaN then ⟨"", "", "nan", true, false⟩ else ⟨signOf neg spec, "", "inf", true, false⟩

/-- The rendering of a decimal number. -/
def ofDecimal (d : Decimal) (spec : Spec) (precision : Option Nat) : Except Fault Rendered :=
  match d with
  | .finite neg c x =>
    let body := match marker? spec.conversion, precision with
      | some m, p => scientific c x p m
      | none, none => checked (Decimal.plainFault? c x) fun _ => Decimal.plain c x
      | none, some p => checked (Decimal.fixedFault? c x p) fun _ => Decimal.fixed c x p
    (⟨signOf neg spec, "", ·, true, true⟩) <$> body
  | .infinite neg => .ok (ofSpecial neg false spec)
  | .nan _ _ _ => .ok (ofSpecial false true spec)

/-- The rendering of a binary64 number: without a precision from its shortest digits, with one
from its exact value. -/
def ofBinary64 (x : Binary64) (spec : Spec) (precision : Option Nat) : Except Fault Rendered :=
  match x with
  | .finite neg f fr =>
    let body := match precision with
      | none =>
        let (c, k) := Binary64.reprDecimal f fr
        match marker? spec.conversion with
        | some m => .ok (Decimal.scientific c k none m)
        | none => .ok (Decimal.plain c k)
      | some p =>
        match (Binary64.finite false f fr).toDecimal with
        | .finite _ c k =>
          match marker? spec.conversion with
          | some m => scientific c k (some p) m
          | none => checked (Binary64.fixedFault? c k p) fun _ => Decimal.fixed c k p
        | _ => .ok ""
    (⟨signOf neg spec, "", ·, true, true⟩) <$> body
  | .infinite neg => .ok (ofSpecial neg false spec)
  | .nan => .ok (ofSpecial false true spec)

/-- The rendering of text: cut to `precision` characters when it is given. -/
def ofText (t : String) (precision : Option Nat) : Rendered :=
  let t := match precision with
    | some p => String.ofList (t.toList.take p)
    | none => t
  ⟨"", "", t, false, true⟩

end Rendered

namespace Bound

/-- Renders a bound value for a placeholder whose template offset is `offset`. -/
def render (b : Bound) (spec : Spec) (precision : Option Nat) (offset : Nat) :
    Except CallError Rendered :=
  let conv := spec.conversion
  let refuse : Except CallError Rendered := .error (.format (.unsupported conv b.kind offset))
  if b.caps.has conv.capability then
    if conv = .display && !b.kind.isNumeric then
      (Rendered.ofText · precision) <$> (b.displayText spec).mapError .fault
    else if conv = .debug && !b.kind.isNumeric then
      (Rendered.ofText · precision) <$> (b.debugText spec).mapError .fault
    else do
      match ← b.number.mapError CallError.fault with
      | some (.int n) => (Rendered.ofInt n spec precision).mapError .fault
      | some (.float x) =>
        if Rendered.isBase conv then refuse
        else (Rendered.ofBinary64 x spec precision).mapError .fault
      | some (.decimal d) =>
        if Rendered.isBase conv then refuse
        else (Rendered.ofDecimal d spec precision).mapError .fault
      | none => refuse
  else refuse

end Bound

end BraceFormat
