import BraceFormat.Spec.Basic
import BraceFormat.Fault
import BraceFormat.Text.Run
/-!
# Rendered values and padding

A rendered value is unpadded text in three parts: the sign, the base prefix and the body. It
also records whether it is a number, which makes right alignment the default, and whether it is
finite, since only finite numbers take zero padding.

Padding brings the text to the width when it is shorter, counting characters. The zero flag on
a finite number puts zeros between the prefix and the body, whatever the alignment. Otherwise
spaces go after the text for left alignment, before it for right alignment, and around it for
centring, the odd space after. A width far beyond the text may call for more fill than can be
made (`Fault.ofRun?`).

## Main definitions

* `Rendered`: an unpadded rendering.
* `Rendered.text`: its text.
* `Rendered.pad`: the padded text.
* `Rendered.padFault?`: when the padding is too large to be made.
-/

namespace BraceFormat

/-- An unpadded rendering of one value. -/
structure Rendered where
  /-- `-`, `+` or nothing. -/
  sign : String
  /-- `0b`, `0o`, `0x` or nothing. -/
  basePrefix : String
  /-- Digits or text. -/
  body : String
  /-- Whether the value was rendered as a number. -/
  numeric : Bool
  /-- Whether the value is finite; infinities and NaN are not. -/
  finite : Bool := true
  deriving DecidableEq, Repr

namespace Rendered

/-- The unpadded text. -/
def text (r : Rendered) : String :=
  r.sign ++ r.basePrefix ++ r.body

/-- `n` copies of a character. -/
def fill (c : Char) (n : Nat) : String :=
  Text.run c n

/-- The text padded to `width`, with the alignment given or the default of the value, zeros
going after the sign and prefix of a finite number when `zeroPad` is set. -/
def pad (r : Rendered) (width : Option Nat) (align : Option Align) (zeroPad : Bool) : String :=
  match width with
  | none => r.text
  | some w =>
    let n := r.text.length
    if w ≤ n then r.text
    else
      let gap := w - n
      if zeroPad && r.numeric && r.finite then r.sign ++ r.basePrefix ++ fill '0' gap ++ r.body
      else
        match align.getD (if r.numeric then .right else .left) with
        | .left => r.text ++ fill ' ' gap
        | .right => fill ' ' gap ++ r.text
        | .center => fill ' ' (gap / 2) ++ r.text ++ fill ' ' (gap - gap / 2)

/-- Why the padding cannot be made, if it cannot: each run of fill characters, in the order they
are written, must be a run that can be made (`Fault.ofRun?`). -/
def padFault? (r : Rendered) (width : Option Nat) (align : Option Align) (zeroPad : Bool) :
    Option Fault :=
  match width with
  | none => none
  | some w =>
    let n := r.text.length
    if w ≤ n then none
    else
      let gap := w - n
      if zeroPad && r.numeric && r.finite then Fault.ofRun? gap
      else
        match align.getD (if r.numeric then .right else .left) with
        | .center =>
          match Fault.ofRun? (gap / 2) with
          | some f => some f
          | none => Fault.ofRun? (gap - gap / 2)
        | _ => Fault.ofRun? gap

@[simp]
theorem pad_none (r : Rendered) (align : Option Align) (zeroPad : Bool) :
    r.pad none align zeroPad = r.text := rfl

end Rendered

end BraceFormat
