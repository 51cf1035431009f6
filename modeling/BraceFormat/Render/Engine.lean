import BraceFormat.Render.Arguments
import BraceFormat.Render.Conversion
import BraceFormat.Config
/-!
# Formatting a template

A call runs in two phases. Binding walks the placeholders in template order and, for each,
resolves the width, then the precision, then the value, and checks that the value has the
capability the conversion needs; the first failure ends the call. In strict mode the unused
arguments are then reported. Rendering follows only when binding succeeded, and may still refuse
a value whose number does not suit its conversion. A traced call takes its template's text
first, before binding.

## Main definitions

* `Piece`: a literal run or a bound placeholder.
* `Template.bindPieces`: the binding phase.
* `Piece.render`, `Template.format`: the rendering phase and the whole call.
* `Template.formatCall`: a call on a parsed template, traced or not.
* `formatValue`, `readValue`: a call on a template given as a value, which must be text.
-/

namespace BraceFormat

/-- A piece of a bound template. -/
inductive Piece where
  /-- Literal text. -/
  | literal (s : String)
  /-- A placeholder with its value, width and precision resolved. -/
  | slot (spec : Spec) (value : Bound) (width precision : Option Nat) (offset : Nat)
  deriving Repr

/-- Binds the segments of a template in order. -/
def bindSegments (cfg : Config) (args : Arguments) :
    List Segment → Usage → Except CallError (List Piece × Usage)
  | [], u => .ok ([], u)
  | .literal s :: rest, u => do
    let (ps, u) ← bindSegments cfg args rest u
    pure (.literal s :: ps, u)
  | .placeholder spec o :: rest, u => do
    let (w, u) ← args.resolveCount cfg.maxCount u spec.width o
    let (p, u) ← args.resolveCount cfg.maxCount u spec.precision o
    let (b, u) ← args.resolve u spec.value o
    if b.caps.has spec.conversion.capability then
      let (ps, u) ← bindSegments cfg args rest u
      pure (.slot spec b w p o :: ps, u)
    else .error (.format (.unsupported spec.conversion b.kind o))

/-- The binding phase: every placeholder bound, then the strict check. -/
def Template.bindPieces (t : Template) (cfg : Config) (args : Arguments) :
    Except CallError (List Piece) := do
  let (ps, u) ← bindSegments cfg args t.segments {}
  if cfg.requireAll then
    let positions := args.unusedPositions u
    let names := args.unusedNames u
    if !positions.isEmpty || !names.isEmpty then throw (.format (.unused positions names))
  pure ps

/-- The text of one piece. -/
def Piece.render : Piece → Except CallError String
  | .literal s => .ok s
  | .slot spec b w p o => do
    let r ← b.render spec p o
    match r.padFault? w spec.align spec.zeroPad with
    | some f => throw (.fault f)
    | none => pure (r.pad w spec.align spec.zeroPad)

/-- The rendering phase: the pieces' texts in order. -/
def renderPieces : List Piece → Except CallError String
  | [] => .ok ""
  | p :: rest => do
    let s ← p.render
    let t ← renderPieces rest
    pure (s ++ t)

/-- Formats a parsed template. -/
def Template.format (t : Template) (cfg : Config) (positional : List Value)
    (named : List (String × Value)) : Except CallError String := do
  let ps ← t.bindPieces cfg (Arguments.ofValues positional named)
  renderPieces ps

/-- Formats a parsed template given to a call. A traced call records the template's canonical
text first, so a template holding a number past the digit limit fails there, before binding. -/
def Template.formatCall (t : Template) (cfg : Config) (positional : List Value)
    (named : List (String × Value)) : Except CallError String :=
  match cfg.traceCalls, t.text with
  | true, .error f => .error (.fault f)
  | _, _ => t.format cfg positional named

/-- Formats a template text. -/
def formatText (s : String) (cfg : Config) (positional : List Value)
    (named : List (String × Value)) : Except CallError String := do
  let t ← (Template.read s).mapError ReadError.toCallError
  t.format cfg positional named

/-- Formats a template given as a value: only text is a template. A traced call records the
template's standard text before it reads the template, so a value that is not text but holds an
integer beyond the digit limit fails there, before it is found not to be text. -/
def formatValue (template : Value) (cfg : Config) (positional : List Value)
    (named : List (String × Value)) : Except CallError String :=
  match template with
  | .text s => formatText s cfg positional named
  | v =>
    if cfg.traceCalls && !v.writable then .error (.fault .integerTooLong)
    else .error (.notText v.typeName)

/-- Reads a template given as a value: only text is a template. -/
def readValue (template : Value) : Except CallError Template :=
  match template with
  | .text s => (Template.read s).mapError ReadError.toCallError
  | v => .error (.notText v.typeName)

end BraceFormat
