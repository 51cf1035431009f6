import BraceFormat.Spec.Basic
/-!
# Templates

A template is a sequence of segments: runs of literal text, already decoded, and placeholders,
each with the character offset of its opening brace in the text it was read from. Its canonical
text writes every brace of a literal run twice and every placeholder in canonical form; it is not
made when a placeholder holds a number past the digit limit.

## Main definitions

* `Segment`, `Template`: the parsed form.
* `escapeBraces`: literal text with its braces doubled.
* `Template.text`: the canonical text.
* `Template.argumentNames`: the names a template refers to, as values or as counts, sorted and
  without repetition.
-/

namespace BraceFormat

/-- A piece of a template. -/
inductive Segment where
  /-- Literal text, escapes decoded. -/
  | literal (text : String)
  /-- A placeholder and the offset of its opening brace. -/
  | placeholder (spec : Spec) (offset : Nat)
  deriving DecidableEq, Repr, Inhabited

/-- A parsed template. -/
structure Template where
  segments : List Segment
  deriving DecidableEq, Repr, Inhabited

/-- Literal characters with each brace written twice. -/
def escapeBraces (s : List Char) : List Char :=
  s.flatMap fun c => if c = '\x7b' || c = '\x7d' then [c, c] else [c]

/-- The canonical text of a segment. -/
def Segment.text : Segment → Except Fault String
  | .literal t => .ok (String.ofList (escapeBraces t.toList))
  | .placeholder s _ => s.placeholder

/-- Inserts a name into a sorted list without repetition. -/
def insertName (n : String) : List String → List String
  | [] => [n]
  | m :: rest => if n < m then n :: m :: rest else if n = m then m :: rest else m :: insertName n rest

namespace Template

/-- The canonical text of a template. -/
def text (t : Template) : Except Fault String := do
  let parts ← t.segments.mapM Segment.text
  pure (String.join parts)

/-- The specifications of the placeholders with their offsets, in template order. -/
def placeholders (t : Template) : List (Spec × Nat) :=
  t.segments.filterMap fun
    | .placeholder s o => some (s, o)
    | .literal _ => none

/-- The names of the selectors of one placeholder: counts first, then the value. -/
def specNames (s : Spec) : List String :=
  (s.countSelectors ++ [s.value]).filterMap fun
    | .name n => some n
    | _ => none

/-- The names a template refers to, sorted by code point, each once. -/
def argumentNames (t : Template) : List String :=
  (t.placeholders.flatMap fun p => specNames p.1).foldl (fun acc n => insertName n acc) []

end Template

end BraceFormat
