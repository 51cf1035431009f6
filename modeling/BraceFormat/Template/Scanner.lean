import BraceFormat.Template.Basic
import BraceFormat.Spec.Parser
/-!
# Reading templates

A template text is read left to right. A doubled brace is a literal brace. A closing brace on its
own is an error at its offset. An opening brace starts a placeholder whose body runs to the first
closing brace after it (an opening brace inside the body is an ordinary character of the body);
with no closing brace left, the opening brace is unterminated. The body is read by
`Spec.parseBody`, and its failure is reported with the offset of the opening brace. Literal text
between placeholders is gathered into one segment, and empty runs make no segment.

Offsets count characters from the start of the text. The first fault met in reading order is the
one reported.

## Main definitions

* `ReadError`: the three ways a template text fails to read.
* `Template.splitAtClose`: a placeholder body and what follows its closing brace.
* `Template.scan`: the reading loop on characters.
* `Template.read`: reading a template text.

## Main results

* `Template.splitAtClose_length`: what follows a closing brace is shorter than the text.
-/

namespace BraceFormat

/-- Why a template text does not read. -/
inductive ReadError where
  /-- An opening brace at this offset with no closing brace after it. -/
  | unterminated (offset : Nat)
  /-- A closing brace at this offset outside any placeholder and not doubled. -/
  | unmatchedClose (offset : Nat)
  /-- A placeholder at this offset whose body does not match the grammar. -/
  | malformed (e : SyntaxError) (offset : Nat)
  deriving DecidableEq, Repr, Inhabited

namespace Template

/-- The characters before the first closing brace and those after it, if there is one. -/
def splitAtClose : List Char → Option (List Char × List Char)
  | [] => none
  | c :: rest =>
    if c = '\x7d' then some ([], rest)
    else (splitAtClose rest).map fun p => (c :: p.1, p.2)

theorem splitAtClose_length :
    ∀ {cs body after : List Char}, splitAtClose cs = some (body, after) →
      after.length < cs.length
  | [], _, _, h => by simp [splitAtClose] at h
  | c :: rest, body, after, h => by
    unfold splitAtClose at h
    split at h
    · simp only [Option.some.injEq, Prod.mk.injEq] at h
      simp [h.2]
    · obtain ⟨⟨b, a⟩, hp, he⟩ := Option.map_eq_some_iff.1 h
      simp only [Prod.mk.injEq] at he
      obtain ⟨-, rfl⟩ := he
      have := splitAtClose_length hp
      simp only [List.length_cons]
      omega

/-- A literal run, kept reversed, added to the reversed segments unless it is empty. -/
def flush (lit : List Char) (segs : List Segment) : List Segment :=
  if lit.isEmpty then segs else .literal (String.ofList lit.reverse) :: segs

/-- Reads the characters left, which start at offset `pos`, with `lit` the reversed literal run
so far and `segs` the reversed segments so far. -/
def scan (pos : Nat) (lit : List Char) (segs : List Segment) :
    List Char → Except ReadError (List Segment)
  | [] => .ok (flush lit segs).reverse
  | '\x7b' :: '\x7b' :: rest => scan (pos + 2) ('\x7b' :: lit) segs rest
  | '\x7d' :: '\x7d' :: rest => scan (pos + 2) ('\x7d' :: lit) segs rest
  | '\x7d' :: _ => .error (.unmatchedClose pos)
  | '\x7b' :: rest =>
    match h : splitAtClose rest with
    | none => .error (.unterminated pos)
    | some (body, after) =>
      have := splitAtClose_length h
      match Spec.parseBody (String.ofList body) with
      | .error e => .error (.malformed e pos)
      | .ok s => scan (pos + body.length + 2) [] (.placeholder s pos :: flush lit segs) after
  | c :: rest => scan (pos + 1) (c :: lit) segs rest
termination_by cs => cs.length

/-- Reads a template text. -/
def read (s : String) : Except ReadError Template :=
  (scan 0 [] [] s.toList).map Template.mk

end Template

end BraceFormat
