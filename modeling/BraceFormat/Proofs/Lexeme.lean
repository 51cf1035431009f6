import BraceFormat.Proofs.Tokens
import BraceFormat.Template.Scanner
/-!
# The lexemes of a template text

A template text is a sequence of *lexemes*: an ordinary character (anything but a brace), the
escape `{{` for an opening brace, the escape `}}` for a closing brace, and a field `{body}` whose
body holds no closing brace and reads as a placeholder specification. Each lexeme stands for one
token: its character, the brace an escape writes, or the placeholder of a field at the offset of
its opening brace.

The split into lexemes is the grammar the reader implements, and it is unambiguous: a text has
at most one spelling by valid lexemes. The only place where two readings could compete is an
opening brace followed by another, which could start the escape `{{` or a field whose body
starts with `{`; no body starting with `{` reads, so the escape is the only lexeme there. A
field ends at the first closing brace after it, so fields cannot compete with each other.

## Main definitions

* `Lexeme`: the four kinds of lexeme, a field carrying the specification its body reads as.
* `Lexeme.chars`, `Lexeme.Valid`: the text of a lexeme and when it is well formed.
* `Lexeme.token`, `Lexeme.tokens`: the tokens of lexemes placed at an offset.
* `Lexeme.Spells`: a list of valid lexemes whose characters are a given text.

## Main results

* `Spec.parseBody_open_ne_ok`: no placeholder body starting with `{` reads.
* `Template.splitAtClose_append`: a field's body ends at its first closing brace.
* `Lexeme.Spells.unique`: a text has at most one spelling.
-/

namespace BraceFormat

/-- No placeholder body that starts with an opening brace reads: an opening brace can start
neither an argument nor the directives. -/
theorem Spec.parseBody_open_ne_ok (cs : List Char) (s : Spec) :
    Spec.parseBody (String.ofList ('\x7b' :: cs)) ≠ .ok s := by
  have hstart : Text.isNameStart '\x7b' = false := by decide
  simp [Spec.parseBody, Spec.locate, Spec.readBody, Spec.readArgument, hstart, bind,
    Except.bind]

/-- Text without a closing brace, then a closing brace, splits there. -/
theorem Template.splitAtClose_append {body : List Char} (h : '\x7d' ∉ body) (after : List Char) :
    Template.splitAtClose (body ++ '\x7d' :: after) = some (body, after) := by
  induction body with
  | nil => simp [Template.splitAtClose]
  | cons c body ih =>
    have hc : c ≠ '\x7d' := fun hc => h (by simp [hc])
    simp [Template.splitAtClose, hc, ih (fun hm => h (List.mem_cons_of_mem _ hm))]

/-- What `splitAtClose` finds is the text before the first closing brace. -/
theorem Template.eq_of_splitAtClose {cs body after : List Char}
    (h : Template.splitAtClose cs = some (body, after)) :
    '\x7d' ∉ body ∧ cs = body ++ '\x7d' :: after := by
  induction cs generalizing body with
  | nil => simp [Template.splitAtClose] at h
  | cons c cs ih =>
    unfold Template.splitAtClose at h
    split at h
    · simp only [Option.some.injEq, Prod.mk.injEq] at h
      obtain ⟨rfl, rfl⟩ := h
      simp_all
    · obtain ⟨⟨b, a⟩, hp, he⟩ := Option.map_eq_some_iff.1 h
      simp only [Prod.mk.injEq] at he
      obtain ⟨rfl, rfl⟩ := he
      obtain ⟨hb, rfl⟩ := ih hp
      exact ⟨by simp [hb, Ne.symm ‹_›], rfl⟩

/-- A piece of a template text. -/
inductive Lexeme where
  /-- A character standing for itself. -/
  | char (c : Char)
  /-- `{{`, standing for an opening brace. -/
  | openBrace
  /-- `}}`, standing for a closing brace. -/
  | closeBrace
  /-- A placeholder `{body}`, with the specification its body reads as. -/
  | field (body : List Char) (spec : Spec)
  deriving DecidableEq, Repr

namespace Lexeme

/-- The characters of a lexeme. -/
def chars : Lexeme → List Char
  | char c => [c]
  | openBrace => ['\x7b', '\x7b']
  | closeBrace => ['\x7d', '\x7d']
  | field body _ => '\x7b' :: body ++ ['\x7d']

/-- A character is not a brace, a field's body has no closing brace and reads as its
specification. -/
def Valid : Lexeme → Prop
  | char c => c ≠ '\x7b' ∧ c ≠ '\x7d'
  | openBrace => True
  | closeBrace => True
  | field body s => '\x7d' ∉ body ∧ Spec.parseBody (String.ofList body) = .ok s

/-- The token a lexeme at offset `pos` stands for. -/
def token (pos : Nat) : Lexeme → Token
  | char c => .lit c
  | openBrace => .lit '\x7b'
  | closeBrace => .lit '\x7d'
  | field _ s => .hole s pos

/-- The tokens of lexemes laid end to end from offset `pos`: each placeholder's offset is the
number of characters before its opening brace. -/
def tokens : Nat → List Lexeme → List Token
  | _, [] => []
  | pos, l :: ls => l.token pos :: tokens (pos + l.chars.length) ls

@[simp] theorem tokens_nil (pos : Nat) : tokens pos [] = [] := rfl

@[simp] theorem tokens_cons (pos : Nat) (l : Lexeme) (ls : List Lexeme) :
    tokens pos (l :: ls) = l.token pos :: tokens (pos + l.chars.length) ls := rfl

theorem tokens_append (pos : Nat) (ls ls' : List Lexeme) :
    tokens pos (ls ++ ls') = tokens pos ls ++ tokens (pos + (ls.flatMap chars).length) ls' := by
  induction ls generalizing pos with
  | nil => rfl
  | cons l ls ih => simp [ih, Nat.add_assoc]

theorem chars_ne_nil (l : Lexeme) : l.chars ≠ [] := by
  cases l <;> simp [chars]

/-- The body of a valid field does not start with an opening brace. -/
theorem Valid.field_body {body : List Char} {s : Spec} (h : (field body s).Valid) :
    ∀ r, body ≠ '\x7b' :: r := by
  rintro r rfl
  exact Spec.parseBody_open_ne_ok r s h.2

/-- A text whose first lexeme is valid determines that lexeme and the rest. -/
theorem Valid.chars_append_inj {l l' : Lexeme} (hl : l.Valid) (hl' : l'.Valid)
    {rest rest' : List Char} (h : l.chars ++ rest = l'.chars ++ rest') : l = l' ∧ rest = rest' := by
  cases l with
  | char c =>
    cases l' <;> simp_all [chars, Valid, eq_comm]
  | openBrace =>
    cases l' with
    | field body s =>
      -- `{{` against a field: the field's body would start with `{`
      cases body with
      | nil => simp [chars] at h
      | cons b body =>
        simp only [chars, List.cons_append, List.nil_append, List.cons.injEq, true_and] at h
        obtain ⟨rfl, -⟩ := h
        exact absurd rfl (hl'.field_body body)
    | _ => simp_all [chars, Valid, eq_comm]
  | closeBrace => cases l' <;> simp_all [chars, Valid, eq_comm]
  | field body s =>
    cases l' with
    | field body' s' =>
      simp only [chars, List.cons_append, List.nil_append, List.append_assoc, List.cons.injEq,
        true_and] at h
      have hsplit := Template.splitAtClose_append hl.1 rest
      rw [h, Template.splitAtClose_append hl'.1 rest'] at hsplit
      obtain ⟨rfl, rfl⟩ := Prod.mk.inj (Option.some.inj hsplit)
      have hs : Except.ok s = (.ok s' : Except SyntaxError Spec) := hl.2.symm.trans hl'.2
      exact ⟨by simpa using hs, rfl⟩
    | openBrace =>
      cases body with
      | nil => simp [chars] at h
      | cons b body =>
        simp only [chars, List.cons_append, List.nil_append, List.cons.injEq, true_and] at h
        obtain ⟨rfl, -⟩ := h
        exact absurd rfl (hl.field_body body)
    | _ => simp_all [chars, Valid, eq_comm]

/-- A list of valid lexemes whose characters, laid end to end, are the text `cs`. -/
structure Spells (ls : List Lexeme) (cs : List Char) : Prop where
  valid : ∀ l ∈ ls, l.Valid
  chars_eq : ls.flatMap chars = cs

/-- **Unambiguity.** A text has at most one spelling by valid lexemes. -/
theorem Spells.unique {ls ls' : List Lexeme} {cs : List Char} (h : Spells ls cs)
    (h' : Spells ls' cs) : ls = ls' := by
  induction ls generalizing ls' cs with
  | nil =>
    cases ls' with
    | nil => rfl
    | cons l' ls' =>
      have he := h.chars_eq.trans h'.chars_eq.symm
      simp only [List.flatMap_nil, List.flatMap_cons, List.nil_eq, List.append_eq_nil_iff] at he
      exact absurd he.1 l'.chars_ne_nil
  | cons l ls ih =>
    cases ls' with
    | nil =>
      have he := h.chars_eq.trans h'.chars_eq.symm
      simp only [List.flatMap_cons, List.flatMap_nil, List.append_eq_nil_iff] at he
      exact absurd he.1 l.chars_ne_nil
    | cons l' ls' =>
      have he := h.chars_eq.trans h'.chars_eq.symm
      simp only [List.flatMap_cons] at he
      obtain ⟨rfl, hrest⟩ := Valid.chars_append_inj (h.valid l (by simp)) (h'.valid l' (by simp)) he
      congr 1
      exact ih ⟨fun x hx => h.valid x (by simp [hx]), hrest⟩
        ⟨fun x hx => h'.valid x (by simp [hx]), rfl⟩

end Lexeme

end BraceFormat
