import BraceFormat.Template.Basic
import Mathlib
/-!
# Templates as token streams

A parsed template is determined by what it reads as, one unit at a time: the literal characters
in order, with the placeholders where they stand. This module names that stream and the one
segment list each stream has in normal form.

A segment list is *normalised* when no literal segment is empty and no two literal segments are
adjacent. Gathering every maximal run of literal characters of a stream into one literal segment
(`Token.group`) is normalised and spells the stream back, and it is the only normalised list that
does: two normalised segment lists with the same tokens are equal. So a normalised template can
be compared through its tokens alone, which is how the reading and the canonical text of a
template are related later.

## Main definitions

* `Token`: a literal character, or a placeholder with its offset.
* `Segment.tokens`, `Segment.flatTokens`: the tokens of a segment and of a segment list.
* `Segment.Normalised`: no empty literal segment, no two adjacent ones.
* `Token.group`: the normalised segment list of a token stream.

## Main results

* `Token.flatTokens_group`, `Token.normalised_group`: grouping is a normalised spelling.
* `Token.group_flatTokens`: a normalised segment list is the grouping of its tokens.
* `Segment.eq_of_flatTokens_eq`: normalised segment lists with the same tokens are equal.
* `Token.group_append_hole`: a placeholder splits the grouping in two.
-/

namespace BraceFormat

/-- One unit of what a template reads as: a literal character, or a placeholder with the offset
of its opening brace. -/
inductive Token where
  | lit (c : Char)
  | hole (spec : Spec) (offset : Nat)
  deriving DecidableEq, Repr

namespace Segment

/-- Whether a segment is literal text. -/
def isLiteral : Segment → Bool
  | .literal _ => true
  | .placeholder _ _ => false

/-- The tokens of a segment: one for each literal character, one for a placeholder. -/
def tokens : Segment → List Token
  | .literal t => t.toList.map .lit
  | .placeholder s o => [.hole s o]

/-- The tokens of a segment list, in order. -/
def flatTokens (segs : List Segment) : List Token :=
  segs.flatMap tokens

@[simp] theorem flatTokens_nil : flatTokens [] = [] := rfl

@[simp] theorem flatTokens_cons (seg : Segment) (segs : List Segment) :
    flatTokens (seg :: segs) = seg.tokens ++ flatTokens segs := rfl

@[simp] theorem flatTokens_append (segs segs' : List Segment) :
    flatTokens (segs ++ segs') = flatTokens segs ++ flatTokens segs' := by
  simp [flatTokens]

/-- No literal segment is empty and no two literal segments are adjacent. -/
structure Normalised (segs : List Segment) : Prop where
  nonempty : Segment.literal "" ∉ segs
  separated : segs.IsChain fun a b => ¬(a.isLiteral ∧ b.isLiteral)

theorem normalised_nil : Normalised [] := ⟨by simp, .nil⟩

/-- A placeholder in front keeps a segment list normalised. -/
theorem Normalised.placeholder {segs : List Segment} (h : Normalised segs) (s : Spec) (o : Nat) :
    Normalised (.placeholder s o :: segs) := by
  refine ⟨by simpa using h.nonempty, h.separated.cons ?_⟩
  intro b _
  simp [isLiteral]

theorem Normalised.tail {seg : Segment} {segs : List Segment} (h : Normalised (seg :: segs)) :
    Normalised segs :=
  ⟨fun hm => h.nonempty (List.mem_cons_of_mem _ hm), h.separated.tail⟩

/-- The segment after a literal segment of a normalised list is not literal. -/
theorem Normalised.not_literal_after {t t' : String} {segs : List Segment}
    (h : Normalised (.literal t :: .literal t' :: segs)) : False := by
  have := (List.isChain_cons_cons.1 h.separated).1
  simp [isLiteral] at this

end Segment

namespace Token

open Segment

/-- Puts a literal character in front of a segment list, joining it to a leading literal run. -/
def consLit (c : Char) : List Segment → List Segment
  | .literal t :: segs => .literal (String.ofList (c :: t.toList)) :: segs
  | segs => .literal (String.ofList [c]) :: segs

@[simp] theorem consLit_nil (c : Char) : consLit c [] = [.literal (String.ofList [c])] := rfl

@[simp] theorem consLit_literal (c : Char) (t : String) (segs : List Segment) :
    consLit c (.literal t :: segs) = .literal (String.ofList (c :: t.toList)) :: segs := rfl

@[simp] theorem consLit_placeholder (c : Char) (s : Spec) (o : Nat) (segs : List Segment) :
    consLit c (.placeholder s o :: segs) =
      .literal (String.ofList [c]) :: .placeholder s o :: segs := rfl

/-- Gathers a token stream into segments, each maximal run of literal characters into one
literal segment. -/
def group : List Token → List Segment
  | [] => []
  | .lit c :: rest => consLit c (group rest)
  | .hole s o :: rest => .placeholder s o :: group rest

@[simp] theorem group_nil : group [] = [] := rfl

@[simp] theorem group_lit (c : Char) (rest : List Token) :
    group (.lit c :: rest) = consLit c (group rest) := rfl

@[simp] theorem group_hole (s : Spec) (o : Nat) (rest : List Token) :
    group (.hole s o :: rest) = .placeholder s o :: group rest := rfl

theorem flatTokens_consLit (c : Char) (segs : List Segment) :
    flatTokens (consLit c segs) = .lit c :: flatTokens segs := by
  match segs with
  | [] => simp [Segment.tokens]
  | .literal t :: segs => simp [Segment.tokens]
  | .placeholder s o :: segs => simp [Segment.tokens]

/-- Grouping spells the stream back. -/
@[simp] theorem flatTokens_group (toks : List Token) : flatTokens (group toks) = toks := by
  induction toks with
  | nil => rfl
  | cons tok toks ih =>
    cases tok with
    | lit c => rw [group_lit, flatTokens_consLit, ih]
    | hole s o => simp [Segment.tokens, ih]

theorem normalised_consLit {segs : List Segment} (h : Normalised segs) (c : Char) :
    Normalised (consLit c segs) := by
  match segs, h with
  | [], _ => exact ⟨by simp [String.ext_iff], .singleton _⟩
  | .literal t :: segs, h =>
    have hrest := h.tail
    refine ⟨?_, ?_⟩
    · simp only [consLit_literal, List.mem_cons, Segment.literal.injEq, not_or]
      exact ⟨fun he => by simpa using congrArg String.toList he,
        fun hm => h.nonempty (by simp [hm])⟩
    · cases segs with
      | nil => exact .singleton _
      | cons seg segs =>
        have hsep := List.isChain_cons_cons.1 h.separated
        exact List.isChain_cons_cons.2 ⟨by simpa [isLiteral] using hsep.1, hsep.2⟩
  | .placeholder s o :: segs, h =>
    refine ⟨?_, ?_⟩
    · simpa using h.nonempty
    · exact List.isChain_cons_cons.2 ⟨by simp [isLiteral], h.separated⟩

/-- Grouping gives a normalised segment list. -/
theorem normalised_group (toks : List Token) : Normalised (group toks) := by
  induction toks with
  | nil => exact normalised_nil
  | cons tok toks ih =>
    cases tok with
    | lit c => exact normalised_consLit ih c
    | hole s o => exact ih.placeholder s o

/-- A non-empty run of literal characters before a grouping that does not start with a literal
segment becomes one literal segment of its own. -/
theorem group_lits_append {cs : List Char} (hcs : cs ≠ []) {toks : List Token}
    (h : ∀ t segs, group toks ≠ .literal t :: segs) :
    group (cs.map .lit ++ toks) = .literal (String.ofList cs) :: group toks := by
  induction cs with
  | nil => exact absurd rfl hcs
  | cons c cs ih =>
    cases cs with
    | nil =>
      simp only [List.map_cons, List.map_nil, List.cons_append, List.nil_append, group_lit]
      match hg : group toks with
      | [] => rfl
      | .literal t :: segs => exact absurd hg (h t segs)
      | .placeholder s o :: segs => rfl
    | cons c' cs =>
      rw [List.map_cons, List.cons_append, group_lit, ih (List.cons_ne_nil c' cs), consLit_literal,
        String.toList_ofList]

/-- The grouping of literal characters alone: nothing, or one literal segment. -/
theorem group_lits (cs : List Char) :
    group (cs.map .lit) = if cs = [] then [] else [.literal (String.ofList cs)] := by
  split
  · subst_vars; rfl
  · simpa using @group_lits_append cs ‹_› [] (by simp)

/-- A normalised segment list is the grouping of its own tokens. -/
theorem group_flatTokens {segs : List Segment} (h : Normalised segs) :
    group (flatTokens segs) = segs := by
  induction segs with
  | nil => rfl
  | cons seg segs ih =>
    have hrest := ih h.tail
    cases seg with
    | placeholder s o => simp [Segment.tokens, hrest]
    | literal t =>
      have ht : t.toList ≠ [] := fun he =>
        h.nonempty (by simp [String.toList_eq_nil_iff.1 he])
      have hnext : ∀ t' segs', group (flatTokens segs) ≠ .literal t' :: segs' := by
        rintro t' segs' he
        rw [hrest] at he
        subst he
        exact h.not_literal_after
      simp only [flatTokens_cons, Segment.tokens]
      rw [group_lits_append ht hnext, hrest, String.ofList_toList]

theorem consLit_append_placeholder (c : Char) (segs : List Segment) (s : Spec) (o : Nat)
    (rest : List Segment) :
    consLit c (segs ++ .placeholder s o :: rest) = consLit c segs ++ .placeholder s o :: rest := by
  match segs with
  | [] => rfl
  | .literal t :: segs => rfl
  | .placeholder s' o' :: segs => rfl

/-- A placeholder ends the literal run before it, so it splits the grouping in two. -/
theorem group_append_hole (toks : List Token) (s : Spec) (o : Nat) (toks' : List Token) :
    group (toks ++ .hole s o :: toks') = group toks ++ .placeholder s o :: group toks' := by
  induction toks with
  | nil => rfl
  | cons tok toks ih =>
    cases tok with
    | lit c => simp [ih, consLit_append_placeholder]
    | hole s' o' => simp [ih]

end Token

namespace Segment

/-- **Normal form.** Two normalised segment lists with the same tokens are equal. -/
theorem eq_of_flatTokens_eq {segs segs' : List Segment}
    (h : Normalised segs) (h' : Normalised segs') (he : flatTokens segs = flatTokens segs') :
    segs = segs' := by
  rw [← Token.group_flatTokens h, ← Token.group_flatTokens h', he]

end Segment

end BraceFormat
