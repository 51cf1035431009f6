import BraceFormat.Proofs.Reading
import BraceFormat.Proofs.SpecText
/-!
# The canonical text of a template reads back

A template's canonical text writes each literal run with its braces doubled and each placeholder
in canonical form. It is made, and read back it gives the template again, with each placeholder's
offset moved to where the placeholder stands in the canonical text, provided the template is
*well formed*: normalised (no empty literal run, no two runs side by side) and with well-formed
specifications. Both conditions are needed: reading gathers literal characters into maximal
runs, and only well-formed specifications come back from their text. Conversely, every template
read is well formed, so writing and reading again is a fixed point on the canonical text.

The proof spells the canonical text by lexemes, one per literal character (a brace as its
escape) and one field per placeholder, and reads them with the characterisation of reading by
lexemes: the tokens of that spelling are the template's own, offsets moved.

The digit limit is part of well-formedness. A position or a literal count with more digits than
the reader takes is not even written: the canonical text of a template holding one is not made
(`Template.width_past_limit_has_no_text`).

## Main definitions

* `Segment.chars`, `Template.chars`: the characters of a canonical text.
* `Segment.placeAt`, `Segment.relocate`: placeholders moved to their offsets in a text.
* `Lexeme.ofChar`, `Segment.lexemes`: the lexemes of a canonical text.
* `Template.WellFormed`: normalised, with well-formed specifications.

## Main results

* `Template.text_of_wellFormed`: a well-formed template has a canonical text.
* `Template.read_text`: a well-formed template is read back from its canonical text.
* `Template.wellFormed_of_read`: every template read is well formed.
* `Template.read_text_of_read`: the canonical text of a template read is a fixed point.
* `Template.canonical_text_round_trip`: the round trips of templates, placeholders and
  directives together.
* `Template.width_past_limit_has_no_text`: a literal width of `digitLimit + 1` digits has no
  canonical text.
-/

namespace BraceFormat

/-! ### Placeholders moved to their offsets -/


namespace Segment

/-- A segment placed at offset `pos`: a placeholder takes `pos` as its offset. -/
def placeAt (pos : Nat) : Segment → Segment
  | .literal t => .literal t
  | .placeholder s _ => .placeholder s pos

/-- The characters of a segment's canonical text, its numbers spelled whatever their number of
digits. -/
def chars : Segment → List Char
  | .literal t => escapeBraces t.toList
  | .placeholder s _ => '\x7b' :: (Spec.bodyChars s ++ ['\x7d'])

/-- The segments laid end to end from offset `pos`, each placeholder's offset moved to where its
text starts in their canonical text. -/
def relocate : Nat → List Segment → List Segment
  | _, [] => []
  | pos, seg :: segs => seg.placeAt pos :: relocate (pos + seg.chars.length) segs

@[simp] theorem relocate_nil (pos : Nat) : relocate pos [] = [] := rfl

@[simp] theorem relocate_cons (pos : Nat) (seg : Segment) (segs : List Segment) :
    relocate pos (seg :: segs) = seg.placeAt pos :: relocate (pos + seg.chars.length) segs := rfl

@[simp] theorem text_placeAt (pos : Nat) (seg : Segment) : (seg.placeAt pos).text = seg.text := by
  cases seg <;> rfl

/-- A segment whose placeholder is well formed has a canonical text: its characters. -/
theorem text_of_wellFormed {seg : Segment} (h : ∀ s o, seg = .placeholder s o → s.WellFormed) :
    seg.text = .ok (String.ofList seg.chars) := by
  cases seg with
  | literal t => rfl
  | placeholder s o => exact Spec.placeholder_of_wellFormed (h s o rfl)

@[simp] theorem isLiteral_placeAt (pos : Nat) (seg : Segment) :
    (seg.placeAt pos).isLiteral = seg.isLiteral := by
  cases seg <;> rfl

theorem placeAt_eq_literal {pos : Nat} {seg : Segment} {t : String} :
    seg.placeAt pos = .literal t ↔ seg = .literal t := by
  cases seg <;> simp [placeAt]

/-- Moving offsets keeps the texts. -/
theorem mapM_text_relocate (pos : Nat) (segs : List Segment) :
    (relocate pos segs).mapM text = segs.mapM text := by
  induction segs generalizing pos with
  | nil => rfl
  | cons seg segs ih => simp [ih]

/-- Moving offsets keeps a segment list normalised: only placeholders change. -/
theorem Normalised.relocate {segs : List Segment} (h : Normalised segs) (pos : Nat) :
    Normalised (Segment.relocate pos segs) := by
  induction segs generalizing pos with
  | nil => exact normalised_nil
  | cons seg segs ih =>
    have hrest := ih h.tail (pos + seg.chars.length)
    refine ⟨?_, ?_⟩
    · simp only [relocate_cons, List.mem_cons, not_or]
      exact ⟨fun he => h.nonempty (by simp [placeAt_eq_literal.1 he.symm]), hrest.nonempty⟩
    · cases segs with
      | nil => exact .singleton _
      | cons seg' segs =>
        have hsep := List.isChain_cons_cons.1 h.separated
        simp only [relocate_cons] at hrest ⊢
        exact List.isChain_cons_cons.2 ⟨by simpa using hsep.1, hrest.separated⟩

end Segment

/-! ### The lexemes of a canonical text -/

namespace Lexeme

/-- The lexeme that writes a literal character: a brace is escaped by doubling it. -/
def ofChar (c : Char) : Lexeme :=
  if c = '\x7b' then .openBrace else if c = '\x7d' then .closeBrace else .char c

theorem chars_ofChar (c : Char) :
    (ofChar c).chars = if c = '\x7b' || c = '\x7d' then [c, c] else [c] := by
  unfold ofChar
  by_cases h₁ : c = '\x7b'
  · subst h₁
    rfl
  · by_cases h₂ : c = '\x7d'
    · subst h₂
      rfl
    · simp [h₁, h₂, chars]

theorem valid_ofChar (c : Char) : (ofChar c).Valid := by
  unfold ofChar
  split
  · trivial
  · split
    · trivial
    · exact ⟨‹_›, ‹_›⟩

/-- The characters of a literal run, each written by its lexeme, stand for themselves. -/
theorem tokens_map_ofChar (pos : Nat) (cs : List Char) :
    tokens pos (cs.map ofChar) = cs.map .lit := by
  induction cs generalizing pos with
  | nil => rfl
  | cons c cs ih =>
    have htoken : (ofChar c).token pos = .lit c := by
      unfold ofChar
      split
      · subst_vars
        rfl
      · split
        · subst_vars
          rfl
        · rfl
    rw [List.map_cons, tokens_cons, htoken, ih, List.map_cons]

end Lexeme

namespace Segment

/-- The lexemes of a segment's canonical text: its characters with braces escaped, or one field. -/
def lexemes : Segment → List Lexeme
  | .literal t => t.toList.map Lexeme.ofChar
  | .placeholder s _ => [.field (Spec.bodyChars s) s]

/-- The lexemes spell the canonical text. -/
theorem flatMap_chars_lexemes (seg : Segment) :
    seg.lexemes.flatMap Lexeme.chars = seg.chars := by
  cases seg with
  | literal t =>
    simp only [lexemes, chars, escapeBraces, List.flatMap_map]
    congr 1
    funext c
    exact Lexeme.chars_ofChar c
  | placeholder s o =>
    simp [lexemes, chars, Lexeme.chars]

theorem valid_lexemes {seg : Segment} (h : ∀ s o, seg = .placeholder s o → s.WellFormed) :
    ∀ l ∈ seg.lexemes, l.Valid := by
  cases seg with
  | literal t =>
    intro l hl
    obtain ⟨c, -, rfl⟩ := List.mem_map.1 hl
    exact Lexeme.valid_ofChar c
  | placeholder s o =>
    have hs := h s o rfl
    intro l hl
    rw [lexemes, List.mem_singleton] at hl
    subst hl
    exact ⟨Spec.close_not_mem_bodyChars hs, Spec.parseBody_bodyChars hs⟩

theorem tokens_lexemes (pos : Nat) (seg : Segment) :
    Lexeme.tokens pos seg.lexemes = (seg.placeAt pos).tokens := by
  cases seg with
  | literal t => exact Lexeme.tokens_map_ofChar pos t.toList
  | placeholder s o => rfl

/-- **Tokens of the canonical text.** Spelling segments by their lexemes from offset `pos` gives
the tokens of the segments relocated there. -/
theorem tokens_flatMap_lexemes (pos : Nat) (segs : List Segment) :
    Lexeme.tokens pos (segs.flatMap lexemes) = flatTokens (relocate pos segs) := by
  induction segs generalizing pos with
  | nil => rfl
  | cons seg segs ih =>
    rw [List.flatMap_cons, Lexeme.tokens_append, tokens_lexemes, flatMap_chars_lexemes, ih,
      relocate_cons, flatTokens_cons]

end Segment

/-! ### Templates read back -/

namespace Template

/-- A template that its canonical text reads back as: normalised, with well-formed
specifications. -/
structure WellFormed (t : Template) : Prop where
  normalised : Segment.Normalised t.segments
  spec : ∀ s o, .placeholder s o ∈ t.segments → s.WellFormed

/-- The characters of a template's canonical text. -/
def chars (t : Template) : List Char :=
  t.segments.flatMap Segment.chars

/-- Segments whose placeholders are well formed have canonical texts: their characters. -/
theorem Segment.mapM_text {segs : List Segment}
    (h : ∀ s o, .placeholder s o ∈ segs → s.WellFormed) :
    segs.mapM Segment.text = .ok (segs.map fun seg => String.ofList seg.chars) := by
  induction segs with
  | nil => rfl
  | cons seg segs ih =>
    rw [List.mapM_cons, Segment.text_of_wellFormed fun s o he => h s o (he ▸ List.mem_cons_self),
      ih fun s o hm => h s o (List.mem_cons_of_mem _ hm)]
    rfl

/-- A well-formed template has a canonical text: its characters. -/
theorem text_of_wellFormed {t : Template} (ht : t.WellFormed) :
    t.text = .ok (String.ofList t.chars) := by
  rw [text, Segment.mapM_text ht.spec]
  simp [chars, bind, Except.bind, pure, Except.pure, ← String.toList_inj, String.toList_join,
    List.flatMap_map]

/-- The canonical text spelled by the lexemes of the segments. -/
theorem flatMap_chars_lexemes (t : Template) :
    (t.segments.flatMap Segment.lexemes).flatMap Lexeme.chars = t.chars := by
  rw [chars, List.flatMap_assoc]
  congr 1
  funext seg
  exact Segment.flatMap_chars_lexemes seg

theorem spells_chars {t : Template} (ht : t.WellFormed) :
    Lexeme.Spells (t.segments.flatMap Segment.lexemes) t.chars := by
  refine ⟨fun l hl => ?_, flatMap_chars_lexemes t⟩
  obtain ⟨seg, hseg, hl⟩ := List.mem_flatMap.1 hl
  exact Segment.valid_lexemes (fun s o he => ht.spec s o (he ▸ hseg)) l hl

/-- **The canonical text reads back.** A well-formed template is read back from its canonical
text, each placeholder's offset moved to where it stands in that text. -/
theorem read_chars {t : Template} (ht : t.WellFormed) :
    read (String.ofList t.chars) = .ok ⟨Segment.relocate 0 t.segments⟩ := by
  refine read_eq_ok_iff.2 ⟨t.segments.flatMap Segment.lexemes, ?_, ?_⟩
  · rw [String.toList_ofList]
    exact spells_chars ht
  · rw [Segment.tokens_flatMap_lexemes, Token.group_flatTokens (ht.normalised.relocate 0)]

/-- Moving offsets keeps the canonical text. -/
theorem text_relocate (pos : Nat) (t : Template) :
    (⟨Segment.relocate pos t.segments⟩ : Template).text = t.text := by
  rw [text, text, Segment.mapM_text_relocate]

end Template

/-! ### Every template read is well formed -/

namespace Token

theorem mem_consLit {c : Char} {segs : List Segment} {s : Spec} {o : Nat}
    (h : .placeholder s o ∈ consLit c segs) : .placeholder s o ∈ segs := by
  match segs, h with
  | [], h => simp at h
  | .literal t :: segs, h => simpa using h
  | .placeholder s' o' :: segs, h => simpa using h

/-- Every placeholder of a grouping stands for a placeholder token. -/
theorem mem_group {toks : List Token} {s : Spec} {o : Nat}
    (h : .placeholder s o ∈ group toks) : .hole s o ∈ toks := by
  induction toks with
  | nil => simp at h
  | cons tok toks ih =>
    cases tok with
    | lit c => exact List.mem_cons_of_mem _ (ih (mem_consLit h))
    | hole s' o' =>
      rw [group_hole, List.mem_cons] at h
      rcases h with he | h
      · simp only [Segment.placeholder.injEq] at he
        obtain ⟨rfl, rfl⟩ := he
        exact List.mem_cons_self
      · exact List.mem_cons_of_mem _ (ih h)

end Token

/-- Every placeholder token of lexemes comes from a field. -/
theorem Lexeme.mem_tokens {pos : Nat} {ls : List Lexeme} {s : Spec} {o : Nat}
    (h : .hole s o ∈ tokens pos ls) : ∃ body, .field body s ∈ ls := by
  induction ls generalizing pos with
  | nil => simp at h
  | cons l ls ih =>
    rw [tokens_cons, List.mem_cons] at h
    rcases h with he | h
    · cases l with
      | field body s' =>
        simp only [token, Token.hole.injEq] at he
        exact ⟨body, by rw [he.1]; exact List.mem_cons_self⟩
      | _ => simp [token] at he
    · obtain ⟨body, hb⟩ := ih h
      exact ⟨body, List.mem_cons_of_mem _ hb⟩

namespace Template

/-- **Every template read is well formed.** -/
theorem wellFormed_of_read {s : String} {t : Template} (h : read s = .ok t) : t.WellFormed := by
  obtain ⟨ls, hls, hsegs⟩ := read_eq_ok_iff.1 h
  refine ⟨hsegs ▸ Token.normalised_group _, fun sp o hmem => ?_⟩
  rw [hsegs] at hmem
  obtain ⟨body, hfield⟩ := Lexeme.mem_tokens (Token.mem_group hmem)
  exact Spec.wellFormed_of_parseBody (hls.valid _ hfield).2

/-- **The canonical text of a well-formed template reads back.** It is made, and read back it
gives the template with each placeholder's offset moved to where it stands in that text. -/
theorem read_text {t : Template} (ht : t.WellFormed) :
    ∃ s, t.text = .ok s ∧ read s = .ok ⟨Segment.relocate 0 t.segments⟩ :=
  ⟨_, text_of_wellFormed ht, read_chars ht⟩

/-- **The canonical text is a fixed point.** The canonical text of a template read is made and
reads again, as a template with the same canonical text. -/
theorem read_text_of_read {src : String} {t : Template} (h : read src = .ok t) :
    ∃ s t', t.text = .ok s ∧ read s = .ok t' ∧ t'.text = .ok s := by
  obtain ⟨s, htext, hread⟩ := read_text (wellFormed_of_read h)
  exact ⟨s, _, htext, hread, (text_relocate 0 t).trans htext⟩

/-- **The canonical text round trip.** A well-formed template has a canonical text, which reads
back as the template with offsets moved to where its placeholders stand there; a well-formed
specification has a canonical placeholder whose body reads back as it and, when its value is
implicit, canonical directives that read back as it; and every template read from a text is well
formed, so its canonical text is made and reads again as a template with the same canonical
text. -/
theorem canonical_text_round_trip (t : Template) (s : Spec) (src : String) :
    (t.WellFormed → ∃ out, t.text = .ok out ∧ read out = .ok ⟨Segment.relocate 0 t.segments⟩) ∧
    (s.WellFormed → ∃ body,
      s.placeholder = .ok (String.ofList ('\x7b' :: (body ++ ['\x7d']))) ∧
      '\x7d' ∉ body ∧ Spec.parseBody (String.ofList body) = .ok s) ∧
    (s.WellFormed → s.value = .next →
      ∃ d, s.directives = .ok d ∧ Spec.parseDirectives d = .ok s) ∧
    (∀ t', read src = .ok t' → t'.WellFormed ∧
      ∃ out t'', t'.text = .ok out ∧ read out = .ok t'' ∧ t''.text = .ok out) :=
  ⟨read_text,
    fun hs => ⟨Spec.bodyChars s, Spec.placeholder_of_wellFormed hs,
      Spec.close_not_mem_bodyChars hs, Spec.parseBody_bodyChars hs⟩,
    fun hs hv => ⟨_, Spec.directives_of_wellFormed hs, Spec.parseDirectives_directiveChars hs hv⟩,
    fun _ h => ⟨wellFormed_of_read h, read_text_of_read h⟩⟩

/-- The template `{:5}`, read from its text, writes back and reads again as itself, and its
directives `5` read back as its specification. -/
theorem width_five_round_trip :
    read "\x7b:5\x7d" = .ok ⟨[.placeholder { width := some (.literal 5) } 0]⟩ ∧
      (∃ out, text ⟨[.placeholder { width := some (.literal 5) } 0]⟩ = .ok out ∧
        read out = .ok ⟨[.placeholder { width := some (.literal 5) } 0]⟩) ∧
      ∃ d, Spec.directives { width := some (.literal 5) } = .ok d ∧
        Spec.parseDirectives d = .ok { width := some (.literal 5) } := by
  have hread : read "\x7b:5\x7d" = .ok ⟨[.placeholder { width := some (.literal 5) } 0]⟩ := by
    decide +kernel
  obtain ⟨htext, -, hdirs, hsrc⟩ := canonical_text_round_trip
    ⟨[.placeholder { width := some (.literal 5) } 0]⟩ { width := some (.literal 5) } "\x7b:5\x7d"
  obtain ⟨hwf, -⟩ := hsrc _ hread
  exact ⟨hread, htext hwf, hdirs (hwf.spec _ _ List.mem_cons_self) rfl⟩

/-- **A width past the digit limit has no canonical text.** The template of one placeholder with
the literal width `10 ^ digitLimit` has no name, `*` width or zero flag to go wrong, but its
canonical text is not made: the width's numeral has one digit more than decimal writing allows. -/
theorem width_past_limit_has_no_text :
    text ⟨[.placeholder { width := some (.literal (10 ^ digitLimit)) } 0]⟩ =
      .error .integerTooLong := by
  have hwidth : (Count.literal (10 ^ digitLimit)).text = .error .integerTooLong :=
    Integer.write_natCast_of_le (Nat.le_refl _)
  simp [text, Segment.text, Spec.placeholder, Spec.directives, Count.optionText, hwidth, bind,
    Except.bind, Functor.map, Except.map]

end Template

end BraceFormat
