import BraceFormat.Proofs.Reading
import BraceFormat.Proofs.Binding
/-!
# A call fails at its first failure

A call runs three stages one after the other: reading the template text, binding its
placeholders, rendering the pieces. Each stage walks the template from left to right and stops at
its first failure, and a later stage runs only when the earlier ones succeeded. So every
formatting error points at one brace of the text: a closing brace standing alone, an opening
brace with no closing brace after it, or the opening brace of the placeholder that failed to
read, to bind or to render. The text up to the end of that piece fails alike, and the text before
it gets through the stage that failed.

Reading is handled through the lexemes of the text: a text that does not read is valid lexemes
and then a stuck point (`Template.read_eq_error_iff`), and a template read from a text cuts, at
any of its placeholders, into the template of the text before the placeholder and that of the
text up to its closing brace (`Template.read_take_placeholder`). Binding and rendering are handled
through their first failing segment and piece (`bindSegments_eq_error`, `renderPieces_eq_error`),
whose errors carry the placeholder's offset.

## Main definitions

* `FormatError.brace`, `FormatError.pieceEnd`: the brace an error points at and the end of the
  piece of text it concerns.
* `FormatError.slotOffset?`: the placeholder a binding or rendering error concerns.

## Main results

* `Template.read_error_at_first_failure`: reading fails at its first stuck point.
* `Template.read_take_placeholder`: the text of a template cut at a placeholder.
* `renderPieces_eq_error`: rendering fails at its first failing piece.
* `bindSegment_error_offset`, `Piece.render_error_offset`: binding and rendering errors concern
  the placeholder that failed.
* `Template.bind_error_at_first_failure`, `Template.render_error_at_first_failure`: binding and
  rendering fail at their first failing placeholder of the text.
* `format_error_at_first_failure`: a call fails at its first failure.
-/

namespace BraceFormat

/-! ### Where an error points -/

namespace Template

/-- One past the closing brace of a placeholder opened at offset `k` of the text `cs`: the first
closing brace after it. -/
def fieldEnd (cs : List Char) (k : Nat) : Nat :=
  k + 2 + ((cs.drop (k + 1)).takeWhile (· ≠ '\x7d')).length

/-- A field's end is one past its first closing brace. -/
theorem fieldEnd_field {pre body rest : List Char} (hb : '\x7d' ∉ body) :
    fieldEnd (pre ++ '\x7b' :: (body ++ '\x7d' :: rest)) pre.length =
      pre.length + (body.length + 2) := by
  have hall : ∀ c ∈ body, decide (c ≠ '\x7d') = true := by
    intro c hc
    simpa using fun he : c = '\x7d' => hb (he ▸ hc)
  have hdrop : (pre ++ '\x7b' :: (body ++ '\x7d' :: rest)).drop (pre.length + 1) =
      body ++ '\x7d' :: rest := by
    simp
  rw [fieldEnd, hdrop, List.takeWhile_append_of_pos hall]
  simp only [List.takeWhile_cons, ne_eq, not_true_eq_false, decide_false, Bool.false_eq_true,
    if_false, List.append_nil]
  omega

end Template

namespace FormatError

/-- The brace at the offset an error reports: a closing brace standing alone, or the opening
brace of a placeholder. -/
def brace : FormatError → Char
  | unmatchedClose _ => '\x7d'
  | _ => '\x7b'

/-- One past the end of the piece of the text `cs` that an error at offset `k` concerns: the
brace itself for a closing brace alone or an unterminated opening brace, and otherwise the
placeholder opened at `k`, up to its closing brace. -/
def pieceEnd (cs : List Char) (k : Nat) : FormatError → Nat
  | unmatchedClose _ | unterminated _ => k + 1
  | _ => Template.fieldEnd cs k

/-- The offset of the placeholder a binding or rendering error concerns. -/
def slotOffset? : FormatError → Option Nat
  | missing _ o | exhausted _ o | unsupported _ _ o | invalidCount _ _ _ o => some o
  | _ => none

/-- An error about a placeholder points at its opening brace and concerns the whole of it. -/
theorem of_slotOffset {e : FormatError} {o : Nat} (h : e.slotOffset? = some o) :
    e.offset = some o ∧ e.brace = '\x7b' ∧ ∀ cs, e.pieceEnd cs o = Template.fieldEnd cs o := by
  cases e <;> cases h <;> exact ⟨rfl, rfl, fun _ => rfl⟩

end FormatError

/-! ### Reading stops at its first stuck point -/

namespace Template

/-- The text before a stuck point reads: it is spelled by the lexemes read so far. -/
theorem read_take_spelled {s : String} {ls : List Lexeme} {bad : List Char}
    (hv : ∀ l ∈ ls, l.Valid) (hs : s.toList = ls.flatMap Lexeme.chars ++ bad) :
    read (String.ofList (s.toList.take (ls.flatMap Lexeme.chars).length)) =
      .ok ⟨Token.group (Lexeme.tokens 0 ls)⟩ := by
  rw [hs, List.take_left' rfl]
  exact read_eq_ok_iff.2 ⟨ls, ⟨hv, by simp⟩, rfl⟩

/-- **A text that does not read fails at its first stuck point.** The error points at a brace;
the text up to the end of the piece it concerns fails alike, and the text before it reads. -/
theorem read_error_at_first_failure {s : String} {r : ReadError} {e : FormatError}
    (h : read s = .error r) (he : r.toCallError = .format e) :
    ∃ k : Nat, e.offset = some k ∧ s.toList[k]? = some e.brace ∧
      read (String.ofList (s.toList.take (e.pieceEnd s.toList k))) = .error r ∧
      ∃ t, read (String.ofList (s.toList.take k)) = .ok t := by
  obtain ⟨ls, bad, hv, hs, hstuck⟩ := read_eq_error_iff.1 h
  have hread := read_take_spelled hv hs
  cases hstuck with
  | unmatched hr =>
    cases he
    refine ⟨_, rfl, ?_, ?_, _, hread⟩
    · rw [hs, List.getElem?_append_right (Nat.le_refl _)]
      simp [FormatError.brace]
    · rw [hs, FormatError.pieceEnd, List.take_length_add_append]
      exact read_eq_error_iff.2 ⟨ls, ['\x7d'], hv, by simp, .unmatched (by simp)⟩
  | unterminated hr hc =>
    cases he
    refine ⟨_, rfl, ?_, ?_, _, hread⟩
    · rw [hs, List.getElem?_append_right (Nat.le_refl _)]
      simp [FormatError.brace]
    · rw [hs, FormatError.pieceEnd, List.take_length_add_append]
      exact read_eq_error_iff.2 ⟨ls, ['\x7b'], hv, by simp, .unterminated (by simp) (by simp)⟩
  | @malformed body rest err hb hc hp =>
    simp only [ReadError.toCallError, SyntaxError.toCallError] at he
    split at he
    · cases he
    cases he
    refine ⟨_, rfl, ?_, ?_, _, hread⟩
    · rw [hs, List.getElem?_append_right (Nat.le_refl _)]
      simp [FormatError.brace]
    · simp only [hs, FormatError.pieceEnd]
      rw [Template.fieldEnd_field hc, List.take_length_add_append]
      refine read_eq_error_iff.2 ⟨ls, '\x7b' :: (body ++ ['\x7d']), hv, ?_, .malformed hb hc hp⟩
      simp [List.take_length_add_append]

end Template

/-! ### The text of a template up to a placeholder -/

/-- The segments before a point of a normalised list are normalised. -/
theorem Segment.Normalised.left {segs segs' : List Segment} (h : Normalised (segs ++ segs')) :
    Normalised segs :=
  ⟨fun hm => h.nonempty (List.mem_append_left _ hm), h.separated.left_of_append⟩

/-- A placeholder token among the tokens of some lexemes comes from a field among them, whose
opening brace is at the offset the token carries. -/
theorem Lexeme.tokens_eq_append_hole {s : Spec} {o : Nat} {toks₂ : List Token} :
    ∀ {pos : Nat} {ls : List Lexeme} {toks₁ : List Token},
      Lexeme.tokens pos ls = toks₁ ++ .hole s o :: toks₂ →
        ∃ ls₁ body ls₂, ls = ls₁ ++ .field body s :: ls₂ ∧ Lexeme.tokens pos ls₁ = toks₁ ∧
          o = pos + (ls₁.flatMap Lexeme.chars).length
  | _, [], _, h => by simp at h
  | pos, l :: ls, [], h => by
    rw [Lexeme.tokens_cons, List.nil_append, List.cons.injEq] at h
    obtain ⟨hl, -⟩ := h
    cases l with
    | field body s' =>
      cases hl
      exact ⟨[], body, ls, rfl, rfl, rfl⟩
    | _ => cases hl
  | pos, l :: ls, x :: toks₁, h => by
    rw [Lexeme.tokens_cons, List.cons_append, List.cons.injEq] at h
    obtain ⟨rfl, h⟩ := h
    obtain ⟨ls₁, body, ls₂, rfl, htoks, rfl⟩ := Lexeme.tokens_eq_append_hole h
    refine ⟨l :: ls₁, body, ls₂, rfl, by rw [Lexeme.tokens_cons, htoks], ?_⟩
    simp [Nat.add_assoc]

namespace Template

/-- **A template read, cut at a placeholder.** The placeholder's offset is an opening brace of
the text; the text before it reads as the segments before the placeholder, and the text up to
the placeholder's closing brace as those segments and the placeholder. -/
theorem read_take_placeholder {s : String} {t : Template} (h : read s = .ok t)
    {pre post : List Segment} {spec : Spec} {o : Nat}
    (hsegs : t.segments = pre ++ .placeholder spec o :: post) :
    s.toList[o]? = some '\x7b' ∧ read (String.ofList (s.toList.take o)) = .ok ⟨pre⟩ ∧
      read (String.ofList (s.toList.take (fieldEnd s.toList o))) =
        .ok ⟨pre ++ [.placeholder spec o]⟩ := by
  obtain ⟨ls, hls, hgroup⟩ := read_eq_ok_iff.1 h
  have hnorm : Segment.Normalised pre := by
    have := Token.normalised_group (Lexeme.tokens 0 ls)
    rw [← hgroup, hsegs] at this
    exact this.left
  have htoks : Lexeme.tokens 0 ls =
      Segment.flatTokens pre ++ .hole spec o :: Segment.flatTokens post := by
    rw [← Token.flatTokens_group (Lexeme.tokens 0 ls), ← hgroup, hsegs]
    simp [Segment.tokens]
  obtain ⟨ls₁, body, ls₂, rfl, htoks₁, rfl⟩ := Lexeme.tokens_eq_append_hole htoks
  have hfield := hls.valid (.field body spec) (by simp)
  have hs : s.toList =
      ls₁.flatMap Lexeme.chars ++ '\x7b' :: (body ++ '\x7d' :: ls₂.flatMap Lexeme.chars) := by
    rw [← hls.chars_eq]
    simp [Lexeme.chars]
  have hv₁ : ∀ l ∈ ls₁, l.Valid := fun l hl => hls.valid l (by simp [hl])
  refine ⟨?_, ?_, ?_⟩
  · rw [hs, Nat.zero_add, List.getElem?_append_right (Nat.le_refl _)]
    simp
  · rw [Nat.zero_add, read_take_spelled hv₁ hs, htoks₁, Token.group_flatTokens hnorm]
  · have hv : ∀ l ∈ ls₁ ++ [.field body spec], l.Valid := by
      intro l hl
      rcases List.mem_append.1 hl with hl | hl
      · exact hv₁ l hl
      · rw [List.mem_singleton.1 hl]
        exact hfield
    have hs' : s.toList = (ls₁ ++ [Lexeme.field body spec]).flatMap Lexeme.chars ++
        ls₂.flatMap Lexeme.chars := by
      rw [hs]
      simp [Lexeme.chars]
    have hend : fieldEnd s.toList (0 + (ls₁.flatMap Lexeme.chars).length) =
        ((ls₁ ++ [Lexeme.field body spec]).flatMap Lexeme.chars).length := by
      rw [Nat.zero_add, hs, fieldEnd_field hfield.1]
      simp [Lexeme.chars]
    rw [hend, read_take_spelled hv hs', Lexeme.tokens_append, htoks₁]
    simp [Lexeme.tokens, Lexeme.token, Token.group_append_hole, Token.group_flatTokens hnorm]

end Template

/-! ### Binding and rendering stop at their first failing placeholder -/

/-- A fault of a value is never a formatting error. -/
theorem mapError_fault_ne_format {α : Type} (x : Except Fault α) (e : FormatError) :
    x.mapError CallError.fault ≠ .error (.format e) := by
  cases x <;> simp [Except.mapError]

theorem map_mapError_fault_ne_format {α β : Type} (f : α → β) (x : Except Fault α)
    (e : FormatError) : f <$> x.mapError CallError.fault ≠ .error (.format e) := by
  cases x <;> simp [Except.mapError, Functor.map, Except.map]

/-- A value is refused by rendering only at its placeholder's offset. -/
theorem Bound.render_error_offset {b : Bound} {spec : Spec} {p : Option Nat} {o : Nat}
    {e : FormatError} (h : b.render spec p o = .error (.format e)) : e.slotOffset? = some o := by
  simp only [Bound.render] at h
  split at h
  · split at h
    · exact absurd h (map_mapError_fault_ne_format _ _ _)
    split at h
    · exact absurd h (map_mapError_fault_ne_format _ _ _)
    rcases bind_eq_error.1 h with h | ⟨n?, -, h⟩
    · exact absurd h (mapError_fault_ne_format _ _)
    split at h
    · exact absurd h (mapError_fault_ne_format _ _)
    · split at h
      · cases h; rfl
      · exact absurd h (mapError_fault_ne_format _ _)
    · split at h
      · cases h; rfl
      · exact absurd h (mapError_fault_ne_format _ _)
    · cases h; rfl
  · cases h; rfl

theorem Piece.render_error_offset {q : Piece} {e : FormatError}
    (h : q.render = .error (.format e)) :
    ∃ spec b w p o, q = .slot spec b w p o ∧ e.slotOffset? = some o := by
  cases q with
  | literal t => cases h
  | slot spec b w p o =>
    refine ⟨spec, b, w, p, o, rfl, ?_⟩
    simp only [Piece.render] at h
    rcases bind_eq_error.1 h with h | ⟨r, -, h⟩
    · exact Bound.render_error_offset h
    split at h <;> cases h

/-- **A failed rendering fails at one piece.** The pieces before it render, and it fails with the
rendering's error. -/
theorem renderPieces_eq_error {ps : List Piece} {e : CallError} :
    renderPieces ps = .error e ↔
      ∃ pre q post, ps = pre ++ q :: post ∧ (∃ t, renderPieces pre = .ok t) ∧
        q.render = .error e := by
  constructor
  · intro h
    induction ps with
    | nil => cases h
    | cons q ps ih =>
      rw [renderPieces] at h
      rcases bind_eq_error.1 h with h | ⟨t, hq, h⟩
      · exact ⟨[], q, ps, rfl, ⟨"", rfl⟩, h⟩
      rcases bind_eq_error.1 h with h | ⟨_, -, h⟩
      · obtain ⟨pre, q', post, rfl, ⟨t', hpre⟩, hq'⟩ := ih h
        refine ⟨q :: pre, q', post, rfl, ⟨t ++ t', ?_⟩, hq'⟩
        simp [renderPieces, hq, hpre, bind, Except.bind, pure, Except.pure]
      · cases h
  · rintro ⟨pre, q, post, rfl, ⟨t, hpre⟩, hq⟩
    induction pre generalizing t with
    | nil => simp [renderPieces, hq, bind, Except.bind]
    | cons q' pre ih =>
      rw [renderPieces] at hpre
      obtain ⟨t₁, hq', hpre⟩ := bind_eq_ok.1 hpre
      obtain ⟨t₂, hpre, -⟩ := bind_eq_ok.1 hpre
      rw [List.cons_append, renderPieces, hq']
      exact bind_eq_error.2 (.inr ⟨t₁, rfl, bind_eq_error.2 (.inl (ih t₂ hpre))⟩)

namespace Arguments

variable (args : Arguments)

/-- A selector is missing only at its placeholder's offset. -/
theorem resolve_error_offset {u : Usage} {s : Selector} {o : Nat} {e : FormatError}
    (h : args.resolve u s o = .error (.format e)) : e.slotOffset? = some o := by
  cases s <;> simp only [resolve] at h <;> split at h <;> cases h <;> rfl

theorem refusedCount_offset {src : Option Selector} {v : Value} {f : CountFault} {o : Nat}
    {e : FormatError} (h : CallError.refusedCount src v f o = .format e) :
    e.slotOffset? = some o := by
  unfold CallError.refusedCount at h
  split at h <;> cases h
  rfl

/-- A count is refused only at its placeholder's offset. -/
theorem resolveCount_error_offset {limit : Option Nat} {u : Usage} {cnt : Option Count} {o : Nat}
    {e : FormatError} (h : args.resolveCount limit u cnt o = .error (.format e)) :
    e.slotOffset? = some o := by
  rcases args.resolveCount_eq_error h with ⟨s, -, hr⟩ | ⟨f, hf⟩ | ⟨src, v, f, hf⟩
  · exact args.resolve_error_offset hr
  · cases hf
  · exact refusedCount_offset hf.symm

end Arguments

section Binding

variable (cfg : Config) (args : Arguments)

/-- **A placeholder fails to bind only at its offset.** -/
theorem bindSegment_error_offset {seg : Segment} {u : Usage} {e : FormatError}
    (h : bindSegment cfg args seg u = .error (.format e)) :
    ∃ spec o, seg = .placeholder spec o ∧ e.slotOffset? = some o := by
  cases seg with
  | literal t => cases h
  | placeholder spec o =>
    refine ⟨spec, o, rfl, ?_⟩
    rcases bindSlot_eq_error cfg args h with
      hw | ⟨w, u₁, -, hp⟩ | ⟨w, u₁, p, u₂, -, -, hb⟩ | ⟨w, u₁, p, u₂, b, u₃, -, -, -, -, he⟩
    · exact args.resolveCount_error_offset hw
    · exact args.resolveCount_error_offset hp
    · exact args.resolve_error_offset hb
    · cases he
      rfl

end Binding

/-! ### Binding and rendering, on the text -/

section Stages

variable {cfg : Config} {args : Arguments}

/-- Without strict mode, the binding phase is the binding alone. -/
theorem Template.bindPieces_eq_ok_of_lax (hstrict : cfg.requireAll = false) {t : Template}
    {ps : List Piece} :
    t.bindPieces cfg args = .ok ps ↔ ∃ u, bindSegments cfg args t.segments {} = .ok (ps, u) := by
  simp [Template.bindPieces_eq_ok, hstrict]

theorem Template.bindPieces_eq_error_of_lax (hstrict : cfg.requireAll = false) {t : Template}
    {e : CallError} :
    t.bindPieces cfg args = .error e ↔ bindSegments cfg args t.segments {} = .error e := by
  simp [Template.bindPieces_eq_error, hstrict]

/-- **Binding fails at its first failing placeholder.** Without strict mode, a template read from
`s` that fails to bind with a formatting error fails at the opening brace of one placeholder: the
text up to that placeholder's closing brace fails to bind alike, and the text before it binds. -/
theorem Template.bind_error_at_first_failure (hstrict : cfg.requireAll = false) {s : String}
    {t : Template} {e : FormatError} (hread : read s = .ok t)
    (hbind : t.bindPieces cfg args = .error (.format e)) :
    ∃ k : Nat, e.offset = some k ∧ s.toList[k]? = some e.brace ∧
      (∃ t', read (String.ofList (s.toList.take (e.pieceEnd s.toList k))) = .ok t' ∧
        t'.bindPieces cfg args = .error (.format e)) ∧
      ∃ t' ps, read (String.ofList (s.toList.take k)) = .ok t' ∧
        t'.bindPieces cfg args = .ok ps := by
  obtain ⟨pre, seg, post, ps, u₁, hsegs, hpre, hseg⟩ :=
    (bindSegments_eq_error cfg args).1 ((bindPieces_eq_error_of_lax hstrict).1 hbind)
  obtain ⟨spec, o, rfl, hslot⟩ := bindSegment_error_offset cfg args hseg
  obtain ⟨hoff, hbrace, hend⟩ := FormatError.of_slotOffset hslot
  obtain ⟨hopen, hbefore, hupto⟩ := read_take_placeholder hread hsegs
  have hfail : bindSegments cfg args (pre ++ [.placeholder spec o]) {} = .error (.format e) :=
    (bindSegments_eq_error cfg args).2 ⟨pre, _, [], ps, u₁, rfl, hpre, hseg⟩
  refine ⟨o, hoff, hbrace ▸ hopen, ⟨_, ?_, (bindPieces_eq_error_of_lax hstrict).2 hfail⟩,
    ⟨pre⟩, ps, hbefore, (bindPieces_eq_ok_of_lax hstrict).2 ⟨u₁, hpre⟩⟩
  rw [hend]
  exact hupto

/-- **Rendering fails at its first failing piece.** Without strict mode, the pieces bound from a
template read from `s` that fail to render with a formatting error fail at the opening brace of
one placeholder: the text up to its closing brace binds and fails to render alike, and the text
before it binds and renders. -/
theorem Template.render_error_at_first_failure (hstrict : cfg.requireAll = false) {s : String}
    {t : Template} {ps : List Piece} {e : FormatError} (hread : read s = .ok t)
    (hbind : t.bindPieces cfg args = .ok ps) (hrender : renderPieces ps = .error (.format e)) :
    ∃ k : Nat, e.offset = some k ∧ s.toList[k]? = some e.brace ∧
      (∃ t' ps', read (String.ofList (s.toList.take (e.pieceEnd s.toList k))) = .ok t' ∧
        t'.bindPieces cfg args = .ok ps' ∧ renderPieces ps' = .error (.format e)) ∧
      ∃ t' ps' out, read (String.ofList (s.toList.take k)) = .ok t' ∧
        t'.bindPieces cfg args = .ok ps' ∧ renderPieces ps' = .ok out := by
  obtain ⟨u, hsegs⟩ := (bindPieces_eq_ok_of_lax hstrict).1 hbind
  obtain ⟨ps₁, q, ps₂, rfl, ⟨out, hout⟩, hq⟩ := renderPieces_eq_error.1 hrender
  obtain ⟨spec, b, w, p, o, rfl, hslot⟩ := Piece.render_error_offset hq
  obtain ⟨pre, seg, post, u₁, u₂, hsegs', hpre, hseg, -⟩ := bindSegments_eq_ok_split cfg args hsegs
  obtain rfl := bindSegment_slot cfg args hseg
  obtain ⟨hoff, hbrace, hend⟩ := FormatError.of_slotOffset hslot
  obtain ⟨hopen, hbefore, hupto⟩ := read_take_placeholder hread hsegs'
  have hbound : bindSegments cfg args (pre ++ [.placeholder spec o]) {} =
      .ok (ps₁ ++ [.slot spec b w p o], u₂) :=
    bindSegments_append_eq_ok cfg args hpre
      ((bindSegments_cons_eq_ok cfg args).2 ⟨_, u₂, [], hseg, rfl, rfl⟩)
  refine ⟨o, hoff, hbrace ▸ hopen, ⟨_, _, ?_, (bindPieces_eq_ok_of_lax hstrict).2 ⟨u₂, hbound⟩,
    renderPieces_eq_error.2 ⟨ps₁, _, [], rfl, ⟨out, hout⟩, hq⟩⟩,
    ⟨pre⟩, ps₁, out, hbefore, (bindPieces_eq_ok_of_lax hstrict).2 ⟨u₁, hpre⟩, hout⟩
  rw [hend]
  exact hupto

end Stages

/-! ### A call on a text -/

section Call

variable {cfg : Config} {positional : List Value} {named : List (String × Value)}

/-- A call on a text that reads binds the template read, then renders its pieces. -/
theorem formatText_of_read {s : String} {t : Template} (h : Template.read s = .ok t) :
    formatText s cfg positional named =
      t.bindPieces cfg (.ofValues positional named) >>= renderPieces := by
  simp [formatText, h, Template.format, Except.mapError, bind, Except.bind]

/-- A call on a text that does not read fails with the reading's error. -/
theorem formatText_of_read_error {s : String} {r : ReadError} (h : Template.read s = .error r) :
    formatText s cfg positional named = .error r.toCallError := by
  simp [formatText, h, Except.mapError, bind, Except.bind]

end Call

/-- **A call fails at its first failure.** Without strict mode, a call on a text that does not
read fails with the reading's error whatever the arguments. A call failing with a formatting
error `e` reports an offset `k` holding a brace: a closing brace for a closing brace alone, an
opening brace otherwise. The call on the text up to the end of the piece at `k` (the brace alone,
or the whole placeholder opened there) fails with the same error; and on the text before `k` the
stage that failed succeeds: reading when reading failed, binding when binding failed, the whole
call when rendering failed. -/
theorem format_error_at_first_failure (s : String) (cfg : Config) (positional : List Value)
    (named : List (String × Value)) (hstrict : cfg.requireAll = false) :
    (∀ r, Template.read s = .error r →
        formatText s cfg positional named = .error r.toCallError) ∧
    ∀ e, formatText s cfg positional named = .error (.format e) →
      ∃ k : Nat, e.offset = some k ∧ s.toList[k]? = some e.brace ∧
        formatText (String.ofList (s.toList.take (e.pieceEnd s.toList k))) cfg positional named =
          .error (.format e) ∧
        (((∃ r, Template.read s = .error r) ∧
            ∃ t, Template.read (String.ofList (s.toList.take k)) = .ok t) ∨
          ((∃ t, Template.read s = .ok t ∧
              t.bindPieces cfg (.ofValues positional named) = .error (.format e)) ∧
            ∃ t ps, Template.read (String.ofList (s.toList.take k)) = .ok t ∧
              t.bindPieces cfg (.ofValues positional named) = .ok ps) ∨
          ((∃ t ps, Template.read s = .ok t ∧
              t.bindPieces cfg (.ofValues positional named) = .ok ps ∧
              renderPieces ps = .error (.format e)) ∧
            ∃ out,
              formatText (String.ofList (s.toList.take k)) cfg positional named = .ok out)) := by
  refine ⟨fun r h => formatText_of_read_error h, fun e h => ?_⟩
  cases hread : Template.read s with
  | error r =>
    rw [formatText_of_read_error hread] at h
    obtain ⟨k, hoff, hbrace, hupto, hbefore⟩ :=
      Template.read_error_at_first_failure hread (Except.error.inj h)
    exact ⟨k, hoff, hbrace, by rw [formatText_of_read_error hupto, h], .inl ⟨⟨r, rfl⟩, hbefore⟩⟩
  | ok t =>
    rw [formatText_of_read hread] at h
    rcases bind_eq_error.1 h with hbind | ⟨ps, hbind, hrender⟩
    · obtain ⟨k, hoff, hbrace, ⟨t₁, hread₁, hbind₁⟩, t₀, ps₀, hread₀, hbind₀⟩ :=
        Template.bind_error_at_first_failure hstrict hread hbind
      refine ⟨k, hoff, hbrace, ?_, .inr (.inl ⟨⟨t, rfl, hbind⟩, t₀, ps₀, hread₀, hbind₀⟩)⟩
      rw [formatText_of_read hread₁, hbind₁]
      rfl
    · obtain ⟨k, hoff, hbrace, ⟨t₁, ps₁, hread₁, hbind₁, hrender₁⟩, t₀, ps₀, out, hread₀, hbind₀,
        hrender₀⟩ := Template.render_error_at_first_failure hstrict hread hbind hrender
      refine ⟨k, hoff, hbrace, ?_, .inr (.inr ⟨⟨t, ps, rfl, hbind, hrender⟩, out, ?_⟩)⟩
      · rw [formatText_of_read hread₁, hbind₁]
        exact hrender₁
      · rw [formatText_of_read hread₀, hbind₀]
        exact hrender₀

/-- The law on the text `{}` with no argument, without strict mode. -/
theorem format_error_at_first_failure_unbound :
    ({} : Config).requireAll = false ∧
    ((∀ r, Template.read "\x7b\x7d" = .error r →
        formatText "\x7b\x7d" {} [] [] = .error r.toCallError) ∧
    ∀ e, formatText "\x7b\x7d" {} [] [] = .error (.format e) →
      ∃ k : Nat, e.offset = some k ∧ "\x7b\x7d".toList[k]? = some e.brace ∧
        formatText (String.ofList ("\x7b\x7d".toList.take (e.pieceEnd "\x7b\x7d".toList k)))
          {} [] [] = .error (.format e) ∧
        (((∃ r, Template.read "\x7b\x7d" = .error r) ∧
            ∃ t, Template.read (String.ofList ("\x7b\x7d".toList.take k)) = .ok t) ∨
          ((∃ t, Template.read "\x7b\x7d" = .ok t ∧
              t.bindPieces {} (.ofValues [] []) = .error (.format e)) ∧
            ∃ t ps, Template.read (String.ofList ("\x7b\x7d".toList.take k)) = .ok t ∧
              t.bindPieces {} (.ofValues [] []) = .ok ps) ∨
          ((∃ t ps, Template.read "\x7b\x7d" = .ok t ∧
              t.bindPieces {} (.ofValues [] []) = .ok ps ∧ renderPieces ps = .error (.format e)) ∧
            ∃ out, formatText (String.ofList ("\x7b\x7d".toList.take k)) {} [] [] = .ok out))) :=
  ⟨rfl, format_error_at_first_failure "\x7b\x7d" {} [] [] rfl⟩

end BraceFormat
