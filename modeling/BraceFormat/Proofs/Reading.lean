import BraceFormat.Proofs.Lexeme
/-!
# Reading a template text

`Template.read` accepts exactly the texts that are spelled by valid lexemes (`Proofs.Lexeme`), and
the template it returns is the normalised grouping of their tokens: literal runs gathered into
maximal non-empty segments, each placeholder at the offset of its opening brace. On a text it
refuses, it stops at the first place where no lexeme fits, and reports that place.

The scan keeps a state: the literal run read so far (reversed) and the segments closed so far
(reversed). `Template.outcome` says what a state ends with when the rest of the text stands for
a given token stream; one lexeme moves the scan to the state whose outcome on the remaining tokens
is the same (`scan_spelled_append`), which is the simulation the proofs rest on. Where no lexeme
fits, the text is *stuck* (`Template.Stuck`) in one of three ways: a closing brace alone, an
opening brace with no closing brace after it, or a field whose body does not read.

## Main definitions

* `Template.outcome`: the segments a scan state ends with on a given token stream.
* `Template.Stuck`: the three ways a text fails to start with a lexeme.

## Main results

* `Template.scan_spelled_append`: the scan over valid lexemes, as a simulation of their tokens.
* `Template.spelled_or_stuck`: every text is valid lexemes, then the end or a stuck point.
* `Template.read_eq_ok_iff`, `Template.read_eq_error_iff`: reading in terms of lexemes.
* `Template.read_ok_iff_spelled`: reading succeeds exactly on the texts that have a spelling,
  which is unique, and then returns the normalised grouping of its tokens.
-/

namespace BraceFormat

namespace Template

variable {pos : Nat} {lit : List Char} {segs : List Segment}

/-! ### One scan step per kind of lexeme -/

theorem scan_nil : scan pos lit segs [] = .ok (flush lit segs).reverse := by
  rw [scan]

theorem scan_openBrace (rest : List Char) :
    scan pos lit segs ('\x7b' :: '\x7b' :: rest) = scan (pos + 2) ('\x7b' :: lit) segs rest := by
  rw [scan]

theorem scan_closeBrace (rest : List Char) :
    scan pos lit segs ('\x7d' :: '\x7d' :: rest) = scan (pos + 2) ('\x7d' :: lit) segs rest := by
  rw [scan]

theorem scan_char {c : Char} (h₁ : c ≠ '\x7b') (h₂ : c ≠ '\x7d') (rest : List Char) :
    scan pos lit segs (c :: rest) = scan (pos + 1) (c :: lit) segs rest := by
  rw [scan] <;> simp [h₁, h₂]

theorem scan_unmatched {rest : List Char} (h : ∀ r, rest ≠ '\x7d' :: r) :
    scan pos lit segs ('\x7d' :: rest) = .error (.unmatchedClose pos) := by
  rw [scan]; simpa using h

/-- An opening brace that does not start `{{` and has no closing brace after it is left
unterminated. -/
theorem scan_open_none {rest : List Char} (h : ∀ r, rest ≠ '\x7b' :: r)
    (hs : splitAtClose rest = none) :
    scan pos lit segs ('\x7b' :: rest) = .error (.unterminated pos) := by
  rw [scan]
  · split <;> simp_all
  · simpa using h

/-- An opening brace whose body does not read is refused with the body's error. -/
theorem scan_open_malformed {rest body after : List Char} {e : SyntaxError}
    (h : ∀ r, rest ≠ '\x7b' :: r) (hs : splitAtClose rest = some (body, after))
    (hp : Spec.parseBody (String.ofList body) = .error e) :
    scan pos lit segs ('\x7b' :: rest) = .error (.malformed e pos) := by
  rw [scan]
  · split <;> simp_all
  · simpa using h

/-- An opening brace whose body reads as a specification closes a placeholder, and the scan goes
on after the closing brace. -/
theorem scan_open_field {rest body after : List Char} {s : Spec}
    (h : ∀ r, rest ≠ '\x7b' :: r) (hs : splitAtClose rest = some (body, after))
    (hp : Spec.parseBody (String.ofList body) = .ok s) :
    scan pos lit segs ('\x7b' :: rest) =
      scan (pos + body.length + 2) [] (.placeholder s pos :: flush lit segs) after := by
  rw [scan]
  · split <;> simp_all
  · simpa using h

theorem splitAtClose_eq_none_iff {cs : List Char} : splitAtClose cs = none ↔ '\x7d' ∉ cs := by
  induction cs with
  | nil => simp [splitAtClose]
  | cons c cs ih =>
    by_cases hc : c = '\x7d'
    · simp [splitAtClose, hc]
    · simp [splitAtClose, hc, ih, Ne.symm hc]

/-- A field's body ends at the first closing brace, and the scan goes on after it. -/
theorem scan_field {body : List Char} {s : Spec} (hl : (Lexeme.field body s).Valid)
    (rest : List Char) :
    scan pos lit segs ('\x7b' :: (body ++ '\x7d' :: rest)) =
      scan (pos + body.length + 2) [] (.placeholder s pos :: flush lit segs) rest := by
  have hnot : ∀ r, body ++ '\x7d' :: rest ≠ '\x7b' :: r := by
    intro r he
    cases body with
    | nil => simp at he
    | cons b body =>
      obtain ⟨rfl, -⟩ := List.cons.inj he
      exact hl.field_body body rfl
  exact scan_open_field hnot (splitAtClose_append hl.1 rest) hl.2

/-! ### The outcome of a scan state -/

/-- The segments a scan in state `lit`, `segs` ends with when the rest of its text stands for the
tokens `toks`: the closed segments, then the grouping of the open run and `toks`. -/
def outcome (lit : List Char) (segs : List Segment) (toks : List Token) : List Segment :=
  segs.reverse ++ Token.group (lit.reverse.map .lit ++ toks)

theorem reverse_flush (lit : List Char) (segs : List Segment) :
    (flush lit segs).reverse = outcome lit segs [] := by
  rw [outcome, List.append_nil, Token.group_lits, flush]
  by_cases h : lit = [] <;> simp [h]

theorem outcome_lit (c : Char) (toks : List Token) :
    outcome lit segs (.lit c :: toks) = outcome (c :: lit) segs toks := by
  simp [outcome]

theorem outcome_hole (s : Spec) (o : Nat) (toks : List Token) :
    outcome lit segs (.hole s o :: toks) =
      outcome [] (.placeholder s o :: flush lit segs) toks := by
  rw [outcome, outcome, Token.group_append_hole, List.reverse_cons, reverse_flush, outcome]
  simp

/-- **The scan simulates the tokens.** Over valid lexemes, the scan reaches a state whose
outcome on any further tokens is that of the start state on the lexemes' tokens and those. -/
theorem scan_spelled_append {ls : List Lexeme} (hv : ∀ l ∈ ls, l.Valid) (rest : List Char) :
    ∃ lit' segs', scan pos lit segs (ls.flatMap Lexeme.chars ++ rest) =
        scan (pos + (ls.flatMap Lexeme.chars).length) lit' segs' rest ∧
      ∀ toks, outcome lit segs (Lexeme.tokens pos ls ++ toks) = outcome lit' segs' toks := by
  induction ls generalizing pos lit segs with
  | nil => exact ⟨lit, segs, by simp, fun _ => rfl⟩
  | cons l ls ih =>
    have hls : ∀ l ∈ ls, l.Valid := fun x hx => hv x (List.mem_cons_of_mem _ hx)
    have hl := hv l List.mem_cons_self
    simp only [List.flatMap_cons, List.append_assoc, List.length_append, Lexeme.tokens_cons,
      List.cons_append]
    cases l with
    | char c =>
      obtain ⟨lit', segs', hscan, hout⟩ := @ih (pos + 1) (c :: lit) segs hls
      refine ⟨lit', segs', ?_, fun toks => ?_⟩
      · rw [Lexeme.chars, List.singleton_append, scan_char hl.1 hl.2, hscan]
        simp [Lexeme.chars, Nat.add_assoc]
      · rw [Lexeme.token, outcome_lit]
        simpa [Lexeme.chars] using hout toks
    | openBrace =>
      obtain ⟨lit', segs', hscan, hout⟩ := @ih (pos + 2) ('\x7b' :: lit) segs hls
      refine ⟨lit', segs', ?_, fun toks => ?_⟩
      · simp only [Lexeme.chars, List.cons_append, List.nil_append]
        rw [scan_openBrace, hscan]
        simp [Nat.add_assoc]
      · rw [Lexeme.token, outcome_lit]
        simpa [Lexeme.chars] using hout toks
    | closeBrace =>
      obtain ⟨lit', segs', hscan, hout⟩ := @ih (pos + 2) ('\x7d' :: lit) segs hls
      refine ⟨lit', segs', ?_, fun toks => ?_⟩
      · simp only [Lexeme.chars, List.cons_append, List.nil_append]
        rw [scan_closeBrace, hscan]
        simp [Nat.add_assoc]
      · rw [Lexeme.token, outcome_lit]
        simpa [Lexeme.chars] using hout toks
    | field body s =>
      obtain ⟨lit', segs', hscan, hout⟩ := @ih (pos + body.length + 2) []
        (.placeholder s pos :: flush lit segs) hls
      refine ⟨lit', segs', ?_, fun toks => ?_⟩
      · simp only [Lexeme.chars, List.cons_append, List.append_assoc, List.nil_append]
        rw [scan_field hl, hscan]
        simp [Nat.add_assoc, Nat.add_comm 2]
      · rw [Lexeme.token, outcome_hole]
        simpa [Lexeme.chars, Nat.add_assoc] using hout toks

/-! ### Where no lexeme fits -/

/-- The ways a text `cs`, at offset `pos`, fails to start with a lexeme, with the error each is
reported by. -/
inductive Stuck (pos : Nat) : List Char → ReadError → Prop where
  /-- A closing brace that is not doubled. -/
  | unmatched {rest : List Char} : (∀ r, rest ≠ '\x7d' :: r) →
      Stuck pos ('\x7d' :: rest) (.unmatchedClose pos)
  /-- An opening brace that is not doubled, with no closing brace after it. -/
  | unterminated {rest : List Char} : (∀ r, rest ≠ '\x7b' :: r) → '\x7d' ∉ rest →
      Stuck pos ('\x7b' :: rest) (.unterminated pos)
  /-- An opening brace that is not doubled, whose body up to the next closing brace does not
  read. -/
  | malformed {body rest : List Char} {e : SyntaxError} : (∀ r, body ≠ '\x7b' :: r) →
      '\x7d' ∉ body → Spec.parseBody (String.ofList body) = .error e →
      Stuck pos ('\x7b' :: (body ++ '\x7d' :: rest)) (.malformed e pos)

theorem Stuck.scan_eq {cs : List Char} {e : ReadError} (h : Stuck pos cs e) :
    scan pos lit segs cs = .error e := by
  cases h with
  | unmatched hr => exact scan_unmatched hr
  | unterminated hr hc => exact scan_open_none hr (splitAtClose_eq_none_iff.2 hc)
  | @malformed body rest e hb hc hp =>
    have hnot : ∀ r, body ++ '\x7d' :: rest ≠ '\x7b' :: r := by
      intro r he
      cases body with
      | nil => simp at he
      | cons b body =>
        obtain ⟨rfl, -⟩ := List.cons.inj he
        exact hb body rfl
    exact scan_open_malformed hnot (splitAtClose_append hc rest) hp

/-- **Every text is valid lexemes, then the end or a stuck point.** The case split is the
scan's own. -/
theorem spelled_or_stuck (pos : Nat) (cs : List Char) :
    ∃ (ls : List Lexeme) (bad : List Char), (∀ l ∈ ls, l.Valid) ∧
      cs = ls.flatMap Lexeme.chars ++ bad ∧
      (bad = [] ∨ ∃ e, Stuck (pos + (ls.flatMap Lexeme.chars).length) bad e) := by
  refine scan.induct (motive := fun pos _ _ cs =>
      ∃ (ls : List Lexeme) (bad : List Char), (∀ l ∈ ls, l.Valid) ∧
      cs = ls.flatMap Lexeme.chars ++ bad ∧
      (bad = [] ∨ ∃ e, Stuck (pos + (ls.flatMap Lexeme.chars).length) bad e))
    ?_ ?_ ?_ ?_ ?_ ?_ ?_ ?_ pos [] [] cs
  · intro pos _ _
    exact ⟨[], [], by simp, by simp, .inl rfl⟩
  · rintro pos _ _ rest ⟨ls, bad, hv, rfl, hb⟩
    refine ⟨.openBrace :: ls, bad, ?_, by simp [Lexeme.chars], ?_⟩
    · exact List.forall_mem_cons.2 ⟨trivial, hv⟩
    · simpa [Lexeme.chars, Nat.add_assoc, Nat.add_comm 2] using hb
  · rintro pos _ _ rest ⟨ls, bad, hv, rfl, hb⟩
    refine ⟨.closeBrace :: ls, bad, ?_, by simp [Lexeme.chars], ?_⟩
    · exact List.forall_mem_cons.2 ⟨trivial, hv⟩
    · simpa [Lexeme.chars, Nat.add_assoc, Nat.add_comm 2] using hb
  · intro pos _ _ tail htail
    exact ⟨[], _, by simp, by simp, .inr ⟨_, .unmatched fun r he => htail r he⟩⟩
  · intro pos _ _ rest hrest hnone
    exact ⟨[], _, by simp, by simp,
      .inr ⟨_, .unterminated (fun r he => hrest r he) (splitAtClose_eq_none_iff.1 hnone)⟩⟩
  · intro pos _ _ rest hrest body after hsplit _ e hparse
    obtain ⟨hbody, rfl⟩ := eq_of_splitAtClose hsplit
    -- a body starting with `{` would have made the opening brace an escape
    have hb : ∀ r, body ≠ '\x7b' :: r := by
      rintro r rfl
      exact hrest _ rfl
    exact ⟨[], '\x7b' :: (body ++ '\x7d' :: after), by simp, by simp,
      .inr ⟨_, .malformed hb hbody hparse⟩⟩
  · rintro pos _ _ rest hrest body after hsplit _ s hparse ⟨ls, bad, hv, rfl, hb⟩
    obtain ⟨hbody, rfl⟩ := eq_of_splitAtClose hsplit
    refine ⟨.field body s :: ls, bad, ?_, by simp [Lexeme.chars], ?_⟩
    · exact List.forall_mem_cons.2 ⟨⟨hbody, hparse⟩, hv⟩
    · simpa [Lexeme.chars, Nat.add_assoc, Nat.add_comm 2] using hb
  · rintro pos _ _ c rest _ _ hc₁ hc₂ ⟨ls, bad, hv, rfl, hb⟩
    refine ⟨.char c :: ls, bad, ?_, by simp [Lexeme.chars], ?_⟩
    · exact List.forall_mem_cons.2 ⟨⟨hc₂, hc₁⟩, hv⟩
    · simpa [Lexeme.chars, Nat.add_assoc, Nat.add_comm 1] using hb

/-- The scan succeeds exactly on spelled texts, with the outcome of their tokens. -/
theorem scan_eq_ok_iff {cs : List Char} {out : List Segment} :
    scan pos lit segs cs = .ok out ↔
      ∃ ls, Lexeme.Spells ls cs ∧ out = outcome lit segs (Lexeme.tokens pos ls) := by
  constructor
  · intro h
    obtain ⟨ls, bad, hv, rfl, hb⟩ := spelled_or_stuck pos cs
    obtain ⟨lit', segs', hscan, hout⟩ := @scan_spelled_append pos lit segs _
      hv bad
    rw [hscan] at h
    rcases hb with rfl | ⟨e, hstuck⟩
    · rw [scan_nil, reverse_flush, ← hout, List.append_nil] at h
      exact ⟨ls, ⟨hv, by simp⟩, (Except.ok.inj h).symm⟩
    · rw [hstuck.scan_eq] at h
      cases h
  · rintro ⟨ls, ⟨hv, rfl⟩, rfl⟩
    obtain ⟨lit', segs', hscan, hout⟩ := @scan_spelled_append pos lit segs _
      hv []
    rw [List.append_nil] at hscan
    rw [hscan, scan_nil, reverse_flush, ← hout, List.append_nil]

/-- The scan fails exactly where valid lexemes run into a stuck point, with its error. -/
theorem scan_eq_error_iff {cs : List Char} {e : ReadError} :
    scan pos lit segs cs = .error e ↔
      ∃ (ls : List Lexeme) (bad : List Char), (∀ l ∈ ls, l.Valid) ∧
        cs = ls.flatMap Lexeme.chars ++ bad ∧
        Stuck (pos + (ls.flatMap Lexeme.chars).length) bad e := by
  constructor
  · intro h
    obtain ⟨ls, bad, hv, rfl, hb⟩ := spelled_or_stuck pos cs
    obtain ⟨lit', segs', hscan, -⟩ := @scan_spelled_append pos lit segs _
      hv bad
    rw [hscan] at h
    rcases hb with rfl | ⟨e', hstuck⟩
    · rw [scan_nil] at h
      cases h
    · rw [hstuck.scan_eq] at h
      cases h
      exact ⟨ls, bad, hv, rfl, hstuck⟩
  · rintro ⟨ls, bad, hv, rfl, hstuck⟩
    obtain ⟨lit', segs', hscan, -⟩ := @scan_spelled_append pos lit segs _
      hv bad
    rw [hscan, hstuck.scan_eq]

theorem outcome_start (toks : List Token) : outcome [] [] toks = Token.group toks := rfl

theorem read_eq_ok_iff_scan {s : String} {t : Template} :
    read s = .ok t ↔ scan 0 [] [] s.toList = .ok t.segments := by
  rw [read]
  cases scan 0 [] [] s.toList with
  | error e => simp [Except.map]
  | ok segs =>
    simp only [Except.map, Except.ok.injEq]
    exact ⟨fun h => h ▸ rfl, fun h => h ▸ rfl⟩

theorem read_eq_error_iff_scan {s : String} {e : ReadError} :
    read s = .error e ↔ scan 0 [] [] s.toList = .error e := by
  rw [read]
  cases scan 0 [] [] s.toList <;> simp [Except.map]

/-- Reading succeeds exactly on spelled texts, and returns the grouping of their tokens. -/
theorem read_eq_ok_iff {s : String} {t : Template} :
    read s = .ok t ↔
      ∃ ls, Lexeme.Spells ls s.toList ∧ t.segments = Token.group (Lexeme.tokens 0 ls) := by
  rw [read_eq_ok_iff_scan, scan_eq_ok_iff]
  rfl

/-- Reading fails exactly where valid lexemes run into a stuck point, with its error. -/
theorem read_eq_error_iff {s : String} {e : ReadError} :
    read s = .error e ↔
      ∃ (ls : List Lexeme) (bad : List Char), (∀ l ∈ ls, l.Valid) ∧
        s.toList = ls.flatMap Lexeme.chars ++ bad ∧
        Stuck (ls.flatMap Lexeme.chars).length bad e := by
  rw [read_eq_error_iff_scan, scan_eq_error_iff]
  simp

/-- **Reading, in terms of lexemes.** A template text reads exactly when it has a spelling by
valid lexemes, and that spelling is unique. The template read is then normalised and stands for
the spelling's tokens: its literal segments are the maximal runs of decoded characters, and each
field gives a placeholder at the offset of its opening brace. -/
theorem read_ok_iff_spelled (s : String) :
    ((∃ t, read s = .ok t) ↔ ∃ ls, Lexeme.Spells ls s.toList) ∧
    (∀ ls ls', Lexeme.Spells ls s.toList → Lexeme.Spells ls' s.toList → ls = ls') ∧
    (∀ t ls, read s = .ok t → Lexeme.Spells ls s.toList →
      Segment.Normalised t.segments ∧ Segment.flatTokens t.segments = Lexeme.tokens 0 ls) := by
  refine ⟨⟨?_, ?_⟩, fun ls ls' h h' => h.unique h', ?_⟩
  · rintro ⟨t, ht⟩
    obtain ⟨ls, hls, -⟩ := read_eq_ok_iff.1 ht
    exact ⟨ls, hls⟩
  · rintro ⟨ls, hls⟩
    exact ⟨⟨Token.group (Lexeme.tokens 0 ls)⟩, read_eq_ok_iff.2 ⟨ls, hls, rfl⟩⟩
  · intro t ls ht hls
    obtain ⟨ls', hls', hsegs⟩ := read_eq_ok_iff.1 ht
    obtain rfl := hls'.unique hls
    rw [hsegs]
    exact ⟨Token.normalised_group _, Token.flatTokens_group _⟩

end Template

end BraceFormat
