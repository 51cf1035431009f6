import BraceFormat.Proofs.Numerals
/-!
# Reading a specification back from its canonical text

Every specification is spelled by a canonical text (`Spec.directiveChars`, `Spec.bodyChars`),
and the reader of placeholder bodies gives the specification back from it, provided the
specification is *well formed*:

* every name in it (the value's, the width's, the precision's) is a name the reader takes whole:
  a name start, then name characters;
* every position and literal count has at most `digitLimit` digits, the most the reader takes;
* the width is not `*`, which the reader only knows as a precision;
* it does not combine no zero flag with the literal width `0`, whose text `0` is the zero flag.

The reader runs through the directives one reader at a time, each taking a prefix and leaving the
rest, so the proof is a chain of lemmas of one shape: a reader applied to a canonical piece
followed by any rest whose first character it cannot take returns the piece's value and that
rest. What can follow each piece is a small set of characters, and the text decides the rest.
Two places need care. A `0` right after the flags is the zero flag unless a `$` follows it, so a
position `0` as the width (`0$`) survives, and a literal width `0` without the zero flag does
not. A bare name where a width could stand is backed out of, which is what lets the conversion
letters (`x`, `e`, ...) follow the flags directly.

The spelling writes positions and literal counts of any length (`Selector.spelling`,
`Count.spelling`). The canonical texts themselves (`Spec.directives`, `Spec.placeholder`) refuse a
number past the digit limit, so they are made exactly for the well-formed specifications among
those with such numbers, and are then the spelling.

The converse holds as well: every specification the reader gives is well formed. A literal width
`0` can only be read from a run of zeros, whose first `0` the zero flag takes unless `$` follows.

## Main definitions

* `Spec.IsName`: a name the reader takes whole.
* `Selector.Readable`, `Count.Readable`, `Spec.WellFormed`: the specifications with a round trip.
* `Selector.spelling`, `Count.spelling`: selectors and counts spelled whatever their length.
* `Spec.directiveChars`, `Spec.bodyChars`: the canonical texts as characters.

## Main results

* `Spec.directives_of_wellFormed`, `Spec.placeholder_of_wellFormed`: the canonical texts of a
  well-formed specification are made, and spell it.
* `Spec.readArgument_index`, `Spec.readArgument_name`: arguments read back.
* `Spec.readDirectives_directiveChars`: the directives read back.
* `Spec.parseBody_bodyChars`, `Spec.parseDirectives_directiveChars`: the round trips.
* `Spec.close_not_mem_bodyChars`: a canonical body has no closing brace.
* `Spec.wellFormed_of_parseBody`: every specification read is well formed.
-/

namespace BraceFormat

namespace Text

/-- No ASCII digit starts a name: the digits lie below the first letter. -/
theorem isNameStart_of_isDigit {c : Char} (h : c.isDigit = true) : isNameStart c = false := by
  have hrange := Char.isDigit_iff_toNat.1 h
  have hdigits : ∀ n < 58, 48 ≤ n → letterTable.contains n = false := by decide
  have hlt : c.toNat < 58 := by simpa using Nat.lt_succ_of_le hrange.2
  have hle : 48 ≤ c.toNat := by simpa using hrange.1
  have hne : c ≠ '_' := fun he => by subst he; simp at hle hlt
  simp [isNameStart, isLetter, hdigits _ hlt hle, hne]

end Text

/-- A name that the reader takes whole: a name start, then name characters. -/
def Spec.IsName (n : String) : Prop :=
  ∃ c cs, n.toList = c :: cs ∧ Text.isNameStart c = true ∧ ∀ d ∈ cs, Text.isNameChar d = true

/-- A selector whose text reads back as itself: a name is a name, a position has at most
`digitLimit` digits. -/
def Selector.Readable : Selector → Prop
  | .next => True
  | .index i => i < 10 ^ digitLimit
  | .name n => Spec.IsName n

/-- A count whose text reads back as itself. -/
def Count.Readable : Count → Prop
  | .literal n => n < 10 ^ digitLimit
  | .given s => s.Readable

/-- The specifications that the reader gives back from their canonical text. -/
structure Spec.WellFormed (s : Spec) : Prop where
  value : s.value.Readable
  width : ∀ c ∈ s.width, c.Readable
  precision : ∀ c ∈ s.precision, c.Readable
  width_ne_next : s.width ≠ some (.given .next)
  zero_width : s.zeroPad = false → s.width ≠ some (.literal 0)

/-- A selector as written in a template, its position spelled whatever its number of digits. -/
def Selector.spelling : Selector → String
  | .next => ""
  | .index i => Numeral.decimal i
  | .name n => n

/-- A count as written in a template, its number spelled whatever its number of digits. -/
def Count.spelling : Count → String
  | .literal n => Numeral.decimal n
  | .given .next => "*"
  | .given s => s.spelling ++ "$"

/-- A readable selector's text is made, and is its spelling. -/
theorem Selector.text_of_readable {a : Selector} (ha : a.Readable) : a.text = .ok a.spelling := by
  cases a with
  | next => rfl
  | index i => exact Integer.write_natCast ha
  | name n => rfl

/-- A readable count's text is made, and is its spelling. -/
theorem Count.text_of_readable {c : Count} (hc : c.Readable) : c.text = .ok c.spelling := by
  cases c with
  | literal n => exact Integer.write_natCast hc
  | given a =>
    cases a with
    | next => rfl
    | index i =>
      simp [Count.text, Count.spelling, @Selector.text_of_readable (.index i) hc, Functor.map,
        Except.map]
    | name n => rfl

/-- A count given by a selector other than `next` is written as the selector, then `$`. -/
theorem Count.toList_given_spelling {a : Selector} (hne : a ≠ .next) :
    (Count.given a).spelling.toList = a.spelling.toList ++ ['$'] := by
  cases a with
  | next => exact absurd rfl hne
  | _ => simp [Count.spelling, String.toList_append]

namespace Spec

/-- A run of `p`-characters followed by a rest that does not start with one splits there. -/
theorem takeWhile_dropWhile_append {p : Char → Bool} {cs rest : List Char}
    (hcs : ∀ c ∈ cs, p c = true) (hr : ∀ c ∈ rest.head?, p c = false) :
    (cs ++ rest).takeWhile p = cs ∧ (cs ++ rest).dropWhile p = rest := by
  rw [List.takeWhile_append_of_pos hcs, List.dropWhile_append_of_pos hcs]
  cases rest with
  | nil => simp
  | cons c r =>
    have hc : p c = false := hr c rfl
    simp [List.takeWhile_cons_of_neg, List.dropWhile_cons_of_neg, hc]

/-! ### Arguments -/

/-- A position's numeral, followed by anything but a digit, reads back as the position. -/
theorem readArgument_index {i : Nat} (hi : i < 10 ^ digitLimit) {rest : List Char}
    (hr : ∀ c ∈ rest.head?, c.isDigit = false) :
    readArgument (Numeral.chars 10 false i ++ rest) = .ok (some (.index i, rest)) := by
  have hdig : ∀ d ∈ Numeral.chars 10 false i, d.isDigit = true :=
    fun d hd => Numeral.isDigit_of_mem_chars hd
  have hlen : (Numeral.chars 10 false i).length ≤ digitLimit :=
    (Numeral.length_chars_le_iff (by decide)).2 hi
  obtain ⟨c, cs, hcs⟩ := List.exists_cons_of_ne_nil (Numeral.chars_ne_nil i)
  rw [hcs] at hdig hlen
  have hc : c.isDigit = true := hdig c List.mem_cons_self
  obtain ⟨htake, hdrop⟩ := takeWhile_dropWhile_append
    (fun d hd => hdig d (List.mem_cons_of_mem c hd)) hr
  have hvalue := Numeral.digitsValue_chars i
  rw [hcs] at hvalue
  rw [hcs, List.cons_append, readArgument, if_pos hc, htake, if_neg (by omega), hdrop, hvalue]

/-- A name, followed by anything but a name character, reads back as the name. -/
theorem readArgument_name {n : String} (hn : IsName n) {rest : List Char}
    (hr : ∀ c ∈ rest.head?, Text.isNameChar c = false) :
    readArgument (n.toList ++ rest) = .ok (some (.name n, rest)) := by
  obtain ⟨c, cs, hnl, hstart, hchars⟩ := hn
  obtain ⟨htake, hdrop⟩ := takeWhile_dropWhile_append hchars hr
  have hdigit : c.isDigit = false := by
    cases hd : c.isDigit
    · rfl
    · rw [Text.isNameStart_of_isDigit hd] at hstart
      cases hstart
  rw [hnl, List.cons_append, readArgument, if_neg (by simp [hdigit]), if_pos hstart, htake, hdrop,
    ← hnl, String.ofList_toList]

/-- Nothing that starts neither a number nor a name is an argument. -/
theorem readArgument_of_head {cs : List Char}
    (h : ∀ c ∈ cs.head?, c.isDigit = false ∧ Text.isNameStart c = false) :
    readArgument cs = .ok none := by
  cases cs with
  | nil => rfl
  | cons c rest =>
    obtain ⟨hd, hs⟩ := h c rfl
    simp [readArgument, hd, hs]

/-- The text of a selector other than `next`, followed by a character that continues neither a
number nor a name, reads back as the selector. -/
theorem readArgument_spelling {s : Selector} (hs : s.Readable) (hne : s ≠ .next) {rest : List Char}
    (hr : ∀ c ∈ rest.head?, c.isDigit = false ∧ Text.isNameChar c = false) :
    readArgument (s.spelling.toList ++ rest) = .ok (some (s, rest)) := by
  cases s with
  | next => exact absurd rfl hne
  | index i =>
    rw [Selector.spelling, Numeral.toList_decimal]
    exact readArgument_index hs fun c hc => (hr c hc).1
  | name n => exact readArgument_name hs fun c hc => (hr c hc).2

/-- A run of more than `digitLimit` digits is refused, whatever follows it. -/
theorem readArgument_long {ds : List Char} (hds : ∀ d ∈ ds, d.isDigit = true)
    (hlong : digitLimit < ds.length) {rest : List Char}
    (hr : ∀ c ∈ rest.head?, c.isDigit = false) :
    readArgument (ds ++ rest) = .error (.longNumber ds.length, ds ++ rest) := by
  cases ds with
  | nil => simp at hlong
  | cons c cs =>
    have hc : c.isDigit = true := hds c List.mem_cons_self
    obtain ⟨htake, -⟩ := takeWhile_dropWhile_append
      (fun d hd => hds d (List.mem_cons_of_mem c hd)) hr
    rw [List.cons_append, readArgument, if_pos hc]
    dsimp only
    rw [htake, if_pos hlong]

/-- A `*` starts no argument. -/
theorem readArgument_star (r : List Char) : readArgument ('*' :: r) = .ok none := by
  have hstart : Text.isNameStart '*' = false := by decide
  simp [readArgument, hstart]

theorem ne_star_of_readArgument {cs : List Char} {x : Selector × List Char}
    (ha : readArgument cs = .ok (some x)) : ∀ r, cs ≠ '*' :: r := by
  rintro r rfl
  rw [readArgument_star] at ha
  cases ha

/-- The `$` after a count's selector ends the selector. -/
theorem dollar_ends_argument (rest : List Char) :
    ∀ c ∈ ('$' :: rest).head?, c.isDigit = false ∧ Text.isNameChar c = false := by
  intro c hc
  rw [List.head?_cons, Option.mem_def, Option.some.injEq] at hc
  subst hc
  decide

/-- The text of a count given by a selector other than `next`: the selector, then `$`. -/
theorem readArgument_given_spelling {a : Selector} (ha : a.Readable) (hne : a ≠ .next)
    (rest : List Char) :
    readArgument ((Count.given a).spelling.toList ++ rest) = .ok (some (a, '$' :: rest)) := by
  rw [Count.toList_given_spelling hne, List.append_assoc, List.singleton_append]
  exact readArgument_spelling ha hne (dollar_ends_argument rest)

/-! ### The directive readers, one stage at a time -/

theorem readAlign_append (a : Option Align) {rest : List Char}
    (hr : ∀ c ∈ rest.head?, c ∉ ['<', '^', '>']) :
    readAlign (a.toList.map Align.token ++ rest) = (a, rest) := by
  cases a with
  | some a => cases a <;> rfl
  | none =>
    cases rest with
    | nil => rfl
    | cons c r =>
      have hc := hr c rfl
      simp only [Option.toList_none, List.map_nil, List.nil_append]
      rw [readAlign]
      all_goals
        intro rest he
        simp_all

theorem readFlag_append (t : Char) (b : Bool) {rest : List Char} (hr : ∀ c ∈ rest.head?, c ≠ t) :
    readFlag t ((if b then [t] else []) ++ rest) = (b, rest) := by
  cases b with
  | true => simp [readFlag]
  | false =>
    cases rest with
    | nil => rfl
    | cons c r => simp [readFlag, hr c rfl]

theorem readZero_flag {rest : List Char} (hr : ∀ c ∈ rest.head?, c ≠ '$') :
    readZero ('0' :: rest) = (true, rest) := by
  cases rest with
  | nil => rfl
  | cons c r =>
    have hc := hr c rfl
    rw [readZero]
    intro rest he
    exact hc (List.cons.inj he).1

theorem readZero_of_head {cs : List Char} (h : ∀ c ∈ cs.head?, c ≠ '0') :
    readZero cs = (false, cs) := by
  cases cs with
  | nil => rfl
  | cons c r =>
    have hc := h c rfl
    rw [readZero]
    all_goals
      intro rest he
      exact hc (List.cons.inj he).1

theorem readZero_index_zero (rest : List Char) :
    readZero ('0' :: '$' :: rest) = (false, '0' :: '$' :: rest) := by
  rw [readZero]

theorem readWidth_index {cs rest : List Char} {i : Nat}
    (ha : readArgument cs = .ok (some (.index i, rest))) (hr : ∀ r, rest ≠ '$' :: r) :
    readWidth cs = .ok (some (.literal i), rest) := by
  simp [readWidth, ha, bind, Except.bind, pure, Except.pure]

theorem readWidth_given {cs rest : List Char} {a : Selector}
    (ha : readArgument cs = .ok (some (a, '$' :: rest))) :
    readWidth cs = .ok (some (.given a), rest) := by
  simp [readWidth, ha, bind, Except.bind, pure, Except.pure]

theorem readWidth_none {cs : List Char} (ha : readArgument cs = .ok none) :
    readWidth cs = .ok (none, cs) := by
  simp [readWidth, ha, bind, Except.bind, pure, Except.pure]

/-- A bare name where a width could stand is backed out of. -/
theorem readWidth_name {cs rest : List Char} {n : String}
    (ha : readArgument cs = .ok (some (.name n, rest))) (hr : ∀ r, rest ≠ '$' :: r) :
    readWidth cs = .ok (none, cs) := by
  simp only [readWidth, ha, bind, Except.bind]
  split <;> simp_all [pure, Except.pure]

theorem readPrecision_index {cs rest : List Char} {i : Nat}
    (ha : readArgument cs = .ok (some (.index i, rest))) (hr : ∀ r, rest ≠ '$' :: r) :
    readPrecision cs = .ok (.literal i, rest) := by
  rw [readPrecision]
  · simp [ha, bind, Except.bind, pure, Except.pure]
  · exact ne_star_of_readArgument ha

theorem readPrecision_given {cs rest : List Char} {a : Selector}
    (ha : readArgument cs = .ok (some (a, '$' :: rest))) :
    readPrecision cs = .ok (.given a, rest) := by
  rw [readPrecision]
  · simp [ha, bind, Except.bind, pure, Except.pure]
  · exact ne_star_of_readArgument ha

theorem ne_dollar_of_head {rest : List Char} (hr : ∀ c ∈ rest.head?, c.isDigit = false ∧ c ≠ '$') :
    ∀ r, rest ≠ '$' :: r := by
  rintro r rfl
  exact (hr '$' rfl).2 rfl

/-- A count's text, followed by anything but a digit or a `$`, reads back as a precision. -/
theorem readPrecision_spelling {p : Count} (hp : p.Readable) {rest : List Char}
    (hr : ∀ c ∈ rest.head?, c.isDigit = false ∧ c ≠ '$') :
    readPrecision (p.spelling.toList ++ rest) = .ok (p, rest) := by
  cases p with
  | literal n =>
    rw [Count.spelling, Numeral.toList_decimal]
    exact readPrecision_index (readArgument_index hp fun c hc => (hr c hc).1) (ne_dollar_of_head hr)
  | given a =>
    by_cases hne : a = .next
    · subst hne
      rfl
    · exact readPrecision_given (readArgument_given_spelling hp hne rest)

/-- Directives that start with a run of more than `digitLimit` digits, not led by `0`, are refused
at the run: it is taken for a width. -/
theorem readDirectives_long {ds : List Char} (hds : ∀ d ∈ ds, d.isDigit = true)
    (hlong : digitLimit < ds.length) (hzero : ∀ c ∈ ds.head?, c ≠ '0') {rest : List Char}
    (hr : ∀ c ∈ rest.head?, c.isDigit = false) (v : Selector) :
    readDirectives v (ds ++ rest) = .error (.longNumber ds.length, ds ++ rest) := by
  have hhead : ∀ c ∈ (ds ++ rest).head?, c ∉ ['<', '^', '>', '+', '#', '0'] := by
    intro c hc hm
    obtain ⟨d, ds', rfl⟩ :=
      List.exists_cons_of_ne_nil (List.ne_nil_of_length_pos (by omega : 0 < ds.length))
    rw [List.cons_append, List.head?_cons, Option.mem_def, Option.some.injEq] at hc
    subst hc
    have hd := hds d List.mem_cons_self
    have hne := hzero d rfl
    simp only [List.mem_cons, List.not_mem_nil, or_false] at hm
    rcases hm with rfl | rfl | rfl | rfl | rfl | rfl
    all_goals simp_all
  have h1 := @readAlign_append none (ds ++ rest) fun c hc => by
    have := hhead c hc
    simp_all
  have h2 := @readFlag_append '+' false (ds ++ rest) fun c hc => by
    have := hhead c hc
    simp_all
  have h3 := @readFlag_append '#' false (ds ++ rest) fun c hc => by
    have := hhead c hc
    simp_all
  have h4 : readZero (ds ++ rest) = (false, ds ++ rest) := readZero_of_head fun c hc => by
    have := hhead c hc
    simp_all
  have h5 : readWidth (ds ++ rest) = .error (.longNumber ds.length, ds ++ rest) := by
    simp [readWidth, readArgument_long hds hlong hr, bind, Except.bind]
  simp only [Option.toList_none, List.map_nil, List.nil_append, Bool.false_eq_true, if_false]
    at h1 h2 h3
  simp only [readDirectives, h1, h2, h3, h4, h5, bind, Except.bind]

theorem readConversion_token (k : Conversion) : readConversion k.token.toList = (k, []) := by
  cases k <;> rfl

/-! ### The canonical directives and what can start them -/

/-- The canonical precision and conversion, as characters. -/
def precisionChars (s : Spec) : List Char :=
  (match s.precision with | some p => '.' :: p.spelling.toList | none => []) ++
    s.conversion.token.toList

/-- The canonical directives from the width on, as characters. -/
def widthChars (s : Spec) : List Char :=
  (match s.width with | some w => w.spelling.toList | none => []) ++ precisionChars s

/-- The canonical directives as characters, one piece per directive. -/
def directiveChars (s : Spec) : List Char :=
  s.align.toList.map Align.token ++ (if s.plus then ['+'] else []) ++
    (if s.alternate then ['#'] else []) ++ (if s.zeroPad then ['0'] else []) ++ widthChars s

/-- A well-formed specification's canonical directives are made: its directive characters. -/
theorem directives_of_wellFormed {s : Spec} (hs : s.WellFormed) :
    s.directives = .ok (String.ofList (directiveChars s)) := by
  obtain ⟨v, a, pl, alt, z, w, p, k⟩ := s
  have hw : ∀ c, w = some c → c.text = .ok c.spelling :=
    fun c hc => Count.text_of_readable (hs.width c hc)
  have hp : ∀ c, p = some c → c.text = .ok c.spelling :=
    fun c hc => Count.text_of_readable (hs.precision c hc)
  clear hs
  cases a <;> cases w <;> cases p <;>
    simp_all [directives, Count.optionText, directiveChars, widthChars, precisionChars, bind,
      Except.bind, pure, Except.pure, Functor.map, Except.map, ← String.toList_inj,
      String.toList_append, apply_ite String.toList]

/-- The first character of a conversion token. -/
theorem head_token (k : Conversion) :
    ∀ c ∈ k.token.toList.head?, c ∈ ['?', 'b', 'o', 'x', 'X', 'e', 'E'] := by
  cases k <;> simp [Conversion.token]

theorem head_precisionChars (s : Spec) :
    ∀ c ∈ (precisionChars s).head?, c ∈ ['.', '?', 'b', 'o', 'x', 'X', 'e', 'E'] := by
  intro c hc
  cases hp : s.precision with
  | some p =>
    simp only [precisionChars, hp, List.cons_append, List.head?_cons, Option.mem_def,
      Option.some.injEq] at hc
    simp [← hc]
  | none =>
    simp only [precisionChars, hp, List.nil_append] at hc
    exact List.mem_cons_of_mem _ (head_token s.conversion c hc)

theorem head_precisionChars_not_digit (s : Spec) :
    ∀ c ∈ (precisionChars s).head?, c.isDigit = false ∧ c ≠ '$' := by
  have hchars : ∀ c ∈ ['.', '?', 'b', 'o', 'x', 'X', 'e', 'E'], c.isDigit = false ∧ c ≠ '$' := by
    simp
  exact fun c hc => hchars c (head_precisionChars s c hc)

/-- What can start the directives from the width on: a digit or a name start (a width), a `.`
(a precision), `?` (the debug conversion) or `*`. -/
def widthStart (c : Char) : Bool :=
  c.isDigit || Text.isNameStart c || c ∈ ['.', '?', '*']

/-- No flag, alignment or `$` starts a width, a precision or a conversion. -/
theorem not_mem_of_widthStart {c : Char} (h : widthStart c = true) :
    c ∉ ['<', '^', '>', '+', '#', '$'] := by
  intro hc
  simp only [List.mem_cons, List.not_mem_nil, or_false] at hc
  rcases hc with rfl | rfl | rfl | rfl | rfl | rfl <;> revert h <;> decide

theorem widthStart_of_precisionChars {s : Spec} {c : Char} (hc : c ∈ (precisionChars s).head?) :
    widthStart c = true := by
  have hmem := head_precisionChars s c hc
  simp only [List.mem_cons, List.not_mem_nil, or_false] at hmem
  rcases hmem with rfl | rfl | rfl | rfl | rfl | rfl | rfl | rfl <;> decide

theorem widthStart_of_selector {a : Selector} (ha : a.Readable) (hne : a ≠ .next) {c : Char}
    {rest : List Char} (hc : c ∈ (a.spelling.toList ++ rest).head?) : widthStart c = true := by
  cases a with
  | next => exact absurd rfl hne
  | index i =>
    obtain ⟨d, ds, hds⟩ := List.exists_cons_of_ne_nil (Numeral.chars_ne_nil i)
    rw [Selector.spelling, Numeral.toList_decimal, hds, List.cons_append, List.head?_cons,
      Option.mem_def, Option.some.injEq] at hc
    subst hc
    have hd : d ∈ Numeral.chars 10 false i := by simp [hds]
    simp [widthStart, Numeral.isDigit_of_mem_chars hd]
  | name n =>
    obtain ⟨d, ds, hnl, hstart, -⟩ := ha
    rw [Selector.spelling, hnl, List.cons_append, List.head?_cons, Option.mem_def,
      Option.some.injEq] at hc
    subst hc
    simp [widthStart, hstart]

theorem head_widthChars {s : Spec} (hs : s.WellFormed) :
    ∀ c ∈ (widthChars s).head?, c ∉ ['<', '^', '>', '+', '#', '$'] := by
  intro c hc
  apply not_mem_of_widthStart
  cases hw : s.width with
  | none =>
    simp only [widthChars, hw, List.nil_append] at hc
    exact widthStart_of_precisionChars hc
  | some w =>
    simp only [widthChars, hw] at hc
    cases w with
    | literal n =>
      have hsel : (Count.literal n).spelling.toList = (Selector.index n).spelling.toList := rfl
      rw [hsel] at hc
      exact @widthStart_of_selector (.index n) (hs.width _ hw) (fun h => by cases h) c _ hc
    | given a =>
      by_cases hne : a = .next
      · exact absurd (hne ▸ hw) hs.width_ne_next
      · rw [Count.toList_given_spelling hne, List.append_assoc, List.singleton_append] at hc
        exact widthStart_of_selector (hs.width _ hw) hne hc

/-- The first character of an optional flag `t` followed by `rest`. -/
theorem mem_head_ite_append {b : Bool} {t c : Char} {rest : List Char}
    (hc : c ∈ ((if b then [t] else []) ++ rest).head?) : c = t ∨ c ∈ rest.head? := by
  cases b with
  | true => exact Or.inl (by simpa using hc.symm)
  | false => exact Or.inr hc

/-! ### The directives read back -/

theorem readWidth_precisionChars (s : Spec) :
    readWidth (precisionChars s) = .ok (none, precisionChars s) := by
  cases hp : s.precision with
  | some p =>
    have hdot : readArgument ('.' :: (p.spelling.toList ++ s.conversion.token.toList)) = .ok none :=
      readArgument_of_head fun c hc => by
        rw [List.head?_cons, Option.mem_def, Option.some.injEq] at hc
        subst hc
        decide
    simp only [precisionChars, hp, List.cons_append]
    exact readWidth_none hdot
  | none =>
    -- a conversion letter reads as a bare name, which the width reader backs out of
    simp only [precisionChars, hp, List.nil_append]
    cases s.conversion <;> rfl

theorem readWidth_widthChars {s : Spec} (hs : s.WellFormed) :
    readWidth (widthChars s) = .ok (s.width, precisionChars s) := by
  have hr := head_precisionChars_not_digit s
  cases hw : s.width with
  | none =>
    simp only [widthChars, hw, List.nil_append]
    exact readWidth_precisionChars s
  | some w =>
    simp only [widthChars, hw]
    cases w with
    | literal n =>
      rw [Count.spelling, Numeral.toList_decimal]
      exact readWidth_index (readArgument_index (hs.width _ hw) fun c hc => (hr c hc).1)
        (ne_dollar_of_head hr)
    | given a =>
      have hne : a ≠ .next := fun he => hs.width_ne_next (he ▸ hw)
      exact readWidth_given (readArgument_given_spelling (hs.width _ hw) hne _)

/-- Without the zero flag, the width's text is left to the width reader: it starts with no `0`,
or it is the position `0` given as `0$`. -/
theorem readZero_widthChars {s : Spec} (hs : s.WellFormed) (hz : s.zeroPad = false) :
    readZero (widthChars s) = (false, widthChars s) := by
  have hchars : ∀ c ∈ ['.', '?', 'b', 'o', 'x', 'X', 'e', 'E'], c ≠ '0' := by simp
  cases hw : s.width with
  | none =>
    simp only [widthChars, hw, List.nil_append]
    exact readZero_of_head fun c hc => hchars c (head_precisionChars s c hc)
  | some w =>
    simp only [widthChars, hw]
    cases w with
    | literal n =>
      have hn : 0 < n := Nat.pos_of_ne_zero fun h0 => hs.zero_width hz (by rw [hw, h0])
      rw [Count.spelling, Numeral.toList_decimal]
      apply readZero_of_head
      rw [List.head?_append_of_ne_nil _ (Numeral.chars_ne_nil n)]
      exact Numeral.head_chars_ne_zero hn
    | given a =>
      have hne : a ≠ .next := fun he => hs.width_ne_next (he ▸ hw)
      rw [Count.toList_given_spelling hne, List.append_assoc, List.singleton_append]
      cases a with
      | next => exact absurd rfl hne
      | index i =>
        rw [Selector.spelling, Numeral.toList_decimal]
        rcases Nat.eq_zero_or_pos i with rfl | hi
        · exact readZero_index_zero _
        · apply readZero_of_head
          rw [List.head?_append_of_ne_nil _ (Numeral.chars_ne_nil i)]
          exact Numeral.head_chars_ne_zero hi
      | name n =>
        obtain ⟨d, ds, hnl, hstart, -⟩ := hs.width _ hw
        have hd : d ≠ '0' := by
          rintro rfl
          exact absurd hstart (by decide)
        apply readZero_of_head
        simpa [Selector.spelling, hnl] using hd

/-- **The directives read back.** The directive reader gives a well-formed specification back
from its canonical directives, the value aside. -/
theorem readDirectives_directiveChars {s : Spec} (hs : s.WellFormed) :
    readDirectives s.value (directiveChars s) = .ok s := by
  have hwidth := head_widthChars hs
  have hzeroHead : ∀ c ∈ ((if s.zeroPad then ['0'] else []) ++ widthChars s).head?,
      c ∉ ['<', '^', '>', '+', '#'] := by
    intro c hc
    rcases mem_head_ite_append hc with rfl | hc
    · decide
    · have := hwidth c hc
      simp_all
  have haltHead : ∀ c ∈ ((if s.alternate then ['#'] else []) ++
      ((if s.zeroPad then ['0'] else []) ++ widthChars s)).head?, c ∉ ['<', '^', '>', '+'] := by
    intro c hc
    rcases mem_head_ite_append hc with rfl | hc
    · decide
    · have := hzeroHead c hc
      simp_all
  have hplusHead : ∀ c ∈ ((if s.plus then ['+'] else []) ++ ((if s.alternate then ['#'] else []) ++
      ((if s.zeroPad then ['0'] else []) ++ widthChars s))).head?, c ∉ ['<', '^', '>'] := by
    intro c hc
    rcases mem_head_ite_append hc with rfl | hc
    · decide
    · have := haltHead c hc
      simp_all
  have h1 := readAlign_append s.align hplusHead
  have h2 := readFlag_append '+' s.plus fun c hc => by
    have := haltHead c hc
    simp_all
  have h3 := readFlag_append '#' s.alternate fun c hc => by
    have := hzeroHead c hc
    simp_all
  have h4 : readZero ((if s.zeroPad then ['0'] else []) ++ widthChars s) =
      (s.zeroPad, widthChars s) := by
    cases hz : s.zeroPad with
    | true =>
      exact readZero_flag fun c hc => by
        have := hwidth c hc
        simp_all
    | false => exact readZero_widthChars hs hz
  have h5 := readWidth_widthChars hs
  have h7 := readConversion_token s.conversion
  simp only [directiveChars, List.append_assoc] at h1 ⊢
  cases hp : s.precision with
  | some p =>
    have h6 : readPrecision (p.spelling.toList ++ s.conversion.token.toList) =
        .ok (p, s.conversion.token.toList) :=
      readPrecision_spelling (hs.precision p hp) fun c hc => by
        have hchars : ∀ c ∈ ['?', 'b', 'o', 'x', 'X', 'e', 'E'], c.isDigit = false ∧ c ≠ '$' := by
          simp
        exact hchars c (head_token s.conversion c hc)
    simp only [precisionChars, hp, List.cons_append] at h5
    simp only [readDirectives, h1, h2, h3, h4, h5, h6, h7, bind, Except.bind, pure, Except.pure]
    rw [← hp]
  | none =>
    have hdot : ∀ r, s.conversion.token.toList ≠ '.' :: r := by
      intro r he
      have hmem := head_token s.conversion '.' (by rw [he]; rfl)
      exact absurd hmem (by decide)
    simp only [precisionChars, hp, List.nil_append] at h5
    simp only [readDirectives, h1, h2, h3, h4, h5, bind, Except.bind, pure, Except.pure]
    rw [h7, ← hp]

/-- **The directive round trip.** A well-formed specification with an implicit value is read back
from its canonical directives. -/
theorem parseDirectives_directiveChars {s : Spec} (hs : s.WellFormed) (hv : s.value = .next) :
    parseDirectives (String.ofList (directiveChars s)) = .ok s := by
  have hread := readDirectives_directiveChars hs
  rw [hv] at hread
  rw [parseDirectives, String.toList_ofList, hread]
  rfl

/-! ### The body read back -/

/-- The canonical body of a placeholder, between its braces, as characters: the value's text,
then `:` and the directives when there are any. -/
def bodyChars (s : Spec) : List Char :=
  s.value.spelling.toList ++ if directiveChars s = [] then [] else ':' :: directiveChars s

/-- A well-formed specification's canonical placeholder is made: its body between braces. -/
theorem placeholder_of_wellFormed {s : Spec} (hs : s.WellFormed) :
    s.placeholder = .ok (String.ofList ('\x7b' :: (bodyChars s ++ ['\x7d']))) := by
  have hempty : (String.ofList (directiveChars s)).isEmpty = true ↔ directiveChars s = [] := by
    rw [String.isEmpty_iff, ← String.toList_inj, String.toList_ofList, String.toList_empty]
  simp only [placeholder, directives_of_wellFormed hs, Selector.text_of_readable hs.value, bind,
    Except.bind, pure, Except.pure, Except.ok.injEq, ← String.toList_inj]
  by_cases h : directiveChars s = []
  · simp [bodyChars, h, String.toList_append]
  · have hne : (String.ofList (directiveChars s)).isEmpty = false :=
      Bool.eq_false_iff.2 fun he => h (hempty.1 he)
    simp [bodyChars, h, hne, String.toList_append]

theorem readDirectives_nil (v : Selector) : readDirectives v [] = .ok { value := v } := rfl

/-- A well-formed specification with no directives has every directive at its default. -/
theorem eq_of_directiveChars_eq_nil {s : Spec} (hs : s.WellFormed) (h : directiveChars s = []) :
    s = { value := s.value } := by
  have hread := readDirectives_directiveChars hs
  rw [h, readDirectives_nil] at hread
  exact (Except.ok.inj hread).symm

/-- A value's text with nothing after it reads as a specification without directives. -/
theorem readBody_value {a : Selector} (ha : a.Readable) :
    readBody a.spelling.toList = .ok { value := a } := by
  by_cases hne : a = .next
  · subst hne
    rfl
  · have hread := @readArgument_spelling a ha hne [] (by simp)
    rw [List.append_nil] at hread
    simp [readBody, hread, bind, Except.bind, pure, Except.pure]

/-- A value's text then `:` hands what follows to the directive reader. -/
theorem readBody_value_directives {a : Selector} (ha : a.Readable) (cs : List Char) :
    readBody (a.spelling.toList ++ ':' :: cs) = readDirectives a cs := by
  have hcolon : Text.isNameStart ':' = false := by decide
  by_cases hne : a = .next
  · subst hne
    simp [readBody, readArgument, Selector.spelling, hcolon, bind, Except.bind]
  · have hstop : ∀ c ∈ (':' :: cs).head?, c.isDigit = false ∧ Text.isNameChar c = false := by
      intro c hc
      rw [List.head?_cons, Option.mem_def, Option.some.injEq] at hc
      subst hc
      decide
    simp [readBody, readArgument_spelling ha hne hstop, bind, Except.bind]

/-- **The body reads back.** A well-formed specification is read back from its canonical
body. -/
theorem readBody_bodyChars {s : Spec} (hs : s.WellFormed) : readBody (bodyChars s) = .ok s := by
  by_cases h : directiveChars s = []
  · simp only [bodyChars, h, if_true, List.append_nil]
    rw [readBody_value hs.value, ← eq_of_directiveChars_eq_nil hs h]
  · simp only [bodyChars, h, if_false]
    rw [readBody_value_directives hs.value]
    exact readDirectives_directiveChars hs

/-- **The body round trip.** -/
theorem parseBody_bodyChars {s : Spec} (hs : s.WellFormed) :
    parseBody (String.ofList (bodyChars s)) = .ok s := by
  rw [parseBody, String.toList_ofList, readBody_bodyChars hs]
  rfl

/-! ### No closing brace in a canonical body -/

theorem close_not_mem_spelling {a : Selector} (ha : a.Readable) : '\x7d' ∉ a.spelling.toList := by
  intro hc
  cases a with
  | next => simp [Selector.spelling] at hc
  | index i =>
    rw [Selector.spelling, Numeral.toList_decimal] at hc
    exact absurd (Numeral.isDigit_of_mem_chars hc) (by decide)
  | name n =>
    obtain ⟨d, ds, hnl, hstart, hchars⟩ := ha
    rw [Selector.spelling, hnl, List.mem_cons] at hc
    rcases hc with rfl | hc
    · exact absurd hstart (by decide)
    · exact absurd (hchars _ hc) (by decide)

theorem close_not_mem_count {c : Count} (hc : c.Readable) : '\x7d' ∉ c.spelling.toList := by
  cases c with
  | literal n => exact @close_not_mem_spelling (.index n) hc
  | given a =>
    by_cases hne : a = .next
    · subst hne
      decide
    · rw [Count.toList_given_spelling hne, List.mem_append, not_or]
      exact ⟨close_not_mem_spelling hc, by decide⟩

theorem close_not_mem_bodyChars {s : Spec} (hs : s.WellFormed) : '\x7d' ∉ bodyChars s := by
  have hvalue := close_not_mem_spelling hs.value
  have hwidth : ∀ w ∈ s.width, '\x7d' ∉ w.spelling.toList :=
    fun w hw => close_not_mem_count (hs.width w hw)
  have hprec : ∀ p ∈ s.precision, '\x7d' ∉ p.spelling.toList :=
    fun p hp => close_not_mem_count (hs.precision p hp)
  have htoken : '\x7d' ∉ s.conversion.token.toList := by cases s.conversion <;> decide
  have halign : ∀ a ∈ s.align, a.token ≠ '\x7d' := by
    intro a _
    cases a <;> decide
  intro hc
  rw [bodyChars, List.mem_append] at hc
  rcases hc with hc | hc
  · exact hvalue hc
  · split at hc
    · exact List.not_mem_nil hc
    · simp only [List.mem_cons, directiveChars, widthChars, precisionChars, List.mem_append] at hc
      rcases hc with hc | (((hc | hc) | hc) | hc) | hc | hc | hc
      · exact absurd hc (by decide)
      · obtain ⟨a, ha, he⟩ := List.mem_map.1 hc
        exact halign a (Option.mem_toList.1 ha) he
      · split at hc <;> simp_all
      · split at hc <;> simp_all
      · split at hc <;> simp_all
      · split at hc
        · exact hwidth _ ‹_› hc
        · exact List.not_mem_nil hc
      · split at hc
        · rw [List.mem_cons] at hc
          rcases hc with hc | hc
          · exact absurd hc (by decide)
          · exact hprec _ ‹_› hc
        · exact List.not_mem_nil hc
      · exact htoken hc

/-! ### Every specification read is well formed -/

/-- Every argument read is a position within the digit limit or a name the reader takes whole. -/
theorem readable_of_readArgument {cs rest : List Char} {a : Selector}
    (h : readArgument cs = .ok (some (a, rest))) : a.Readable ∧ a ≠ .next := by
  cases cs with
  | nil => cases h
  | cons c cs =>
    rw [readArgument] at h
    by_cases hd : c.isDigit = true
    · rw [if_pos hd] at h
      by_cases hlong : digitLimit < (c :: cs.takeWhile Char.isDigit).length
      · rw [if_pos hlong] at h
        cases h
      · rw [if_neg hlong] at h
        obtain ⟨rfl, -⟩ := Prod.mk.inj (Option.some.inj (Except.ok.inj h))
        have hdigits : ∀ d ∈ c :: cs.takeWhile Char.isDigit, d.isDigit = true := by
          intro d hdm
          rcases List.mem_cons.1 hdm with rfl | hdm
          · exact hd
          · exact List.all_eq_true.1 List.all_takeWhile d hdm
        refine ⟨?_, fun he => by cases he⟩
        calc digitsValue (c :: cs.takeWhile Char.isDigit)
            < 10 ^ (c :: cs.takeWhile Char.isDigit).length := digitsValue_lt hdigits
          _ ≤ 10 ^ digitLimit := Nat.pow_le_pow_right (by decide) (Nat.le_of_not_lt hlong)
    · rw [if_neg hd] at h
      by_cases hstart : Text.isNameStart c = true
      · rw [if_pos hstart] at h
        obtain ⟨rfl, -⟩ := Prod.mk.inj (Option.some.inj (Except.ok.inj h))
        refine ⟨⟨c, cs.takeWhile Text.isNameChar, String.toList_ofList, hstart, ?_⟩,
          fun he => by cases he⟩
        exact fun d hdm => List.all_eq_true.1 List.all_takeWhile d hdm
      · rw [if_neg hstart] at h
        cases h

/-- A position is read from a digit run: its first digit, the rest of the run, and what follows. -/
theorem readArgument_index_inv {cs rest : List Char} {i : Nat}
    (h : readArgument cs = .ok (some (.index i, rest))) :
    ∃ c tail, cs = c :: tail ∧ c.isDigit = true ∧
      i = digitsValue (c :: tail.takeWhile Char.isDigit) ∧ rest = tail.dropWhile Char.isDigit := by
  cases cs with
  | nil => cases h
  | cons c tail =>
    refine ⟨c, tail, rfl, ?_⟩
    rw [readArgument] at h
    by_cases hd : c.isDigit = true
    · rw [if_pos hd] at h
      dsimp only at h
      split at h
      · cases h
      · simp only [Except.ok.injEq, Option.some.injEq, Prod.mk.injEq, Selector.index.injEq] at h
        exact ⟨hd, h.1.symm, h.2.symm⟩
    · rw [if_neg hd] at h
      split at h
      · simp at h
      · cases h

theorem readWidth_sound {cs rest : List Char} {w : Option Count}
    (h : readWidth cs = .ok (w, rest)) :
    (∀ c ∈ w, c.Readable) ∧ w ≠ some (.given .next) ∧
      (w = some (.literal 0) → ∃ r, cs = '0' :: r ∧ ∀ r', r ≠ '$' :: r') := by
  cases ha : readArgument cs with
  | error e => simp [readWidth, ha, bind, Except.bind] at h
  | ok o =>
    simp only [readWidth, ha, bind, Except.bind] at h
    split at h
    · simp only [pure, Except.pure, Except.ok.injEq, Prod.mk.injEq] at h
      obtain ⟨rfl, -⟩ := h
      obtain ⟨hread, hne⟩ := readable_of_readArgument ha
      refine ⟨fun c hc => ?_, fun he => hne ?_, fun he => ?_⟩
      · cases hc
        exact hread
      · simpa using he
      · cases he
    · rename_i i r hr
      simp only [pure, Except.pure, Except.ok.injEq, Prod.mk.injEq] at h
      obtain ⟨rfl, -⟩ := h
      refine ⟨fun c hc => ?_, fun he => (by cases he), fun he => ?_⟩
      · cases hc
        exact (readable_of_readArgument ha).1
      · obtain rfl : i = 0 := by simpa using he
        obtain ⟨c, tail, rfl, hc, hval, hrest⟩ := readArgument_index_inv ha
        refine ⟨tail, by rw [eq_zero_of_digitsValue hc hval.symm], ?_⟩
        rintro r' rfl
        exact hr r' (by rw [hrest]; rfl)
    · simp only [pure, Except.pure, Except.ok.injEq, Prod.mk.injEq] at h
      obtain ⟨rfl, -⟩ := h
      exact ⟨fun c hc => (by cases hc), fun he => (by cases he), fun he => (by cases he)⟩

theorem readPrecision_sound {cs rest : List Char} {p : Count}
    (h : readPrecision cs = .ok (p, rest)) : p.Readable := by
  unfold readPrecision at h
  split at h
  · simp only [Except.ok.injEq, Prod.mk.injEq] at h
    obtain ⟨rfl, -⟩ := h
    trivial
  · cases ha : readArgument cs with
    | error e => simp [ha, bind, Except.bind] at h
    | ok o =>
      simp only [ha, bind, Except.bind] at h
      split at h
      · cases h
      · rename_i a r
        simp only [pure, Except.pure, Except.ok.injEq, Prod.mk.injEq] at h
        obtain ⟨rfl, -⟩ := h
        exact (readable_of_readArgument ha).1
      · rename_i i r _
        simp only [pure, Except.pure, Except.ok.injEq, Prod.mk.injEq] at h
        obtain ⟨rfl, -⟩ := h
        exact (readable_of_readArgument ha).1
      · cases h

/-- When the zero flag is not read, nothing is taken, and a `0` in front is the start of `0$`. -/
theorem readZero_eq_false {cs rest : List Char} (h : readZero cs = (false, rest)) :
    rest = cs ∧ ∀ r, cs = '0' :: r → ∃ r', r = '$' :: r' := by
  unfold readZero at h
  split at h
  · simp only [Prod.mk.injEq] at h
    exact ⟨h.2.symm, fun r he => ⟨_, (List.cons.inj he).2.symm⟩⟩
  · simp at h
  · rename_i hzero
    simp only [Prod.mk.injEq] at h
    exact ⟨h.2.symm, fun r he => absurd he (hzero r)⟩

/-- Every specification the directive reader gives, after a readable value, is well formed. -/
theorem wellFormed_of_readDirectives {v : Selector} (hv : v.Readable) {cs : List Char} {s : Spec}
    (h : readDirectives v cs = .ok s) : s.WellFormed := by
  rcases h1 : readAlign cs with ⟨a, c1⟩
  rcases h2 : readFlag '+' c1 with ⟨pl, c2⟩
  rcases h3 : readFlag '#' c2 with ⟨alt, c3⟩
  rcases h4 : readZero c3 with ⟨z, c4⟩
  rcases h5 : readWidth c4 with e | ⟨w, c5⟩
  · simp [readDirectives, h1, h2, h3, h4, h5, bind, Except.bind] at h
  obtain ⟨hwidth, hnext, hzero⟩ := readWidth_sound h5
  -- a literal width `0` starts with a `0` that is not followed by `$`, which is the zero flag
  have hz : z = false → w ≠ some (.literal 0) := by
    rintro rfl hw
    obtain ⟨hc4, hdollar⟩ := readZero_eq_false h4
    obtain ⟨r, hr, hnd⟩ := hzero hw
    obtain ⟨r', rfl⟩ := hdollar r (hc4 ▸ hr)
    exact hnd r' rfl
  have hwf : ∀ t : Spec, t.value = v → t.zeroPad = z → t.width = w →
      (∀ q ∈ t.precision, q.Readable) → t.WellFormed := by
    rintro t rfl rfl rfl hp
    exact ⟨hv, hwidth, hp, hnext, hz⟩
  simp only [readDirectives, h1, h2, h3, h4, h5, bind, Except.bind] at h
  split at h
  · rename_i rest
    rcases h6 : readPrecision rest with e | ⟨p, c6⟩
    · simp [h6] at h
    · simp only [h6, pure, Except.pure] at h
      split at h
      · obtain rfl := Except.ok.inj h
        exact hwf _ rfl rfl rfl fun q hq => by
          cases hq
          exact readPrecision_sound h6
      · cases h
  · simp only [pure, Except.pure] at h
    split at h
    · obtain rfl := Except.ok.inj h
      exact hwf _ rfl rfl rfl fun q hq => by cases hq
    · cases h

/-- A specification with no directives is well formed when its value is readable. -/
theorem wellFormed_value {a : Selector} (ha : a.Readable) : ({ value := a } : Spec).WellFormed where
  value := ha
  width _ hc := nomatch hc
  precision _ hc := nomatch hc
  width_ne_next := nofun
  zero_width _ := nofun

/-- **Every specification read is well formed.** -/
theorem wellFormed_of_readBody {cs : List Char} {s : Spec} (h : readBody cs = .ok s) :
    s.WellFormed := by
  cases ha : readArgument cs with
  | error e => simp [readBody, ha, bind, Except.bind] at h
  | ok o =>
    have hread : (o.getD (.next, cs)).1.Readable := by
      cases o with
      | none => trivial
      | some x => exact (readable_of_readArgument ha).1
    simp only [readBody, ha, bind, Except.bind] at h
    obtain ⟨a, rest⟩ := o.getD (.next, cs)
    split at h
    · obtain rfl := Except.ok.inj h
      exact wellFormed_value hread
    · exact wellFormed_of_readDirectives hread h
    · cases h

theorem wellFormed_of_parseBody {body : String} {s : Spec} (h : parseBody body = .ok s) :
    s.WellFormed := by
  unfold parseBody locate at h
  split at h
  · obtain rfl := Except.ok.inj h
    exact wellFormed_of_readBody ‹_›
  · cases h

end Spec

end BraceFormat
