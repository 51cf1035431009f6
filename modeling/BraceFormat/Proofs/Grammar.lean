import BraceFormat.Proofs.SpecText
/-!
# The grammar of placeholder bodies

The body of a placeholder, the text between its braces, follows the grammar

    body       := [argument] [':' directives]
    argument   := integer | identifier
    directives := [align] ['+'] ['#'] ['0'] [width] ['.' precision] [conversion]
    width      := integer | argument '$'
    precision  := integer | '*' | argument '$'

where an integer is a non-empty run of ASCII digits and an identifier a name start followed by
name characters (`Text.isNameStart`, `Text.isNameChar`). This module states the grammar as
relations between texts and the specifications they read as, and shows that the reader accepts
exactly the texts of the grammar and gives the reading the grammar prescribes.

The grammar is ambiguous in one place: a `0` right after the flags may be the zero flag or the
first digit of the width (`05`, `00`, `0`, `05$`). The reader takes it for the zero flag unless a
`$` follows it, and `0$` has no other reading anyway. The relations carry a switch `zeroFirst`:
with it set, a reading must follow that rule, and every text of the grammar has such a reading
(`Spec.Body.zeroFirst`). Nothing else is ambiguous: the flags are characters of their own, a width
ends where its digits or its `$` end, and a bare name where a width could stand is no width, which
is why the reader backs out of it (the `x` of `{:x}`).

The relations also bound the integers they admit, by `k` digits. The reader converts an integer
only up to `digitLimit` digits: it gives the readings with integers that short, and refuses a text
whose reading needs a longer one (`Spec.long_index_is_grammatical_but_refused`).

## Main definitions

* `Spec.IsInteger`, `Spec.ArgumentText`, `Spec.ValueText`, `Spec.WidthText`,
  `Spec.PrecisionText`: the pieces of a body and what they stand for.
* `Spec.Directives`, `Spec.Body`: the readings of directives and of a body.
* `Spec.Grammatical`: the texts of the grammar, integers of any length.

## Main results

* `Spec.readBody_sound`: what the reader gives is a reading of the body, zero flag first.
* `Spec.readBody_complete`: a reading of the body, zero flag first, is what the reader gives.
* `Spec.Body.zeroFirst`: every text of the grammar has a reading with the zero flag first.
* `Spec.parseBody_eq_ok_iff`, `Spec.parseBody_ok_iff_grammatical`: the reader and the grammar.
-/

namespace BraceFormat

namespace Spec

/-! ### The grammar -/

/-- An integer of at most `k` digits: a non-empty run of ASCII digits. -/
def IsInteger (k : Nat) (ds : List Char) : Prop :=
  ds ≠ [] ∧ ds.length ≤ k ∧ ∀ d ∈ ds, d.isDigit = true

/-- The text of an argument and the selector it names: an integer names a position, an
identifier a name. -/
inductive ArgumentText (k : Nat) : List Char → Selector → Prop
  | index {ds : List Char} : IsInteger k ds → ArgumentText k ds (.index (digitsValue ds))
  | name {n : String} : IsName n → ArgumentText k n.toList (.name n)

/-- The optional argument a body starts with; without one the next argument is taken. -/
inductive ValueText (k : Nat) : List Char → Selector → Prop
  | next : ValueText k [] .next
  | argument {cs : List Char} {a : Selector} : ArgumentText k cs a → ValueText k cs a

/-- A width: an integer is a literal count, an argument followed by `$` a count taken from it. -/
inductive WidthText (k : Nat) : List Char → Count → Prop
  | literal {ds : List Char} : IsInteger k ds → WidthText k ds (.literal (digitsValue ds))
  | given {cs : List Char} {a : Selector} : ArgumentText k cs a →
      WidthText k (cs ++ ['$']) (.given a)

/-- A precision with the `.` before it: an integer, `*` for the next argument, or an argument
followed by `$`. -/
inductive PrecisionText (k : Nat) : List Char → Count → Prop
  | literal {ds : List Char} : IsInteger k ds →
      PrecisionText k ('.' :: ds) (.literal (digitsValue ds))
  | next : PrecisionText k ['.', '*'] (.given .next)
  | given {cs : List Char} {a : Selector} : ArgumentText k cs a →
      PrecisionText k ('.' :: (cs ++ ['$'])) (.given a)

/-- An optional piece of text: nothing when the piece is absent. -/
def OptionText {α : Type} (R : List Char → α → Prop) (cs : List Char) : Option α → Prop
  | none => cs = []
  | some a => R cs a

@[simp]
theorem optionText_none {α : Type} {R : List Char → α → Prop} {cs : List Char} :
    OptionText R cs none ↔ cs = [] := Iff.rfl

@[simp]
theorem optionText_some {α : Type} {R : List Char → α → Prop} {cs : List Char} {a : α} :
    OptionText R cs (some a) ↔ R cs a := Iff.rfl

/-- The flags as written: the alignment, `+`, `#` and `0`, each once or not at all. -/
def flagsText (align : Option Align) (plus alternate zeroPad : Bool) : List Char :=
  align.toList.map Align.token ++ (if plus then ['+'] else []) ++
    (if alternate then ['#'] else []) ++ (if zeroPad then ['0'] else [])

/-- The zero flag is the `0` that ends the flags. -/
theorem flagsText_zeroPad (align : Option Align) (plus alternate : Bool) (cs : List Char) :
    flagsText align plus alternate true ++ cs = flagsText align plus alternate false ++ '0' :: cs := by
  simp [flagsText]

/-- A text that starts with a `0` which the zero flag would take: a `0` with no `$` after it. -/
def ZeroLed (cs : List Char) : Prop :=
  ∃ r, cs = '0' :: r ∧ r.head? ≠ some '$'

/-- The readings of the directives of a placeholder whose argument is `v`, with integers of at
most `k` digits: the flags, then the width, the precision and the conversion. With `zeroFirst`
set, a `0` after the flags that no `$` follows must be the zero flag. -/
inductive Directives (k : Nat) (zeroFirst : Bool) (v : Selector) : List Char → Spec → Prop
  | mk {align : Option Align} {plus alternate zeroPad : Bool} {wt pt : List Char}
      {width precision : Option Count} {conversion : Conversion} :
      OptionText (WidthText k) wt width → OptionText (PrecisionText k) pt precision →
      (zeroFirst = true → zeroPad = false → ¬ZeroLed (wt ++ pt ++ conversion.token.toList)) →
      Directives k zeroFirst v
        (flagsText align plus alternate zeroPad ++ (wt ++ pt ++ conversion.token.toList))
        { value := v, align, plus, alternate, zeroPad, width, precision, conversion }

/-- The readings of a placeholder body: an optional argument, then the end, or `:` and the
directives. -/
inductive Body (k : Nat) (zeroFirst : Bool) : List Char → Spec → Prop
  | value {vt : List Char} {v : Selector} : ValueText k vt v → Body k zeroFirst vt { value := v }
  | directives {vt ds : List Char} {v : Selector} {s : Spec} : ValueText k vt v →
      Directives k zeroFirst v ds s → Body k zeroFirst (vt ++ ':' :: ds) s

/-- The texts of the grammar, with integers of any length. -/
def Grammatical (cs : List Char) : Prop :=
  ∃ k s, Body k false cs s

/-! ### What each reader takes -/

/-- An argument read is the text of that argument, followed by what is left. -/
theorem readArgument_eq_some {cs rest : List Char} {a : Selector}
    (h : readArgument cs = .ok (some (a, rest))) :
    ∃ txt, cs = txt ++ rest ∧ ArgumentText digitLimit txt a := by
  cases cs with
  | nil => cases h
  | cons c tail =>
    rw [readArgument] at h
    by_cases hd : c.isDigit = true
    · rw [if_pos hd] at h
      dsimp only at h
      split at h
      · cases h
      · rename_i hlen
        simp only [Except.ok.injEq, Option.some.injEq, Prod.mk.injEq] at h
        obtain ⟨rfl, rfl⟩ := h
        have hdigits : ∀ d ∈ c :: tail.takeWhile Char.isDigit, d.isDigit = true := by
          intro d hdm
          rcases List.mem_cons.1 hdm with rfl | hdm
          · exact hd
          · exact List.all_eq_true.1 List.all_takeWhile d hdm
        exact ⟨_, by simp [List.takeWhile_append_dropWhile],
          .index ⟨List.cons_ne_nil _ _, Nat.le_of_not_lt hlen, hdigits⟩⟩
    · rw [if_neg hd] at h
      split at h
      · rename_i hstart
        simp only [Except.ok.injEq, Option.some.injEq, Prod.mk.injEq] at h
        obtain ⟨rfl, rfl⟩ := h
        have hname : IsName (String.ofList (c :: tail.takeWhile Text.isNameChar)) :=
          ⟨c, _, String.toList_ofList, hstart,
            fun d hdm => List.all_eq_true.1 List.all_takeWhile d hdm⟩
        refine ⟨_, ?_, .name hname⟩
        rw [String.toList_ofList, List.cons_append, List.takeWhile_append_dropWhile]
      · cases h

theorem readAlign_eq {cs rest : List Char} {a : Option Align} (h : readAlign cs = (a, rest)) :
    cs = a.toList.map Align.token ++ rest := by
  unfold readAlign at h
  split at h <;> simp only [Prod.mk.injEq] at h <;> obtain ⟨rfl, rfl⟩ := h <;> rfl

theorem readFlag_eq {t : Char} {cs rest : List Char} {b : Bool} (h : readFlag t cs = (b, rest)) :
    cs = (if b then [t] else []) ++ rest := by
  unfold readFlag at h
  split at h
  · simp only [Prod.mk.injEq] at h
    obtain ⟨rfl, rfl⟩ := h
    rfl
  · split at h <;> simp only [Prod.mk.injEq] at h <;> obtain ⟨rfl, rfl⟩ := h
    · simp [*]
    · rfl

/-- The zero flag takes a `0` in front, and without it nothing is taken and no `0` that the flag
would take stands in front. -/
theorem readZero_eq {cs rest : List Char} {z : Bool} (h : readZero cs = (z, rest)) :
    cs = (if z then ['0'] else []) ++ rest ∧ (z = false → ¬ZeroLed cs) := by
  unfold readZero at h
  split at h <;> simp only [Prod.mk.injEq] at h <;> obtain ⟨rfl, rfl⟩ := h
  · refine ⟨rfl, fun _ ⟨r, hr, hnd⟩ => hnd ?_⟩
    rw [(List.cons.inj hr).2.symm]
    rfl
  · exact ⟨rfl, nofun⟩
  · rename_i hzero
    exact ⟨rfl, fun _ ⟨r, hr, _⟩ => hzero r hr⟩

theorem readWidth_eq_ok {cs rest : List Char} {w : Option Count}
    (h : readWidth cs = .ok (w, rest)) :
    ∃ wt, cs = wt ++ rest ∧ OptionText (WidthText digitLimit) wt w := by
  cases ha : readArgument cs with
  | error e => simp [readWidth, ha, bind, Except.bind] at h
  | ok o =>
    simp only [readWidth, ha, bind, Except.bind] at h
    split at h
    · simp only [pure, Except.pure, Except.ok.injEq, Prod.mk.injEq] at h
      obtain ⟨rfl, rfl⟩ := h
      obtain ⟨txt, rfl, htxt⟩ := readArgument_eq_some ha
      exact ⟨txt ++ ['$'], by simp, .given htxt⟩
    · simp only [pure, Except.pure, Except.ok.injEq, Prod.mk.injEq] at h
      obtain ⟨rfl, rfl⟩ := h
      obtain ⟨txt, rfl, htxt⟩ := readArgument_eq_some ha
      cases htxt with
      | index hds => exact ⟨_, rfl, .literal hds⟩
    · simp only [pure, Except.pure, Except.ok.injEq, Prod.mk.injEq] at h
      obtain ⟨rfl, rfl⟩ := h
      exact ⟨[], rfl, rfl⟩

theorem readPrecision_eq_ok {cs rest : List Char} {p : Count}
    (h : readPrecision cs = .ok (p, rest)) :
    ∃ pt, '.' :: cs = pt ++ rest ∧ PrecisionText digitLimit pt p := by
  unfold readPrecision at h
  split at h
  · simp only [Except.ok.injEq, Prod.mk.injEq] at h
    obtain ⟨rfl, rfl⟩ := h
    exact ⟨['.', '*'], rfl, .next⟩
  · cases ha : readArgument cs with
    | error e => simp [ha, bind, Except.bind] at h
    | ok o =>
      simp only [ha, bind, Except.bind] at h
      split at h
      · cases h
      · simp only [pure, Except.pure, Except.ok.injEq, Prod.mk.injEq] at h
        obtain ⟨rfl, rfl⟩ := h
        obtain ⟨txt, rfl, htxt⟩ := readArgument_eq_some ha
        exact ⟨'.' :: (txt ++ ['$']), by simp, .given htxt⟩
      · simp only [pure, Except.pure, Except.ok.injEq, Prod.mk.injEq] at h
        obtain ⟨rfl, rfl⟩ := h
        obtain ⟨txt, rfl, htxt⟩ := readArgument_eq_some ha
        cases htxt with
        | index hds => exact ⟨_, rfl, .literal hds⟩
      · cases h

theorem token_of_ofToken? {c : Char} {k : Conversion} (h : Conversion.ofToken? c = some k) :
    k.token.toList = [c] := by
  unfold Conversion.ofToken? at h
  split at h <;> cases h <;> rfl

theorem readConversion_eq {cs rest : List Char} {k : Conversion}
    (h : readConversion cs = (k, rest)) : cs = k.token.toList ++ rest := by
  unfold readConversion at h
  split at h
  · simp only [Prod.mk.injEq] at h
    obtain ⟨rfl, rfl⟩ := h
    rfl
  · split at h <;> simp only [Prod.mk.injEq] at h <;> obtain ⟨rfl, rfl⟩ := h
    · rw [token_of_ofToken? ‹_›]
      rfl
    · rfl

/-! ### The reader gives readings -/

/-- **The directive reader is sound.** What it gives is a reading of the directives, with the
zero flag first. -/
theorem readDirectives_sound {v : Selector} {cs : List Char} {s : Spec}
    (h : readDirectives v cs = .ok s) : Directives digitLimit true v cs s := by
  rcases h1 : readAlign cs with ⟨a, c1⟩
  rcases h2 : readFlag '+' c1 with ⟨pl, c2⟩
  rcases h3 : readFlag '#' c2 with ⟨alt, c3⟩
  rcases h4 : readZero c3 with ⟨z, c4⟩
  rcases h5 : readWidth c4 with e | ⟨w, c5⟩
  · simp [readDirectives, h1, h2, h3, h4, h5, bind, Except.bind] at h
  obtain ⟨wt, rfl, hw⟩ := readWidth_eq_ok h5
  obtain ⟨hz4, hzero⟩ := readZero_eq h4
  have hflags : cs = flagsText a pl alt z ++ (wt ++ c5) := by
    rw [readAlign_eq h1, readFlag_eq h2, readFlag_eq h3, hz4]
    simp [flagsText]
  have hrest : ∃ (pt : List Char) (p : Option Count) (k : Conversion),
      OptionText (PrecisionText digitLimit) pt p ∧ c5 = pt ++ k.token.toList ∧
        s = ⟨v, a, pl, alt, z, w, p, k⟩ := by
    simp only [readDirectives, h1, h2, h3, h4, h5, bind, Except.bind] at h
    split at h
    · rename_i _ rest
      rcases h6 : readPrecision rest with e | ⟨p, c6⟩
      · simp [h6] at h
      obtain ⟨pt, hpt, hp⟩ := readPrecision_eq_ok h6
      rcases h7 : readConversion c6 with ⟨k, c7⟩
      simp only [h6, h7, pure, Except.pure] at h
      split at h
      · exact ⟨pt, some p, k, hp, by rw [hpt, readConversion_eq h7, List.append_nil],
          (Except.ok.inj h).symm⟩
      · cases h
    · rcases h7 : readConversion c5 with ⟨k, c7⟩
      simp only [h7, pure, Except.pure] at h
      split at h
      · exact ⟨[], none, k, rfl, by rw [readConversion_eq h7, List.append_nil]; rfl,
          (Except.ok.inj h).symm⟩
      · cases h
  obtain ⟨pt, p, k, hp, rfl, rfl⟩ := hrest
  rw [hflags, ← List.append_assoc wt]
  exact .mk hw hp fun _ hz hl => hzero hz (by rwa [hz4, hz, if_neg Bool.false_ne_true,
    List.nil_append, ← List.append_assoc])

/-- **The body reader is sound.** What it gives is a reading of the body, with the zero flag
first. -/
theorem readBody_sound {cs : List Char} {s : Spec} (h : readBody cs = .ok s) :
    Body digitLimit true cs s := by
  cases ha : readArgument cs with
  | error e => simp [readBody, ha, bind, Except.bind] at h
  | ok o =>
    obtain ⟨vt, rest, v, hcs, hv, ho⟩ : ∃ vt rest v, cs = vt ++ rest ∧ ValueText digitLimit vt v ∧
        o.getD (.next, cs) = (v, rest) := by
      cases o with
      | none => exact ⟨[], cs, .next, rfl, .next, rfl⟩
      | some x =>
        obtain ⟨txt, hcs, htxt⟩ := readArgument_eq_some ha
        exact ⟨txt, x.2, x.1, hcs, .argument htxt, rfl⟩
    simp only [readBody, ha, bind, Except.bind, ho] at h
    split at h
    · obtain rfl := Except.ok.inj h
      rw [hcs, List.append_nil]
      exact .value hv
    · rw [hcs]
      exact .directives hv (readDirectives_sound h)
    · cases h

/-! ### The reader gives every reading with the zero flag first -/

/-- An integer within the limit, followed by anything but a digit, reads as its position. -/
theorem readArgument_integer {ds rest : List Char} (hds : IsInteger digitLimit ds)
    (hr : ∀ c ∈ rest.head?, c.isDigit = false) :
    readArgument (ds ++ rest) = .ok (some (.index (digitsValue ds), rest)) := by
  obtain ⟨hne, hlen, hdig⟩ := hds
  obtain ⟨c, cs, rfl⟩ := List.exists_cons_of_ne_nil hne
  have hc : c.isDigit = true := hdig c List.mem_cons_self
  obtain ⟨htake, hdrop⟩ :=
    takeWhile_dropWhile_append (fun d hd => hdig d (List.mem_cons_of_mem c hd)) hr
  rw [List.cons_append, readArgument, if_pos hc]
  dsimp only
  rw [htake, if_neg (Nat.not_lt.2 hlen), hdrop]

/-- The text of an argument, followed by anything that continues neither a number nor a name,
reads as its selector. -/
theorem readArgument_of_text {txt rest : List Char} {a : Selector}
    (h : ArgumentText digitLimit txt a)
    (hr : ∀ c ∈ rest.head?, c.isDigit = false ∧ Text.isNameChar c = false) :
    readArgument (txt ++ rest) = .ok (some (a, rest)) := by
  cases h with
  | index hds => exact readArgument_integer hds fun c hc => (hr c hc).1
  | name hn => exact readArgument_name hn fun c hc => (hr c hc).2

theorem PrecisionText.eq_dot {k : Nat} {pt : List Char} {p : Count} (h : PrecisionText k pt p) :
    ∃ qs, pt = '.' :: qs := by
  cases h <;> exact ⟨_, rfl⟩

/-- What can follow a width: the `.` of a precision, a conversion token, or nothing. -/
theorem head_precision_conversion {k : Nat} {pt : List Char} {p : Option Count}
    (hp : OptionText (PrecisionText k) pt p) (conv : Conversion) :
    ∀ c ∈ (pt ++ conv.token.toList).head?, c ∈ ['.', '?', 'b', 'o', 'x', 'X', 'e', 'E'] := by
  intro c hc
  cases p with
  | none =>
    obtain rfl : pt = [] := hp
    exact List.mem_cons_of_mem _ (head_token conv c hc)
  | some p =>
    obtain ⟨qs, rfl⟩ := PrecisionText.eq_dot hp
    rw [List.cons_append, List.head?_cons, Option.mem_def, Option.some.injEq] at hc
    simp [← hc]

theorem readWidth_of_no_width {k : Nat} {pt : List Char} {p : Option Count}
    (hp : OptionText (PrecisionText k) pt p) (conv : Conversion) :
    readWidth (pt ++ conv.token.toList) = .ok (none, pt ++ conv.token.toList) := by
  cases p with
  | none =>
    obtain rfl : pt = [] := hp
    cases conv <;> rfl
  | some p =>
    obtain ⟨qs, rfl⟩ := PrecisionText.eq_dot hp
    exact readWidth_none (readArgument_of_head fun c hc => by
      rw [List.cons_append, List.head?_cons, Option.mem_def, Option.some.injEq] at hc
      subst hc
      decide)

/-- The width reader takes the width of a reading and leaves its precision and conversion. -/
theorem readWidth_of_text {wt pt : List Char} {w p : Option Count}
    (hw : OptionText (WidthText digitLimit) wt w) (hp : OptionText (PrecisionText digitLimit) pt p)
    (conv : Conversion) :
    readWidth (wt ++ (pt ++ conv.token.toList)) = .ok (w, pt ++ conv.token.toList) := by
  have hr : ∀ c ∈ (pt ++ conv.token.toList).head?, c.isDigit = false ∧ c ≠ '$' := by
    have hchars : ∀ c ∈ ['.', '?', 'b', 'o', 'x', 'X', 'e', 'E'], c.isDigit = false ∧ c ≠ '$' := by
      simp
    exact fun c hc => hchars c (head_precision_conversion hp conv c hc)
  cases w with
  | none =>
    obtain rfl : wt = [] := hw
    exact readWidth_of_no_width hp conv
  | some w =>
    cases hw with
    | literal hds =>
      exact readWidth_index (readArgument_integer hds fun c hc => (hr c hc).1) (ne_dollar_of_head hr)
    | given htxt =>
      rw [List.append_assoc, List.singleton_append]
      exact readWidth_given (readArgument_of_text htxt (dollar_ends_argument _))

/-- The precision reader takes the precision of a reading after its `.` and leaves the
conversion. -/
theorem readPrecision_of_text {pt : List Char} {p : Count} (hp : PrecisionText digitLimit pt p)
    (conv : Conversion) :
    ∃ qs, pt = '.' :: qs ∧ readPrecision (qs ++ conv.token.toList) = .ok (p, conv.token.toList) := by
  have hr : ∀ c ∈ conv.token.toList.head?, c.isDigit = false ∧ c ≠ '$' := by
    have hchars : ∀ c ∈ ['?', 'b', 'o', 'x', 'X', 'e', 'E'], c.isDigit = false ∧ c ≠ '$' := by
      simp
    exact fun c hc => hchars c (head_token conv c hc)
  cases hp with
  | literal hds =>
    exact ⟨_, rfl, readPrecision_index (readArgument_integer hds fun c hc => (hr c hc).1)
      (ne_dollar_of_head hr)⟩
  | next => exact ⟨['*'], rfl, rfl⟩
  | given htxt =>
    refine ⟨_, rfl, ?_⟩
    rw [List.append_assoc, List.singleton_append]
    exact readPrecision_given (readArgument_of_text htxt (dollar_ends_argument _))

/-- Without the zero flag, a text that starts with no `0` the flag takes is left whole. -/
theorem readZero_of_not_zeroLed {cs : List Char} (h : ¬ZeroLed cs) : readZero cs = (false, cs) := by
  rcases cs with _ | ⟨c, r⟩
  · rfl
  · by_cases hc : c = '0'
    · subst hc
      rcases r with _ | ⟨d, r⟩
      · exact absurd ⟨[], rfl, by simp⟩ h
      · by_cases hd : d = '$'
        · subst hd
          exact readZero_index_zero r
        · exact absurd ⟨d :: r, rfl, by simpa using hd⟩ h
    · exact readZero_of_head fun c' hc' => by
        rw [List.head?_cons, Option.mem_def, Option.some.injEq] at hc'
        rwa [← hc']

/-- The first character of an argument's text starts a width. -/
theorem widthStart_of_argumentText {k : Nat} {txt : List Char} {a : Selector}
    (h : ArgumentText k txt a) (rest : List Char) :
    ∀ c ∈ (txt ++ rest).head?, widthStart c = true := by
  intro c hc
  cases h with
  | index hds =>
    obtain ⟨d, ds, rfl⟩ := List.exists_cons_of_ne_nil hds.1
    rw [List.cons_append, List.head?_cons, Option.mem_def, Option.some.injEq] at hc
    subst hc
    simp [widthStart, hds.2.2 d List.mem_cons_self]
  | name hn =>
    obtain ⟨d, ds, hnl, hstart, -⟩ := hn
    rw [hnl, List.cons_append, List.head?_cons, Option.mem_def, Option.some.injEq] at hc
    subst hc
    simp [widthStart, hstart]

/-- What follows the flags of a reading starts a width, a precision or a conversion, or is
nothing. -/
theorem widthStart_of_reading {k : Nat} {wt pt : List Char} {w p : Option Count}
    (hw : OptionText (WidthText k) wt w) (hp : OptionText (PrecisionText k) pt p)
    (conv : Conversion) : ∀ c ∈ (wt ++ (pt ++ conv.token.toList)).head?, widthStart c = true := by
  intro c hc
  cases w with
  | none =>
    obtain rfl : wt = [] := hw
    have hmem := head_precision_conversion hp conv c hc
    simp only [List.mem_cons, List.not_mem_nil, or_false] at hmem
    rcases hmem with rfl | rfl | rfl | rfl | rfl | rfl | rfl | rfl <;> decide
  | some w =>
    cases hw with
    | literal hds => exact widthStart_of_argumentText (.index hds) _ c hc
    | given htxt =>
      rw [List.append_assoc] at hc
      exact widthStart_of_argumentText htxt _ c hc

/-- **The directive reader is complete.** It gives every reading of the directives with the zero
flag first. -/
theorem readDirectives_complete {v : Selector} {cs : List Char} {s : Spec}
    (h : Directives digitLimit true v cs s) : readDirectives v cs = .ok s := by
  cases h with
  | @mk align plus alternate zeroPad wt pt width precision conversion hw hp hzero =>
    have hrest := widthStart_of_reading hw hp conversion
    have hzeroHead : ∀ c ∈ ((if zeroPad then ['0'] else []) ++
        (wt ++ (pt ++ conversion.token.toList))).head?, c ∉ ['<', '^', '>', '+', '#'] := by
      intro c hc
      rcases mem_head_ite_append hc with rfl | hc
      · decide
      · have := not_mem_of_widthStart (hrest c hc)
        simp_all
    have haltHead : ∀ c ∈ ((if alternate then ['#'] else []) ++ ((if zeroPad then ['0'] else []) ++
        (wt ++ (pt ++ conversion.token.toList)))).head?, c ∉ ['<', '^', '>', '+'] := by
      intro c hc
      rcases mem_head_ite_append hc with rfl | hc
      · decide
      · have := hzeroHead c hc
        simp_all
    have hplusHead : ∀ c ∈ ((if plus then ['+'] else []) ++ ((if alternate then ['#'] else []) ++
        ((if zeroPad then ['0'] else []) ++ (wt ++ (pt ++ conversion.token.toList))))).head?,
        c ∉ ['<', '^', '>'] := by
      intro c hc
      rcases mem_head_ite_append hc with rfl | hc
      · decide
      · have := haltHead c hc
        simp_all
    have h1 := readAlign_append align hplusHead
    have h2 := readFlag_append '+' plus fun c hc => by
      have := haltHead c hc
      simp_all
    have h3 := readFlag_append '#' alternate fun c hc => by
      have := hzeroHead c hc
      simp_all
    have h4 : readZero ((if zeroPad then ['0'] else []) ++ (wt ++ (pt ++ conversion.token.toList))) =
        (zeroPad, wt ++ (pt ++ conversion.token.toList)) := by
      cases zeroPad with
      | true =>
        exact readZero_flag fun c hc => by
          have := not_mem_of_widthStart (hrest c hc)
          simp_all
      | false =>
        have hleft := readZero_of_not_zeroLed (hzero rfl rfl)
        rw [List.append_assoc] at hleft
        rwa [if_neg Bool.false_ne_true, List.nil_append]
    have h5 := readWidth_of_text hw hp conversion
    have h7 := readConversion_token conversion
    simp only [flagsText, List.append_assoc] at h1 ⊢
    cases precision with
    | some p =>
      obtain ⟨qs, rfl, h6⟩ := readPrecision_of_text hp conversion
      simp only [List.cons_append] at h1 h2 h3 h4 h5 ⊢
      simp only [readDirectives, h1, h2, h3, h4, h5, h6, h7, bind, Except.bind, pure, Except.pure]
    | none =>
      obtain rfl : pt = [] := hp
      have hdot : ∀ r, conversion.token.toList ≠ '.' :: r := by
        intro r he
        have hmem := head_token conversion '.' (by rw [he]; rfl)
        exact absurd hmem (by decide)
      simp only [List.nil_append] at h1 h2 h3 h4 h5 ⊢
      simp only [readDirectives, h1, h2, h3, h4, h5, bind, Except.bind, pure, Except.pure]
      rw [h7]

/-- **The body reader is complete.** It gives every reading of the body with the zero flag
first. -/
theorem readBody_complete {cs : List Char} {s : Spec} (h : Body digitLimit true cs s) :
    readBody cs = .ok s := by
  have hcolon : ∀ ds : List Char,
      ∀ c ∈ (':' :: ds).head?, c.isDigit = false ∧ Text.isNameChar c = false := by
    intro ds c hc
    rw [List.head?_cons, Option.mem_def, Option.some.injEq] at hc
    subst hc
    decide
  cases h with
  | value hv =>
    cases hv with
    | next => rfl
    | argument htxt =>
      have hread := @readArgument_of_text _ [] _ htxt (by simp)
      rw [List.append_nil] at hread
      simp [readBody, hread, bind, Except.bind, pure, Except.pure]
  | @directives vt ds v _ hv hd =>
    have hdir := readDirectives_complete hd
    cases hv with
    | next =>
      have hread : readArgument (':' :: ds) = .ok none :=
        readArgument_of_head fun c hc => ⟨(hcolon _ c hc).1, by
          rw [List.head?_cons, Option.mem_def, Option.some.injEq] at hc
          subst hc
          decide⟩
      simp [readBody, hread, hdir, bind, Except.bind]
    | argument htxt =>
      simp [readBody, readArgument_of_text htxt (hcolon _), hdir, bind, Except.bind]

/-! ### Every text of the grammar has a reading with the zero flag first -/

theorem Directives.of_zeroFirst {k : Nat} {v : Selector} {cs : List Char} {s : Spec}
    (h : Directives k true v cs s) : Directives k false v cs s := by
  cases h with
  | mk hw hp _ => exact .mk hw hp nofun

theorem Body.of_zeroFirst {k : Nat} {cs : List Char} {s : Spec} (h : Body k true cs s) :
    Body k false cs s := by
  cases h with
  | value hv => exact .value hv
  | directives hv hd => exact .directives hv hd.of_zeroFirst

/-- A leading `0` adds nothing to the number a run of digits stands for. -/
theorem digitsValue_zero_cons (ds : List Char) : digitsValue ('0' :: ds) = digitsValue ds := rfl

theorem IsInteger.of_zero_cons {k : Nat} {ds : List Char} (h : IsInteger k ('0' :: ds))
    (hne : ds ≠ []) : IsInteger k ds :=
  ⟨hne, Nat.le_trans (Nat.le_succ _) h.2.1, fun d hd => h.2.2 d (List.mem_cons_of_mem _ hd)⟩

/-- A width that starts with a `0` the zero flag would take reads as the zero flag and what
follows it: the rest of the digits as the same literal, a position written with a leading `0`
as the same position, and a lone `0` as no width. -/
theorem zeroFlag_of_zeroLed {k : Nat} {wt rest : List Char} {w : Option Count}
    (hw : OptionText (WidthText k) wt w) (hrest : ∀ c ∈ rest.head?, c ≠ '0')
    (hlead : ZeroLed (wt ++ rest)) :
    ∃ wt' w', wt = '0' :: wt' ∧ OptionText (WidthText k) wt' w' := by
  obtain ⟨r, hr, hnd⟩ := hlead
  cases w with
  | none =>
    obtain rfl : wt = [] := hw
    rw [List.nil_append] at hr
    exact (hrest '0' (by rw [hr]; rfl) rfl).elim
  | some w =>
    cases hw with
    | @literal ds hds =>
      obtain ⟨d, ds', rfl⟩ := List.exists_cons_of_ne_nil hds.1
      obtain ⟨rfl, -⟩ := List.cons.inj hr
      by_cases hne : ds' = []
      · subst hne
        exact ⟨[], none, rfl, rfl⟩
      · exact ⟨ds', some (.literal (digitsValue ds')), rfl, .literal (hds.of_zero_cons hne)⟩
    | @given txt a htxt =>
      cases htxt with
      | @index ds hds =>
        obtain ⟨d, ds', rfl⟩ := List.exists_cons_of_ne_nil hds.1
        simp only [List.cons_append, List.cons.injEq] at hr
        obtain ⟨rfl, rfl⟩ := hr
        -- a `$` right after the `0` would make it the position `0`
        have hne : ds' ≠ [] := by
          rintro rfl
          exact hnd rfl
        exact ⟨ds' ++ ['$'], some (.given (.index (digitsValue ds'))), rfl,
          .given (.index (hds.of_zero_cons hne))⟩
      | @name n hn =>
        obtain ⟨c, cs, hnl, hstart, -⟩ := hn
        rw [hnl, List.cons_append, List.cons_append, List.cons.injEq] at hr
        rw [hr.1] at hstart
        exact absurd hstart (by decide)

/-- **Every text of the directives has a reading with the zero flag first.** Where a reading
takes a `0` after the flags as the start of its width, the zero flag can take it instead. -/
theorem Directives.zeroFirst {k : Nat} {z : Bool} {v : Selector} {cs : List Char} {s : Spec}
    (h : Directives k z v cs s) : ∃ s', Directives k true v cs s' := by
  cases h with
  | @mk align plus alternate zeroPad wt pt width precision conversion hw hp _ =>
    by_cases hlead : zeroPad = false ∧ ZeroLed (wt ++ pt ++ conversion.token.toList)
    · obtain ⟨rfl, hzl⟩ := hlead
      have hrest : ∀ c ∈ (pt ++ conversion.token.toList).head?, c ≠ '0' := by
        have hchars : ∀ c ∈ ['.', '?', 'b', 'o', 'x', 'X', 'e', 'E'], c ≠ '0' := by simp
        exact fun c hc => hchars c (head_precision_conversion hp conversion c hc)
      rw [List.append_assoc] at hzl
      obtain ⟨wt', w', rfl, hw'⟩ := zeroFlag_of_zeroLed hw hrest hzl
      refine ⟨⟨v, align, plus, alternate, true, w', precision, conversion⟩, ?_⟩
      rw [List.cons_append, List.cons_append, ← flagsText_zeroPad]
      exact .mk hw' hp fun _ hz => nomatch hz
    · exact ⟨_, .mk hw hp fun _ hz hl => hlead ⟨hz, hl⟩⟩

/-- **Every text of the grammar has a reading with the zero flag first.** -/
theorem Body.zeroFirst {k : Nat} {z : Bool} {cs : List Char} {s : Spec} (h : Body k z cs s) :
    ∃ s', Body k true cs s' := by
  cases h with
  | value hv => exact ⟨_, .value hv⟩
  | directives hv hd =>
    obtain ⟨s', hd'⟩ := hd.zeroFirst
    exact ⟨s', .directives hv hd'⟩

/-! ### Reading a placeholder body -/

/-- **The reader gives the reading with the zero flag first.** A body reads as a specification
exactly when that specification is its reading with integers within the digit limit and the
zero flag first. -/
theorem parseBody_eq_ok_iff {b : String} {s : Spec} :
    parseBody b = .ok s ↔ Body digitLimit true b.toList s := by
  constructor
  · intro h
    unfold parseBody locate at h
    split at h
    · obtain rfl := Except.ok.inj h
      exact readBody_sound ‹_›
    · cases h
  · intro h
    rw [parseBody, readBody_complete h]
    rfl

/-- **The reader accepts the grammar.** A body reads exactly when it has a reading with integers
within the digit limit. -/
theorem parseBody_ok_iff_grammatical (b : String) :
    (∃ s, parseBody b = .ok s) ↔ ∃ s, Body digitLimit false b.toList s := by
  constructor
  · rintro ⟨s, h⟩
    exact ⟨s, (parseBody_eq_ok_iff.1 h).of_zeroFirst⟩
  · rintro ⟨s, h⟩
    obtain ⟨s', h'⟩ := h.zeroFirst
    exact ⟨s', parseBody_eq_ok_iff.2 h'⟩

/-- **Placeholder bodies follow the grammar.** The reader accepts exactly the bodies with a
reading whose integers have at most `digitLimit` digits, and gives the reading with the zero
flag first. -/
theorem placeholder_body_follows_grammar (b : String) :
    (∀ s, parseBody b = .ok s ↔ Body digitLimit true b.toList s) ∧
      ((∃ s, parseBody b = .ok s) ↔ ∃ s, Body digitLimit false b.toList s) :=
  ⟨fun _ => parseBody_eq_ok_iff, parseBody_ok_iff_grammatical b⟩

/-- **A body of the grammar that does not read.** The index of 4301 ones is an integer of the
grammar, but longer than the reader converts. -/
theorem long_index_is_grammatical_but_refused :
    Grammatical (List.replicate 4301 '1') ∧
      parseBody (String.ofList (List.replicate 4301 '1')) =
        .error ⟨.longNumber 4301, String.ofList (List.replicate 4301 '1'), 0⟩ := by
  have hds : ∀ d ∈ List.replicate 4301 '1', d.isDigit = true := by
    intro d hd
    rw [List.eq_of_mem_replicate hd]
    rfl
  have hlong : digitLimit < (List.replicate 4301 '1').length := by
    rw [List.length_replicate]
    decide
  have hne : List.replicate 4301 '1' ≠ [] :=
    List.ne_nil_of_length_pos (by rw [List.length_replicate]; decide)
  have hlen : (List.replicate 4301 '1').length ≤ 4301 := by rw [List.length_replicate]
  refine ⟨⟨4301, _, .value (.argument (.index ⟨hne, hlen, hds⟩))⟩, ?_⟩
  have hread := @readArgument_long _ hds hlong [] (by simp)
  rw [List.append_nil, List.length_replicate] at hread
  have hbody : readBody (List.replicate 4301 '1') =
      .error (.longNumber 4301, List.replicate 4301 '1') := by
    rw [readBody, hread]
    rfl
  rw [parseBody, String.toList_ofList, hbody, locate, String.length_ofList, Nat.sub_self]

end Spec

end BraceFormat
