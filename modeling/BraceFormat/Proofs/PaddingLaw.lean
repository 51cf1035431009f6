import BraceFormat.Proofs.RenderRefusals
import BraceFormat.Proofs.PlainLayout
/-!
# The padding law

A placeholder that renders writes its value's unpadded text, a sign, a base prefix and a body,
and pads it to the width. This module says what each part can be and where the fill goes.

A value is rendered as a number when its kind is a number kind (integers, and binary64 and
decimal numbers and fractions), or when its conversion writes a number (`b`, `o`, `x`, `X`, `e`,
`E`); text and booleans are never rendered under those, since they have no number. Anything
else is rendered as text: its display or debug text cut to the precision, without sign or
prefix (`Bound.render_eq_ok`). A number rendering is finite unless its number is an infinity or
a NaN, and a NaN takes no sign (`Number.render_shape`).

Padding leaves a text that reaches the width as it is. A shorter one is brought to exactly the
width: zeros go between the prefix and the body of a finite number under the zero flag, and
spaces go around the text otherwise, all after it for left alignment, all before it for right
alignment, half before it (rounded down) and the rest after it for centring, and with no
alignment given all before a number and all after anything else.

## Main definitions

* `Number.isFinite`, `Number.isNaN`: infinities and NaN.
* `Number.render`: the rendering of a number.
* `Bound.convText`: the text a value is rendered as when it is not rendered as a number.

## Main results

* `Bound.render_eq_ok`: a rendering is a cut text or a number's rendering.
* `Number.render_shape`: number renderings are numeric, finite for finite numbers, and unsigned
  for NaN.
* `Bound.render_shape`: what a rendering is made of, by the value's kind and conversion.
* `Rendered.length_pad`, `Rendered.pad_law`: padding reaches the width exactly, and where the
  fill goes.
* `padding_law`: the text of a placeholder that renders.
-/

namespace BraceFormat

theorem map_eq_ok {ε α β : Type} {x : Except ε α} {f : α → β} {b : β} :
    f <$> x = .ok b ↔ ∃ a, x = .ok a ∧ f a = b := by
  cases x <;> simp [Functor.map, Except.map]

/-! ### Renderings of numbers -/

namespace Number

/-- Whether a number is finite: infinities and NaN are not. -/
def isFinite : Number → Bool
  | .int _ => true
  | .float (.finite ..) => true
  | .decimal (.finite ..) => true
  | _ => false

/-- Whether a number is a NaN. -/
def isNaN : Number → Bool
  | .float .nan => true
  | .decimal (.nan ..) => true
  | _ => false

/-- The rendering of a number for a placeholder. -/
def render (n : Number) (spec : Spec) (p : Option Nat) : Except Fault Rendered :=
  match n with
  | .int i => Rendered.ofInt i spec p
  | .float x => Rendered.ofBinary64 x spec p
  | .decimal d => Rendered.ofDecimal d spec p

/-- A rendering of a finite number is a numeric finite rendering with the number's sign. -/
theorem finite_shape {sign : String} {body : Except Fault String} {r : Rendered}
    (h : (⟨sign, "", ·, true, true⟩) <$> body = .ok r) :
    r.numeric = true ∧ r.finite = true ∧ r.sign = sign := by
  obtain ⟨t, -, rfl⟩ := map_eq_ok.1 h
  exact ⟨rfl, rfl, rfl⟩

/-- **Number renderings are numeric**, finite exactly for finite numbers, and unsigned for NaN. -/
theorem render_shape {n : Number} {spec : Spec} {p : Option Nat} {r : Rendered}
    (h : n.render spec p = .ok r) :
    r.numeric = true ∧ r.finite = n.isFinite ∧ (n.isNaN = true → r.sign = "") := by
  cases n with
  | int i =>
    unfold render Rendered.ofInt at h
    dsimp only at h
    have hint : r.numeric = true ∧ r.finite = true := by
      split at h
      case h_5 | h_6 | h_7 => exact (finite_shape h).imp_right And.left
      all_goals
        obtain rfl := (Except.ok.inj h).symm
        exact ⟨rfl, rfl⟩
    exact ⟨hint.1, hint.2, fun hnan => by cases hnan⟩
  | float x =>
    cases x with
    | finite neg f fr =>
      obtain ⟨hn, hf, -⟩ := finite_shape h
      exact ⟨hn, hf, fun hnan => by cases hnan⟩
    | infinite neg =>
      obtain rfl := (Except.ok.inj h).symm
      exact ⟨rfl, rfl, fun hnan => by cases hnan⟩
    | nan =>
      obtain rfl := (Except.ok.inj h).symm
      exact ⟨rfl, rfl, fun _ => rfl⟩
  | decimal d =>
    cases d with
    | finite neg c x =>
      obtain ⟨hn, hf, -⟩ := finite_shape h
      exact ⟨hn, hf, fun hnan => by cases hnan⟩
    | infinite neg =>
      obtain rfl := (Except.ok.inj h).symm
      exact ⟨rfl, rfl, fun hnan => by cases hnan⟩
    | nan neg sig payload =>
      obtain rfl := (Except.ok.inj h).symm
      exact ⟨rfl, rfl, fun _ => rfl⟩

end Number

/-! ### Renderings of values -/

namespace Bound

/-- The text a value is rendered as when it is not rendered as a number: its debug text under
debug, its display text otherwise. -/
def convText (b : Bound) (spec : Spec) : Except Fault String :=
  if spec.conversion = .debug then b.debugText spec else b.displayText spec

/-- **A rendering is a cut text or a number's rendering.** A value of a kind that is not a
number kind, under display or debug, is rendered as its text cut to the precision; any other
value is rendered from its number. -/
theorem render_eq_ok {b : Bound} {spec : Spec} {p : Option Nat} {o : Nat} {r : Rendered}
    (h : b.render spec p o = .ok r) :
    (spec.conversion.writesText = true ∧ b.kind.isNumeric = false ∧
      ∃ t, b.convText spec = .ok t ∧ r = Rendered.ofText t p) ∨
    ((b.kind.isNumeric || !spec.conversion.writesText) = true ∧
      ∃ n, b.number = .ok (some n) ∧ n.render spec p = .ok r) := by
  simp only [render] at h
  split at h
  swap
  · cases h
  split at h
  · rename_i hdisp
    simp only [Bool.and_eq_true, decide_eq_true_eq, Bool.not_eq_eq_eq_not, Bool.not_true] at hdisp
    obtain ⟨t, ht, rfl⟩ := map_eq_ok.1 h
    refine .inl ⟨by rw [hdisp.1]; rfl, hdisp.2, t, ?_, rfl⟩
    rw [convText, if_neg (by rw [hdisp.1]; decide)]
    exact mapError_eq_ok.1 ht
  split at h
  · rename_i hdbg
    simp only [Bool.and_eq_true, decide_eq_true_eq, Bool.not_eq_eq_eq_not, Bool.not_true] at hdbg
    obtain ⟨t, ht, rfl⟩ := map_eq_ok.1 h
    refine .inl ⟨by rw [hdbg.1]; rfl, hdbg.2, t, ?_, rfl⟩
    rw [convText, if_pos hdbg.1]
    exact mapError_eq_ok.1 ht
  rename_i hdbg hdisp
  have hk : (b.kind.isNumeric || !spec.conversion.writesText) = true := by
    cases hc : spec.conversion <;> simp_all [Conversion.writesText]
  obtain ⟨n?, hn, h⟩ := bind_eq_ok.1 h
  have hnum := mapError_eq_ok.1 hn
  split at h
  · exact .inr ⟨hk, _, hnum, mapError_eq_ok.1 h⟩
  · split at h
    · cases h
    · exact .inr ⟨hk, _, hnum, mapError_eq_ok.1 h⟩
  · split at h
    · cases h
    · exact .inr ⟨hk, _, hnum, mapError_eq_ok.1 h⟩
  · cases h

end Bound

/-! ### Padding -/

namespace Rendered

/-- A run of fill is the character repeated. -/
theorem fill_eq (c : Char) (n : Nat) : fill c n = String.ofList (List.replicate n c) := by
  rw [fill, ← Text.run_toList, String.ofList_toList]

/-- A text that reaches the width is left as it is. -/
theorem pad_of_le {r : Rendered} {width : Option Nat}
    (hw : ∀ w, width = some w → w ≤ r.text.length) (align : Option Align) (zeroPad : Bool) :
    r.pad width align zeroPad = r.text := by
  cases width with
  | none => rfl
  | some w => simp [pad, hw w rfl]

section Short

variable {r : Rendered} {w : Nat} (hw : r.text.length < w) (align : Option Align)
  (zeroPad : Bool)
include hw

/-- **Padding reaches the width exactly**, counting characters. -/
theorem length_pad : (r.pad (some w) align zeroPad).length = w := by
  have htext : r.text.length = r.sign.length + r.basePrefix.length + r.body.length := by
    simp [text, String.length_append]
  simp only [pad, if_neg (Nat.not_le.2 hw)]
  split
  · simp [String.length_append, fill_eq]
    omega
  · split <;> simp [String.length_append, fill_eq] <;> omega

/-- A finite number under the zero flag takes zeros between its prefix and its body. -/
theorem pad_zero (hz : (zeroPad && r.numeric && r.finite) = true) :
    r.pad (some w) align zeroPad = r.sign ++ r.basePrefix ++
      String.ofList (List.replicate (w - r.text.length) '0') ++ r.body := by
  simp [pad, Nat.not_le.2 hw, hz, fill_eq]

/-- Left alignment puts the spaces after the text. -/
theorem pad_left (hz : (zeroPad && r.numeric && r.finite) = false)
    (ha : align.getD (if r.numeric then .right else .left) = .left) :
    r.pad (some w) align zeroPad =
      r.text ++ String.ofList (List.replicate (w - r.text.length) ' ') := by
  simp [pad, Nat.not_le.2 hw, hz, ha, fill_eq]

/-- Right alignment puts the spaces before the text. -/
theorem pad_right (hz : (zeroPad && r.numeric && r.finite) = false)
    (ha : align.getD (if r.numeric then .right else .left) = .right) :
    r.pad (some w) align zeroPad =
      String.ofList (List.replicate (w - r.text.length) ' ') ++ r.text := by
  simp [pad, Nat.not_le.2 hw, hz, ha, fill_eq]

/-- Centring puts half the spaces, rounded down, before the text and the rest after it. -/
theorem pad_center (hz : (zeroPad && r.numeric && r.finite) = false)
    (ha : align.getD (if r.numeric then .right else .left) = .center) :
    r.pad (some w) align zeroPad =
      String.ofList (List.replicate ((w - r.text.length) / 2) ' ') ++ r.text ++
        String.ofList (List.replicate (w - r.text.length - (w - r.text.length) / 2) ' ') := by
  simp [pad, Nat.not_le.2 hw, hz, ha, fill_eq]

end Short

/-- **Padding, all cases.** A text that reaches the width is left as it is; a shorter one is
brought to exactly the width, with zeros between the prefix and the body of a finite number
under the zero flag, and otherwise with spaces after it, before it or around it by the
alignment, or with none given, before a number and after anything else. -/
theorem pad_law (r : Rendered) (width : Option Nat) (align : Option Align) (zeroPad : Bool) :
    ((∀ n, width = some n → n ≤ r.text.length) → r.pad width align zeroPad = r.text) ∧
    ∀ n, width = some n → r.text.length < n →
      (r.pad width align zeroPad).length = n ∧
      ((zeroPad && r.numeric && r.finite) = true →
        r.pad width align zeroPad = r.sign ++ r.basePrefix ++
          String.ofList (List.replicate (n - r.text.length) '0') ++ r.body) ∧
      ((zeroPad && r.numeric && r.finite) = false →
        ((align = some .left ∨ align = none ∧ r.numeric = false) →
          r.pad width align zeroPad =
            r.text ++ String.ofList (List.replicate (n - r.text.length) ' ')) ∧
        ((align = some .right ∨ align = none ∧ r.numeric = true) →
          r.pad width align zeroPad =
            String.ofList (List.replicate (n - r.text.length) ' ') ++ r.text) ∧
        (align = some .center →
          r.pad width align zeroPad =
            String.ofList (List.replicate ((n - r.text.length) / 2) ' ') ++ r.text ++
              String.ofList (List.replicate (n - r.text.length - (n - r.text.length) / 2) ' '))) := by
  refine ⟨fun hw => pad_of_le hw align zeroPad, ?_⟩
  rintro n rfl hw
  refine ⟨length_pad hw align zeroPad, pad_zero hw align zeroPad, fun hz => ⟨?_, ?_, ?_⟩⟩
  · rintro (rfl | ⟨rfl, hn⟩)
    · exact pad_left hw _ zeroPad hz rfl
    · exact pad_left hw _ zeroPad hz (by simp [hn])
  · rintro (rfl | ⟨rfl, hn⟩)
    · exact pad_right hw _ zeroPad hz rfl
    · exact pad_right hw _ zeroPad hz (by simp [hn])
  · rintro rfl
    exact pad_center hw _ zeroPad hz rfl

end Rendered

/-! ### The law -/

/-- Text and booleans have no number. -/
theorem Bound.number_of_textual {b : Bound} (h : b.kind = .text ∨ b.kind = .boolean) :
    b.number = .ok none := by
  rcases b with ⟨raw, caps⟩
  cases raw <;> simp_all [Bound.kind, Value.classify, Bound.number, Value.number]

/-- The rendering of text cut to a precision. -/
theorem Rendered.ofText_body (t : String) (p : Option Nat) :
    (ofText t p).body.toList = t.toList.take (p.getD t.length) := by
  cases p <;> simp [ofText, String.length_toList]

/-- **What a rendering is made of.** It is a number exactly when the value's kind is a number
kind or its conversion writes a number, and text and booleans render only under display and
debug. A rendering that is not a number is the value's text cut to the precision, with no sign
or prefix. A rendering is not finite exactly when it is the rendering of an infinity or a NaN,
and a NaN takes no sign. -/
theorem Bound.render_shape {b : Bound} {spec : Spec} {p : Option Nat} {o : Nat} {r : Rendered}
    (h : b.render spec p o = .ok r) :
    r.numeric = (b.kind.isNumeric || !spec.conversion.writesText) ∧
      ((b.kind = .text ∨ b.kind = .boolean) → spec.conversion.writesText = true) ∧
      (r.numeric = false → r.sign = "" ∧ r.basePrefix = "" ∧
        ∃ t, b.convText spec = .ok t ∧ r.body.toList = t.toList.take (p.getD t.length)) ∧
      (r.finite = false ↔
        r.numeric = true ∧ ∃ n, b.number = .ok (some n) ∧ n.isFinite = false) ∧
      (∀ n, b.number = .ok (some n) → n.isNaN = true → r.sign = "") := by
  rcases Bound.render_eq_ok h with ⟨hw, hk, t, ht, rfl⟩ | ⟨hk, n, hn, hr⟩
  · refine ⟨by simp [Rendered.ofText, hk, hw], fun _ => hw,
      fun _ => ⟨rfl, rfl, t, ht, Rendered.ofText_body t p⟩, ?_, fun _ _ _ => rfl⟩
    simp [Rendered.ofText]
  · obtain ⟨hnum, hfin, hnan⟩ := Number.render_shape hr
    refine ⟨by rw [hnum, hk], fun ht => ?_, fun hr' => by simp [hnum] at hr', ?_, ?_⟩
    · rw [Bound.number_of_textual ht] at hn
      cases hn
    · rw [hfin]
      constructor
      · exact fun hf => ⟨hnum, n, hn, hf⟩
      · rintro ⟨-, n', hn', hf⟩
        rw [hn] at hn'
        cases hn'
        exact hf
    · intro n' hn' hn'nan
      rw [hn] at hn'
      cases hn'
      exact hnan hn'nan

/-- **The padding law.** A placeholder that renders, with any value, flags, alignment, width and
precision, writes its value's rendering `r` padded to the width: the parts of `r` are those of
`Bound.render_shape`, and the padding is that of `Rendered.pad_law`, so that a text that reaches
the width is written as it is and a shorter one is brought to exactly the width, zeros only for a
finite number under the zero flag. -/
theorem padding_law {spec : Spec} {b : Bound} {w p : Option ℕ} {o : ℕ} {s : String}
    (h : (Piece.slot spec b w p o).render = .ok s) :
    ∃ r, b.render spec p o = .ok r ∧
      (r.numeric = (b.kind.isNumeric || !spec.conversion.writesText) ∧
        ((b.kind = .text ∨ b.kind = .boolean) → spec.conversion.writesText = true) ∧
        (r.numeric = false → r.sign = "" ∧ r.basePrefix = "" ∧
          ∃ t, b.convText spec = .ok t ∧ r.body.toList = t.toList.take (p.getD t.length)) ∧
        (r.finite = false ↔
          r.numeric = true ∧ ∃ n, b.number = .ok (some n) ∧ n.isFinite = false) ∧
        (∀ n, b.number = .ok (some n) → n.isNaN = true → r.sign = "")) ∧
      ((∀ n, w = some n → n ≤ r.text.length) → s = r.text) ∧
      ∀ n, w = some n → r.text.length < n →
        s.length = n ∧
        ((spec.zeroPad && r.numeric && r.finite) = true →
          s = r.sign ++ r.basePrefix ++
            String.ofList (List.replicate (n - r.text.length) '0') ++ r.body) ∧
        ((spec.zeroPad && r.numeric && r.finite) = false →
          ((spec.align = some .left ∨ spec.align = none ∧ r.numeric = false) →
            s = r.text ++ String.ofList (List.replicate (n - r.text.length) ' ')) ∧
          ((spec.align = some .right ∨ spec.align = none ∧ r.numeric = true) →
            s = String.ofList (List.replicate (n - r.text.length) ' ') ++ r.text) ∧
          (spec.align = some .center →
            s = String.ofList (List.replicate ((n - r.text.length) / 2) ' ') ++ r.text ++
              String.ofList
                (List.replicate (n - r.text.length - (n - r.text.length) / 2) ' '))) := by
  simp only [Piece.render] at h
  obtain ⟨r, hr, h⟩ := bind_eq_ok.1 h
  have hs : r.pad w spec.align spec.zeroPad = s := by
    split at h
    · cases h
    · exact Except.ok.inj h
  subst hs
  exact ⟨r, hr, Bound.render_shape hr, r.pad_law w spec.align spec.zeroPad⟩

/-- Centring `ab` in five characters puts one space before it and two after it. -/
theorem centred_text_pads_odd_space_after :
    (Piece.slot { align := some .center } ((Value.text "ab").bind Option.none) (some 5) none
        0).render = .ok " ab  " ∧
      ∃ r : Rendered, r.text = "ab" ∧ r.numeric = false ∧
        " ab  " = String.ofList (List.replicate ((5 - r.text.length) / 2) ' ') ++ r.text ++
          String.ofList (List.replicate (5 - r.text.length - (5 - r.text.length) / 2) ' ') := by
  have hrender : (Piece.slot { align := some .center } ((Value.text "ab").bind Option.none)
      (some 5) none 0).render = .ok " ab  " := rfl
  have hvalue : ((Value.text "ab").bind Option.none).render { align := some .center } none 0 =
      .ok ⟨"", "", "ab", false, true⟩ := rfl
  obtain ⟨r, hr, -, -, hpad⟩ := padding_law hrender
  obtain rfl := Except.ok.inj (hr.symm.trans hvalue)
  exact ⟨hrender, _, rfl, rfl, ((hpad 5 rfl (by decide)).2.2 rfl).2.2 rfl⟩

/- A NaN is padded with spaces under the zero flag, and takes no sign under the plus flag; an
infinity keeps its sign. -/
example : (Piece.slot { plus := true, zeroPad := true } ((Value.float .nan).bind Option.none)
    (some 5) none 0).render = .ok "  nan" := rfl
example : (Piece.slot { plus := true, zeroPad := true }
    ((Value.float (.infinite false)).bind Option.none) (some 5) none 0).render = .ok " +inf" := rfl

end BraceFormat
