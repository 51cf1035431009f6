import BraceFormat.Proofs.CallFailures
import BraceFormat.Proofs.Narrowing
import BraceFormat.Proofs.CountLimit
/-!
# Refusals after binding

Binding checks each placeholder's value against the capability its conversion needs, and
rendering checks it again before it asks a numeric conversion's value for its number. After a
binding that succeeds the capability check always passes, so the one formatting error left to
rendering is the refusal of a value that has no number suiting its conversion: a conversion that
writes a number (`b`, `o`, `x`, `X`, `e`, `E`) and a value with no number at all, or a base
conversion (`b`, `o`, `x`, `X`) and a binary64 or decimal number (`Bound.lacksNumber`).

Rendering walks the pieces from the left and stops at the first failure. So a rendering that
fails with a formatting error refuses the leftmost refused placeholder, at its offset, and one
whose pieces before that placeholder all render does fail there. The other failures are faults
of converting a value past a limit of the machine: a fraction beyond the binary64 range, an
integer beyond the digit limit, a width, a precision or a text beyond what can be made. A
fraction is rendered through its nearest binary64 number, so a fraction beyond the binary64 range
fails to render under any conversion with an `OverflowError`, although its kind has every
capability that binding checked.

Binding only grants a value capabilities its raw value has by itself (`Bound.Faithful`): a plain
value gets the natural set of its kind, and narrowing only removes capabilities. Integers have a
number for every conversion, binary64 and decimal numbers and fractions have no base capability,
and text and booleans have no numeric capability. So every refused value is an object.

## Main definitions

* `Conversion.writesText`: display and debug, which need no number.
* `Bound.lacksNumber`: a value without a number that suits a conversion.
* `Piece.refusal?`: the refusal rendering makes of a piece.
* `Bound.Faithful`: a bound value without capabilities beyond its raw value's own.
* `Value.Received`: the values a call receives, which bind faithfully.

## Main results

* `Bound.render_eq_format_iff`: a value with its capability is refused exactly when it lacks a
  number, with the refusal of its conversion, its kind and its offset.
* `renderPieces_eq_error_cases`: rendering bound pieces fails at the leftmost refusal or with a
  fault past a limit.
* `Bound.kind_of_lacksNumber`: a faithful value refused for want of a number is an object.
* `render_after_binding_refuses_leftmost`: the laws of rendering after a binding that succeeds.
-/

namespace BraceFormat

/-! ### Values without a suitable number -/

/-- Whether a conversion writes a value's text, needing no number: display and debug. -/
def Conversion.writesText : Conversion → Bool
  | .display | .debug => true
  | _ => false

namespace Bound

/-- Whether a value has no number that suits a conversion: no number at all for a conversion
that writes a number, or a binary64 or decimal number for a base conversion. A number that
cannot be taken is a fault, not a refusal. -/
def lacksNumber (b : Bound) (conv : Conversion) : Bool :=
  match b.number with
  | .ok none => !conv.writesText
  | .ok (some (.int _)) => false
  | .ok (some _) => Rendered.isBase conv
  | .error _ => false

/-- A bound value with no capability beyond those its raw value has by itself. -/
def Faithful (b : Bound) : Prop :=
  ∀ c, b.caps.has c = true → b.raw.ownCaps.has c = true

/-- A value of a numeric kind has a number, or fails to give one. -/
theorem number_ne_none_of_isNumeric {b : Bound} (h : b.kind.isNumeric = true) :
    b.number ≠ .ok none := by
  rcases b with ⟨raw, caps⟩
  cases raw with
  | fraction q =>
    show (some ∘ Number.float) <$> q.toBinary64 ≠ _
    cases q.toBinary64 <;> simp [Functor.map, Except.map]
  | _ => simp_all [kind, Value.classify, Kind.isNumeric, number, Value.number]

/-- Display and debug never lack a number. -/
theorem lacksNumber_of_writesText {b : Bound} {conv : Conversion} (h : conv.writesText = true) :
    b.lacksNumber conv = false := by
  unfold lacksNumber
  have hbase : Rendered.isBase conv = false := by
    cases conv <;> simp_all [Conversion.writesText, Rendered.isBase]
  split <;> simp [h, hbase]

/-- **A value with its capability is refused exactly when it lacks a number**, with the refusal
of its conversion, its kind and its offset. -/
theorem render_eq_format_iff {b : Bound} {spec : Spec}
    (hcap : b.caps.has spec.conversion.capability = true) (p : Option Nat) (o : Nat)
    (e : FormatError) :
    b.render spec p o = .error (.format e) ↔
      b.lacksNumber spec.conversion = true ∧ e = .unsupported spec.conversion b.kind o := by
  unfold render
  rw [if_pos hcap]
  split
  · rename_i hdisp
    have hw : spec.conversion.writesText = true := by
      simp only [Bool.and_eq_true, decide_eq_true_eq] at hdisp
      rw [hdisp.1]; rfl
    simp [map_mapError_fault_ne_format, lacksNumber_of_writesText hw]
  split
  · rename_i hdbg
    have hw : spec.conversion.writesText = true := by
      simp only [Bool.and_eq_true, decide_eq_true_eq] at hdbg
      rw [hdbg.1]; rfl
    simp [map_mapError_fault_ne_format, lacksNumber_of_writesText hw]
  rename_i hdbg hdisp
  have hnone : b.number = .ok none → spec.conversion.writesText = false := by
    intro hn
    have hk : b.kind.isNumeric = false := by
      cases hk : b.kind.isNumeric
      · rfl
      · exact absurd hn (number_ne_none_of_isNumeric hk)
    cases hc : spec.conversion <;> simp_all [Conversion.writesText]
  unfold lacksNumber
  rcases hn : b.number with f | (_ | (i | x | d))
  · simp [Except.mapError, bind, Except.bind]
  · simp [Except.mapError, bind, Except.bind, hnone hn, eq_comm]
  · simp only [Except.mapError, bind, Except.bind, Bool.false_eq_true, false_and, iff_false]
    split <;> simp
  all_goals
    by_cases hb : Rendered.isBase spec.conversion
    · simp [Except.mapError, bind, Except.bind, hb, eq_comm]
    · simp only [Except.mapError, bind, Except.bind, hb, if_false, Bool.false_eq_true, false_and,
        iff_false]
      split <;> simp

/-- A value of a numeric kind whose number cannot be taken fails to render with that fault. -/
theorem render_of_number_error {b : Bound} {spec : Spec}
    (hcap : b.caps.has spec.conversion.capability = true) (hk : b.kind.isNumeric = true)
    {f : Fault} (hn : b.number = .error f) (p : Option Nat) (o : Nat) :
    b.render spec p o = .error (.fault f) := by
  unfold render
  simp only [hcap, hk, Bool.not_true, Bool.and_false, Bool.false_eq_true, if_true, if_false, hn]
  rfl

end Bound


/-! ### Refused pieces -/

namespace Piece

/-- The refusal rendering makes of a piece whose value has its capability: the refusal of a
placeholder whose value lacks a number for its conversion. -/
def refusal? : Piece → Option FormatError
  | .literal _ => none
  | .slot spec b _ _ o =>
    if b.lacksNumber spec.conversion then some (.unsupported spec.conversion b.kind o) else none

/-- A piece that passes its capability check fails with a formatting error exactly when it is
refused, and with its refusal. -/
theorem render_eq_format_iff {q : Piece} (hq : q.Capable) (e : FormatError) :
    q.render = .error (.format e) ↔ q.refusal? = some e := by
  cases q with
  | literal s => simp [render, refusal?]
  | slot spec b w p o =>
    have hiff := Bound.render_eq_format_iff hq p o e
    simp only [render, refusal?]
    constructor
    · intro h
      rcases bind_eq_error.1 h with h | ⟨r, -, h⟩
      · obtain ⟨hl, rfl⟩ := hiff.1 h
        simp [hl]
      · split at h <;> cases h
    · intro h
      have hl : b.lacksNumber spec.conversion = true := by
        by_contra hl
        simp [hl] at h
      rw [if_pos hl, Option.some.injEq] at h
      rw [hiff.2 ⟨hl, h.symm⟩]
      rfl

/-- A piece that passes its capability check fails with its refusal, or with a fault past a
limit. -/
theorem render_eq_error_cases {q : Piece} (hq : q.Capable) {e : CallError}
    (h : q.render = .error e) :
    (∃ f, e = .fault f ∧ f.isLimit = true) ∨ ∃ fe, e = .format fe ∧ q.refusal? = some fe := by
  have hlim := q.render_failsOnly e h
  cases e with
  | format fe => exact .inr ⟨fe, rfl, (render_eq_format_iff hq fe).1 h⟩
  | fault f => exact .inl ⟨f, rfl, hlim⟩
  | notText _ => cases hlim

/-- A piece that renders is not refused. -/
theorem refusal?_eq_none {q : Piece} (hq : q.Capable) {s : String} (h : q.render = .ok s) :
    q.refusal? = none := by
  cases hr : q.refusal? with
  | none => rfl
  | some fe => rw [(render_eq_format_iff hq fe).2 hr] at h; cases h

end Piece

/-- The pieces render exactly when each of them does. -/
theorem renderPieces_eq_ok_iff {ps : List Piece} :
    (∃ t, renderPieces ps = .ok t) ↔ ∀ q ∈ ps, ∃ s, q.render = .ok s := by
  induction ps with
  | nil => simp [renderPieces]
  | cons q ps ih =>
    rw [List.forall_mem_cons, ← ih]
    constructor
    · rintro ⟨t, h⟩
      obtain ⟨s, hq, h⟩ := bind_eq_ok.1 h
      obtain ⟨t', hps, -⟩ := bind_eq_ok.1 h
      exact ⟨⟨s, hq⟩, t', hps⟩
    · rintro ⟨⟨s, hq⟩, t, hps⟩
      exact ⟨s ++ t, by simp [renderPieces, hq, hps, bind, Except.bind, pure, Except.pure]⟩

/-- **Rendering bound pieces fails at the leftmost refusal**, or with a fault past a limit. -/
theorem renderPieces_eq_error_cases {ps : List Piece} (hps : ∀ q ∈ ps, q.Capable)
    {e : CallError} (h : renderPieces ps = .error e) :
    (∃ f, e = .fault f ∧ f.isLimit = true) ∨
      ∃ pre q post fe, ps = pre ++ q :: post ∧ (∀ q' ∈ pre, q'.refusal? = none) ∧
        q.refusal? = some fe ∧ e = .format fe := by
  obtain ⟨pre, q, post, rfl, hpre, hq⟩ := renderPieces_eq_error.1 h
  have hcap := fun q' (hq' : q' ∈ pre) => hps q' (List.mem_append_left _ hq')
  rcases Piece.render_eq_error_cases (hps q (by simp)) hq with hlim | ⟨fe, rfl, hfe⟩
  · exact .inl hlim
  · refine .inr ⟨pre, q, post, fe, rfl, fun q' hq' => ?_, hfe, rfl⟩
    obtain ⟨s, hs⟩ := renderPieces_eq_ok_iff.1 hpre q' hq'
    exact Piece.refusal?_eq_none (hcap q' hq') hs

/-- Bound pieces whose pieces before a refused one all render fail with its refusal. -/
theorem renderPieces_of_refusal {pre post : List Piece} {q : Piece} {fe : FormatError}
    (hpre : ∀ q' ∈ pre, ∃ s, q'.render = .ok s) (hq : q.Capable) (hfe : q.refusal? = some fe) :
    renderPieces (pre ++ q :: post) = .error (.format fe) :=
  renderPieces_eq_error.2
    ⟨pre, q, post, rfl, renderPieces_eq_ok_iff.2 hpre, (Piece.render_eq_format_iff hq fe).2 hfe⟩

/-! ### Refused values are objects -/

namespace Bound

/-- The capabilities a kind has by itself cover the numeric conversions only for integers, and
the base conversions only for integers and objects. -/
theorem natural_has_numeric {k : Kind} {conv : Conversion}
    (h : k.natural.has conv.capability = true) :
    (conv.writesText = false → k = .integer ∨ k = .float ∨ k = .object) ∧
      (Rendered.isBase conv = true → k = .integer ∨ k = .object) := by
  cases k <;> cases conv <;> simp_all [Kind.natural, Caps.has, Caps.texts, Caps.all,
    Conversion.capability, Conversion.writesText, Rendered.isBase]

/-- **A faithful value refused for want of a number is an object**: integers have a number for
every conversion, binary64 and decimal numbers and fractions have no base capability, and text
and booleans have no numeric capability. -/
theorem kind_of_lacksNumber {b : Bound} {conv : Conversion} (hb : b.Faithful)
    (hcap : b.caps.has conv.capability = true) (h : b.lacksNumber conv = true) :
    b.kind = .object := by
  have hown := hb _ hcap
  rcases b with ⟨raw, caps⟩
  cases raw with
  | int i => simp [lacksNumber, number, Value.number] at h
  | float _ | decimal _ =>
    have hbase : Rendered.isBase conv = true := by simpa [lacksNumber, number, Value.number] using h
    simpa [Value.classify] using (natural_has_numeric hown).2 hbase
  | fraction q =>
    have hbase : Rendered.isBase conv = true := by
      cases hq : q.toBinary64 <;>
        simp [lacksNumber, number, Value.number, hq, Functor.map, Except.map] at h
      exact h
    simpa [Value.classify] using (natural_has_numeric hown).2 hbase
  | text _ | bool _ =>
    have hnum : conv.writesText = false := by simpa [lacksNumber, number, Value.number] using h
    simpa [Value.classify] using (natural_has_numeric hown).1 hnum
  | _ => rfl

end Bound

/-! ### Binding is faithful -/

/-- A value that is not already bound binds with the capabilities of its own. -/
theorem Value.faithful_bind {v : Value} (hv : ∀ raw c, v ≠ .bound raw c) :
    (v.bind Option.none).Faithful := by
  cases v <;> simp_all [Value.bind, Bound.Faithful]

/-- Narrowing a value that binds faithfully gives a value that binds faithfully. -/
theorem Value.faithful_narrow {v : Value} (hv : (v.bind Option.none).Faithful) (A : Caps) :
    ((v.narrow A).bind Option.none).Faithful := by
  rw [Value.narrow_bind]
  intro c hc
  rw [Bound.narrowBy_caps, Caps.has_inter, Bool.and_eq_true] at hc
  exact hv c hc.1

/-- The values a call receives: plain values, caller-defined and formattable objects among them,
and the results of binding such a value with a set of capabilities, however often. -/
inductive Value.Received : Value → Prop
  | plain {v : Value} : (∀ raw c, v ≠ .bound raw c) → Value.Received v
  | narrow {v : Value} (A : Caps) : Value.Received v → Value.Received (v.narrow A)

/-- **Every value a call receives binds faithfully.** -/
theorem Value.Received.faithful {v : Value} (h : v.Received) : (v.bind Option.none).Faithful := by
  induction h with
  | plain hv => exact Value.faithful_bind hv
  | narrow A _ ih => exact Value.faithful_narrow ih A

/-- Every value a placeholder binds is faithful when every argument binds faithfully. -/
theorem bindSegments_faithful {cfg : Config} {positional : List Value}
    {named : List (String × Value)} {segs : List Segment} {u u' : Usage} {ps : List Piece}
    (h : bindSegments cfg (.ofValues positional named) segs u = .ok (ps, u'))
    (hpos : ∀ v ∈ positional, (v.bind Option.none).Faithful)
    (hnamed : ∀ nv ∈ named, (nv.2.bind Option.none).Faithful) :
    ∀ spec b w p o, Piece.slot spec b w p o ∈ ps → b.Faithful := by
  intro spec b w p o hq
  rcases bindSegments_values cfg _ h spec b w p o hq with hb | ⟨n, hb⟩
  · obtain ⟨v, hv, rfl⟩ := List.mem_map.1 hb
    exact hpos v hv
  · obtain ⟨⟨n', v⟩, hv, he⟩ := List.mem_map.1 hb
    obtain ⟨-, rfl⟩ := Prod.mk.inj he
    exact hnamed _ hv

/-! ### Rendering after binding -/

/-- After a binding of arguments that bind faithfully, every refused value is an object. -/
theorem refusal_of_faithful {t : Template} {cfg : Config} {positional : List Value}
    {named : List (String × Value)} {ps : List Piece}
    (hbind : t.bindPieces cfg (.ofValues positional named) = .ok ps)
    (hpos : ∀ v ∈ positional, (v.bind Option.none).Faithful)
    (hnamed : ∀ nv ∈ named, (nv.2.bind Option.none).Faithful) :
    ∀ q ∈ ps, ∀ fe, q.refusal? = some fe → ∃ conv o, fe = .unsupported conv .object o := by
  obtain ⟨u, hsegs, -⟩ := (Template.bindPieces_eq_ok _ _).1 hbind
  intro q hq fe hfe
  cases q with
  | literal s => cases hfe
  | slot spec b w p o =>
    have hl : b.lacksNumber spec.conversion = true := by
      by_contra hl
      simp [Piece.refusal?, hl] at hfe
    simp only [Piece.refusal?, hl, if_true, Option.some.injEq] at hfe
    have hk := Bound.kind_of_lacksNumber (bindSegments_faithful hsegs hpos hnamed spec b w p o hq)
      (bindSegments_capable cfg _ hsegs _ hq) hl
    exact ⟨spec.conversion, o, by rw [← hfe, hk]⟩

/-- **Rendering after a binding that succeeds refuses only values without a suitable number, at
the leftmost such placeholder.** Given pieces bound from a template and arguments:

* rendering fails with a fault past a limit of the machine, or with the refusal of a piece
  before which no piece is refused: the refusal of its conversion, its kind and its offset, for a
  value with no number that suits a conversion writing a number;
* when the pieces before a refused piece all render, rendering fails with its refusal;
* when every argument binds faithfully, every refused value is an object;
* in particular when every argument is a value a call receives: a plain value, a formattable
  object, or the result of binding one with a set of capabilities. -/
theorem render_after_binding_refuses_leftmost {t : Template} {cfg : Config}
    {positional : List Value} {named : List (String × Value)} {ps : List Piece}
    (hbind : t.bindPieces cfg (.ofValues positional named) = .ok ps) :
    (∀ e, renderPieces ps = .error e →
      (∃ f, e = .fault f ∧ f.isLimit = true) ∨
      ∃ pre q post fe, ps = pre ++ q :: post ∧ (∀ q' ∈ pre, q'.refusal? = none) ∧
        q.refusal? = some fe ∧ e = .format fe) ∧
    (∀ pre q post fe, ps = pre ++ q :: post → (∀ q' ∈ pre, ∃ s, q'.render = .ok s) →
      q.refusal? = some fe → renderPieces ps = .error (.format fe)) ∧
    ((∀ v ∈ positional, (v.bind Option.none).Faithful) →
      (∀ nv ∈ named, (nv.2.bind Option.none).Faithful) →
      ∀ q ∈ ps, ∀ fe, q.refusal? = some fe → ∃ conv o, fe = .unsupported conv .object o) ∧
    ((∀ v ∈ positional, v.Received) → (∀ nv ∈ named, nv.2.Received) →
      ∀ q ∈ ps, ∀ fe, q.refusal? = some fe → ∃ conv o, fe = .unsupported conv .object o) := by
  obtain ⟨u, hsegs, -⟩ := (Template.bindPieces_eq_ok _ _).1 hbind
  have hcap := bindSegments_capable cfg _ hsegs
  refine ⟨fun e h => renderPieces_eq_error_cases hcap h, ?_, refusal_of_faithful hbind,
    fun hpos hnamed => refusal_of_faithful hbind (fun v hv => (hpos v hv).faithful)
      fun nv hnv => (hnamed nv hnv).faithful⟩
  rintro pre q post fe rfl hpre hfe
  exact renderPieces_of_refusal hpre (hcap q (by simp)) hfe

/-- An object with the hex capability and no number binds under `{:x}`, and rendering refuses it
at its placeholder, as the object it is. -/
theorem hex_object_without_number_is_refused :
    Template.bindPieces ⟨[.placeholder { conversion := .lowerHex } 0]⟩ {}
        (.ofValues [.object { caps := { hex := true } } none] []) =
      .ok [.slot { conversion := .lowerHex }
        ((Value.object { caps := { hex := true } } none).bind Option.none) none none 0] ∧
    renderPieces [.slot { conversion := .lowerHex }
        ((Value.object { caps := { hex := true } } none).bind Option.none) none none 0] =
      .error (.format (.unsupported .lowerHex .object 0)) ∧
    (Value.object { caps := { hex := true } } none).Received ∧
    ∃ conv o, FormatError.unsupported .lowerHex .object 0 = .unsupported conv .object o := by
  have hbind : Template.bindPieces ⟨[.placeholder { conversion := .lowerHex } 0]⟩ {}
      (.ofValues [.object { caps := { hex := true } } none] []) =
        .ok [.slot { conversion := .lowerHex }
          ((Value.object { caps := { hex := true } } none).bind Option.none) none none 0] := rfl
  have hreceived : (Value.object { caps := { hex := true } } none).Received :=
    .plain fun _ _ h => by cases h
  obtain ⟨-, hleft, -, hobject⟩ := render_after_binding_refuses_leftmost hbind
  refine ⟨hbind, hleft [] _ [] _ rfl (by simp) rfl, hreceived, ?_⟩
  exact hobject (by simpa using hreceived) (by simp) _ List.mem_cons_self _ rfl

/-- **A fraction beyond the binary64 range binds under `{}`, then fails to render with an
`OverflowError`**: its number is taken through its nearest binary64 number, which does not
exist. -/
theorem huge_fraction_binds_then_overflows :
    Template.bindPieces ⟨[.placeholder {} 0]⟩ {} (.ofValues [.fraction ⟨10 ^ 400, 1⟩] []) =
        .ok [.slot {} ((Value.fraction ⟨10 ^ 400, 1⟩).bind Option.none) none none 0] ∧
      renderPieces [.slot {} ((Value.fraction ⟨10 ^ 400, 1⟩).bind Option.none) none none 0] =
        .error (.fault .quotientOverflow) ∧
      formatValue (.text "\x7b\x7d") {} [.fraction ⟨10 ^ 400, 1⟩] [] =
        .error (.fault .quotientOverflow) ∧
      Fault.quotientOverflow.kind = "OverflowError" := by
  have hbind : Template.bindPieces ⟨[.placeholder {} 0]⟩ {}
      (.ofValues [.fraction ⟨10 ^ 400, 1⟩] []) =
        .ok [.slot {} ((Value.fraction ⟨10 ^ 400, 1⟩).bind Option.none) none none 0] := rfl
  have hread : Template.read "\x7b\x7d" = .ok ⟨[.placeholder {} 0]⟩ := by decide +kernel
  have hvalue : ((Value.fraction ⟨10 ^ 400, 1⟩).bind Option.none).render {} none 0 =
      .error (.fault .quotientOverflow) :=
    Bound.render_of_number_error rfl rfl Bound.number_huge_fraction none 0
  have hrender : renderPieces [.slot {} ((Value.fraction ⟨10 ^ 400, 1⟩).bind Option.none) none
      none 0] = .error (.fault .quotientOverflow) :=
    renderPieces_eq_error.2 ⟨[], _, [], rfl, ⟨"", rfl⟩, bind_eq_error.2 (.inl hvalue)⟩
  refine ⟨hbind, hrender, ?_, rfl⟩
  show formatText _ _ _ _ = _
  rw [formatText_of_read hread, hbind]
  exact bind_eq_error.2 (.inr ⟨_, rfl, hrender⟩)

end BraceFormat
