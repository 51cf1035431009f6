import BraceFormat.Proofs.FirstFailure
/-!
# The limit on counts

A call may be given a largest width and precision (`Config.maxCount`). Each count is checked
against it where it is resolved, after its argument has given a number, and the check only ever
refuses: a count above the limit is refused, a count within it passes as it would under no limit
at all (`Arguments.resolveCount_eq_check`). The limit therefore acts on a binding through the
counts it meets and nothing else, and three facts about whole bindings follow:

* every width and precision that reaches rendering is within the limit;
* a binding under one limit is the binding under any other limit its counts fit, so a call that
  succeeds under a limit succeeds with the same text under any larger limit and under none;
* under a smaller limit the binding fails at the first placeholder with a count above it, with
  the refusal of that count.

A count taken from an argument is accepted exactly when the argument's number is a non-negative
integer within the limit. Only an integer, or an object whose own number or index is one, has an
integer number, so booleans, texts, binary64 and decimal numbers and fractions are refused
whatever their value. A refusal is a formatting error when the refused value can be written: an
integer count beyond the digit limit cannot, and a fraction beyond the binary64 range has no
number to check, so those fail with a fault instead.

## Main definitions

* `fitsLimit`: whether a count passes a limit.
* `Piece.countsFit`: whether the width and the precision of a piece do.
* `Count.source`, `checkLimit`: the argument a count is taken from, and the check of a resolved
  count against a limit.

## Main results

* `Arguments.resolveCount_eq_check`: a count resolves as with no limit, then meets the check.
* `bindSegments_countsFit`: every count of a binding passes its limit.
* `bindSegments_relimit`: a binding is the same under every limit its counts pass.
* `bindSegments_exceeds`: under a smaller limit, a binding fails at its first count above it.
* `Template.format_relimit`: a call that succeeds under a limit succeeds alike under any limit
  that passes every count the first one passes.
* `Arguments.resolveCount_given_eq_ok`: a count from an argument is accepted exactly when the
  argument's number is a non-negative integer within the limit.
* `call_respects_count_limit`: these facts together for one call.
-/

namespace BraceFormat

/-! ### The check of a count -/

/-- Whether a count passes a limit: there is none, or the count is at most it. -/
def fitsLimit : Option Nat → Nat → Bool
  | none, _ => true
  | some m, n => decide (n ≤ m)

@[simp]
theorem fitsLimit_none (n : Nat) : fitsLimit none n = true := rfl

@[simp]
theorem fitsLimit_some (m n : Nat) : fitsLimit (some m) n = decide (n ≤ m) := rfl

/-- Whether the width and the precision of a piece pass a limit. -/
def Piece.countsFit (limit : Option Nat) : Piece → Bool
  | .literal _ => true
  | .slot _ _ w p _ => w.all (fitsLimit limit) && p.all (fitsLimit limit)

/-- The argument a count is taken from: none for a literal count. -/
def Count.source : Count → Option Selector
  | .literal _ => none
  | .given s => some s

/-- The check of a resolved count against a limit: a count above it is refused. -/
def checkLimit (limit : Option Nat) (src : Option Selector) (o : Nat) :
    Option Nat × Usage → Except CallError (Option Nat × Usage)
  | (some n, u) =>
    match limit with
    | some m =>
      if m < n then .error (.refusedCount src (.int n) (.tooLarge m) o) else .ok (some n, u)
    | none => .ok (some n, u)
  | (none, u) => .ok (none, u)

section Check

variable {limit : Option Nat} {src : Option Selector} {o : Nat}

/-- A count that passes the limit passes the check unchanged. -/
theorem checkLimit_of_fits {n? : Option Nat} {u : Usage} (h : n?.all (fitsLimit limit) = true) :
    checkLimit limit src o (n?, u) = .ok (n?, u) := by
  rcases n? with _ | n
  · rfl
  cases limit with
  | none => rfl
  | some m =>
    simp only [Option.all_some, fitsLimit_some, decide_eq_true_eq] at h
    simp [checkLimit, Nat.not_lt.2 h]

/-- A count above the limit is refused. -/
theorem checkLimit_of_lt {m n : Nat} {u : Usage} (h : m < n) :
    checkLimit (some m) src o (some n, u) =
      .error (.refusedCount src (.int n) (.tooLarge m) o) := by
  simp [checkLimit, h]

/-- The check passes only a count within the limit, and passes it unchanged. -/
theorem checkLimit_eq_ok {n? : Option Nat} {u : Usage} {r : Option Nat × Usage}
    (h : checkLimit limit src o (n?, u) = .ok r) :
    r = (n?, u) ∧ n?.all (fitsLimit limit) = true := by
  rcases n? with _ | n
  · exact ⟨(Except.ok.inj h).symm, rfl⟩
  cases limit with
  | none => exact ⟨(Except.ok.inj h).symm, rfl⟩
  | some m =>
    by_cases hm : m < n
    · rw [checkLimit_of_lt hm] at h
      cases h
    · simp only [checkLimit, if_neg hm] at h
      exact ⟨(Except.ok.inj h).symm, by simpa using Nat.not_lt.1 hm⟩

end Check

/-! ### Resolving a count under a limit -/

namespace Arguments

variable (args : Arguments)

/-- **A count resolves as with no limit, then meets the check.** -/
theorem resolveCount_eq_check (limit : Option Nat) (u : Usage) (c : Option Count) (o : Nat) :
    args.resolveCount limit u c o =
      args.resolveCount none u c o >>= checkLimit limit (c.bind Count.source) o := by
  rcases c with _ | n | s
  · rfl
  · cases limit <;> rfl
  · simp only [resolveCount]
    rcases args.resolve u s o with e | ⟨b, u₁⟩
    · rfl
    dsimp only [bind, Except.bind]
    rcases b.count? with f | _ | n
    · rfl
    · rfl
    · cases limit <;> rfl

variable {args} {limit limit' : Option Nat} {u u' : Usage} {c : Option Count} {o : Nat}
  {n? : Option Nat}

/-- A count resolved under a limit passes it, and resolves alike under no limit. -/
theorem resolveCount_eq_ok_unlimited (h : args.resolveCount limit u c o = .ok (n?, u')) :
    args.resolveCount none u c o = .ok (n?, u') ∧ n?.all (fitsLimit limit) = true := by
  rw [resolveCount_eq_check, bind_eq_ok] at h
  obtain ⟨⟨m?, u₁⟩, h0, hc⟩ := h
  obtain ⟨he, hfit⟩ := checkLimit_eq_ok hc
  obtain ⟨rfl, rfl⟩ := Prod.mk.inj he
  exact ⟨h0, hfit⟩

/-- A count resolves alike under every limit it passes. -/
theorem resolveCount_relimit (h : args.resolveCount limit u c o = .ok (n?, u'))
    (hfit : n?.all (fitsLimit limit') = true) :
    args.resolveCount limit' u c o = .ok (n?, u') := by
  rw [resolveCount_eq_check, (resolveCount_eq_ok_unlimited h).1]
  exact checkLimit_of_fits hfit

/-- A count resolved under one limit is refused under a smaller limit it exceeds. -/
theorem resolveCount_exceeds {m n : Nat} (h : args.resolveCount limit u c o = .ok (some n, u'))
    (hn : m < n) :
    args.resolveCount (some m) u c o =
      .error (.refusedCount (c.bind Count.source) (.int n) (.tooLarge m) o) := by
  rw [resolveCount_eq_check, (resolveCount_eq_ok_unlimited h).1]
  exact checkLimit_of_lt hn

end Arguments

/-! ### Binding under a limit -/

section Binding

variable {cfg : Config} {args : Arguments} {limit : Option Nat} {u u' : Usage}

/-- The settings with another limit. -/
abbrev Config.withLimit (cfg : Config) (limit : Option Nat) : Config :=
  { cfg with maxCount := limit }

theorem bindSlot_countsFit {spec : Spec} {o : Nat} {q : Piece}
    (h : bindSlot cfg args spec o u = .ok (q, u')) : q.countsFit cfg.maxCount = true := by
  obtain ⟨w, u₁, p, u₂, b, hw, hp, -, -, rfl⟩ := (bindSlot_eq_ok cfg args).1 h
  simp [Piece.countsFit, (Arguments.resolveCount_eq_ok_unlimited hw).2,
    (Arguments.resolveCount_eq_ok_unlimited hp).2]

theorem bindSlot_relimit {spec : Spec} {o : Nat} {q : Piece}
    (h : bindSlot cfg args spec o u = .ok (q, u')) (hfit : q.countsFit limit = true) :
    bindSlot (cfg.withLimit limit) args spec o u = .ok (q, u') := by
  obtain ⟨w, u₁, p, u₂, b, hw, hp, hb, hcap, rfl⟩ := (bindSlot_eq_ok cfg args).1 h
  simp only [Piece.countsFit, Bool.and_eq_true] at hfit
  exact (bindSlot_eq_ok _ args).2 ⟨w, u₁, p, u₂, b, Arguments.resolveCount_relimit hw hfit.1,
    Arguments.resolveCount_relimit hp hfit.2, hb, hcap, rfl⟩

/-- **A placeholder with a count above a smaller limit is refused there**: at its width when the
width is above the limit, at its precision otherwise. -/
theorem bindSlot_exceeds {spec : Spec} {b : Bound} {w p : Option Nat} {o m : Nat}
    (h : bindSlot cfg args spec o u = .ok (.slot spec b w p o, u'))
    (hfit : (Piece.slot spec b w p o).countsFit (some m) = false) :
    ∃ src n, m < n ∧ (w = some n ∨ w.all (fitsLimit (some m)) = true ∧ p = some n) ∧
      bindSlot (cfg.withLimit (some m)) args spec o u =
        .error (.refusedCount src (.int n) (.tooLarge m) o) := by
  obtain ⟨w', u₁, p', u₂, b', hw, hp, -, -, hq⟩ := (bindSlot_eq_ok cfg args).1 h
  cases hq
  by_cases hwf : w.all (fitsLimit (some m)) = true
  · have hpf : p.all (fitsLimit (some m)) = false := by
      simpa [Piece.countsFit, hwf] using hfit
    obtain ⟨n, rfl, hn⟩ : ∃ n, p = some n ∧ m < n := by
      rcases p with _ | n
      · cases hpf
      · exact ⟨n, rfl, by simpa using hpf⟩
    refine ⟨spec.precision.bind Count.source, n, hn, .inr ⟨hwf, rfl⟩, ?_⟩
    rw [bindSlot]
    refine bind_eq_error.2 (.inr ⟨(w, u₁), Arguments.resolveCount_relimit hw hwf, ?_⟩)
    exact bind_eq_error.2 (.inl (Arguments.resolveCount_exceeds hp hn))
  · obtain ⟨n, rfl, hn⟩ : ∃ n, w = some n ∧ m < n := by
      rcases w with _ | n
      · exact absurd rfl hwf
      · exact ⟨n, rfl, by simpa using hwf⟩
    refine ⟨spec.width.bind Count.source, n, hn, .inl rfl, ?_⟩
    rw [bindSlot]
    exact bind_eq_error.2 (.inl (Arguments.resolveCount_exceeds hw hn))

theorem bindSegment_countsFit {seg : Segment} {q : Piece}
    (h : bindSegment cfg args seg u = .ok (q, u')) : q.countsFit cfg.maxCount = true := by
  cases seg with
  | literal s =>
    obtain ⟨rfl, -⟩ := Prod.mk.inj (Except.ok.inj h)
    rfl
  | placeholder spec o => exact bindSlot_countsFit h

theorem bindSegment_relimit {seg : Segment} {q : Piece}
    (h : bindSegment cfg args seg u = .ok (q, u')) (hfit : q.countsFit limit = true) :
    bindSegment (cfg.withLimit limit) args seg u = .ok (q, u') := by
  cases seg with
  | literal s => exact h
  | placeholder spec o => exact bindSlot_relimit h hfit

/-- **Every width and precision a binding resolves passes its limit.** -/
theorem bindSegments_countsFit : ∀ {segs : List Segment} {u u' : Usage} {ps : List Piece},
    bindSegments cfg args segs u = .ok (ps, u') → ∀ q ∈ ps, q.countsFit cfg.maxCount = true
  | [], u, u', ps, h => by
    obtain ⟨rfl, -⟩ := Prod.mk.inj (Except.ok.inj h)
    intro q hq
    cases hq
  | seg :: rest, u, u', ps, h => by
    obtain ⟨q, u₁, ps, hq, hps, rfl⟩ := (bindSegments_cons_eq_ok cfg args).1 h
    intro q' hq'
    rcases List.mem_cons.1 hq' with rfl | hq'
    · exact bindSegment_countsFit hq
    · exact bindSegments_countsFit hps q' hq'

/-- **A binding is the same under every limit its counts pass.** -/
theorem bindSegments_relimit : ∀ {segs : List Segment} {u u' : Usage} {ps : List Piece},
    bindSegments cfg args segs u = .ok (ps, u') → (∀ q ∈ ps, q.countsFit limit = true) →
      bindSegments (cfg.withLimit limit) args segs u = .ok (ps, u')
  | [], u, u', ps, h, _ => h
  | seg :: rest, u, u', ps, h, hfit => by
    obtain ⟨q, u₁, ps, hq, hps, rfl⟩ := (bindSegments_cons_eq_ok cfg args).1 h
    exact (bindSegments_cons_eq_ok _ args).2 ⟨q, u₁, ps,
      bindSegment_relimit hq (hfit q List.mem_cons_self),
      bindSegments_relimit hps fun q' hq' => hfit q' (List.mem_cons_of_mem q hq'), rfl⟩

/-- **Under a smaller limit a binding fails at its first count above it.** When the pieces before
a placeholder pass the smaller limit and the placeholder's width or precision does not, binding
under that limit fails there, with the refusal of the count. -/
theorem bindSegments_exceeds {segs : List Segment} {pre post : List Piece} {spec : Spec}
    {b : Bound} {w p : Option Nat} {o m : Nat}
    (h : bindSegments cfg args segs u = .ok (pre ++ .slot spec b w p o :: post, u'))
    (hpre : ∀ q ∈ pre, q.countsFit (some m) = true)
    (hfit : (Piece.slot spec b w p o).countsFit (some m) = false) :
    ∃ src n, m < n ∧ (w = some n ∨ w.all (fitsLimit (some m)) = true ∧ p = some n) ∧
      bindSegments (cfg.withLimit (some m)) args segs u =
        .error (.refusedCount src (.int n) (.tooLarge m) o) := by
  obtain ⟨preS, seg, postS, u₁, u₂, rfl, hpreS, hseg, -⟩ := bindSegments_eq_ok_split cfg args h
  obtain rfl := bindSegment_slot cfg args hseg
  obtain ⟨src, n, hn, hwp, hslot⟩ := bindSlot_exceeds hseg hfit
  refine ⟨src, n, hn, hwp, ?_⟩
  exact (bindSegments_eq_error _ args).2
    ⟨preS, _, postS, pre, u₁, rfl, bindSegments_relimit hpreS hpre, hslot⟩

end Binding

theorem Piece.countsFit_mono {limit limit' : Option Nat}
    (hle : ∀ n, fitsLimit limit n = true → fitsLimit limit' n = true) {q : Piece}
    (h : q.countsFit limit = true) : q.countsFit limit' = true := by
  cases q with
  | literal s => rfl
  | slot spec b w p o =>
    simp only [Piece.countsFit, Bool.and_eq_true] at h ⊢
    constructor
    · rcases w with _ | n
      · rfl
      · exact hle n h.1
    · rcases p with _ | n
      · rfl
      · exact hle n h.2

/-! ### Calls under a limit -/

section Call

variable {cfg : Config} {args : Arguments} {limit : Option Nat} {t : Template} {ps : List Piece}

theorem Template.bindPieces_countsFit (h : t.bindPieces cfg args = .ok ps) :
    ∀ q ∈ ps, q.countsFit cfg.maxCount = true := by
  obtain ⟨u, hb, -⟩ := (Template.bindPieces_eq_ok cfg args).1 h
  exact bindSegments_countsFit hb

theorem Template.bindPieces_relimit (h : t.bindPieces cfg args = .ok ps)
    (hfit : ∀ q ∈ ps, q.countsFit limit = true) :
    t.bindPieces (cfg.withLimit limit) args = .ok ps := by
  obtain ⟨u, hb, hc⟩ := (Template.bindPieces_eq_ok cfg args).1 h
  exact (Template.bindPieces_eq_ok _ args).2 ⟨u, bindSegments_relimit hb hfit, hc⟩

/-- **A call that succeeds under a limit succeeds alike under any limit that passes every count
the first one passes.** -/
theorem Template.format_relimit {limit' : Option Nat} {positional : List Value}
    {named : List (String × Value)} {r : String}
    (h : t.format (cfg.withLimit limit) positional named = .ok r)
    (hle : ∀ n, fitsLimit limit n = true → fitsLimit limit' n = true) :
    t.format (cfg.withLimit limit') positional named = .ok r := by
  obtain ⟨ps, hb, hr⟩ := bind_eq_ok.1 h
  have hfit : ∀ q ∈ ps, q.countsFit limit' = true := fun q hq =>
    Piece.countsFit_mono hle (Template.bindPieces_countsFit hb q hq)
  have hb' : t.bindPieces ((cfg.withLimit limit).withLimit limit') _ = .ok ps :=
    Template.bindPieces_relimit hb hfit
  exact bind_eq_ok.2 ⟨ps, hb', hr⟩

end Call

/-! ### Counts taken from arguments -/

/-- **The values whose number is an integer**: an integer, an object whose own number is that
integer, and an object without an own number whose index is. -/
theorem Value.number_eq_ok_int {v : Value} {i : Int} :
    v.number = .ok (some (.int i)) ↔
      v = .int i ∨ (∃ ob, v = .object ob (some (.int i))) ∨
        ∃ ob, ob.index = some i ∧ v = .object ob Option.none := by
  cases v with
  | int j => simp [Value.number, eq_comm]
  | fraction q =>
    simp only [Value.number]
    rcases q.toBinary64 with f | x <;> simp [Functor.map, Except.map]
  | object ob n =>
    rcases n with _ | w
    · simp only [Value.number]
      rcases hj : ob.index with _ | j
      · rcases ob.real <;> simp [hj]
      · simp only [Except.ok.injEq, Option.some.injEq, Number.int.injEq]
        constructor
        · rintro rfl
          exact .inr (.inr ⟨ob, hj, rfl⟩)
        · rintro (h | ⟨_, h⟩ | ⟨ob', hi, h⟩)
          · cases h
          · cases h
          · cases h
            exact Option.some.inj (hj.symm.trans hi)
    · cases w <;> simp [Value.number, Value.asOwnNumber, eq_comm]
  | _ => simp [Value.number]

namespace Bound

/-- A bound value gives a count exactly when its number is a non-negative integer. -/
theorem count?_eq_ok_some {b : Bound} {n : Nat} :
    b.count? = .ok (some n) ↔ b.number = .ok (some (.int n)) := by
  unfold count?
  rcases b.number with f | _ | i | x | d
  · simp [bind, Except.bind]
  · simp [bind, Except.bind, pure, Except.pure]
  · by_cases hi : 0 ≤ i
    · simp only [bind, Except.bind, pure, Except.pure, if_pos hi, Except.ok.injEq,
        Option.some.injEq, Number.int.injEq]
      omega
    · simp only [bind, Except.bind, pure, Except.pure, if_neg hi, Except.ok.injEq,
        reduceCtorEq, false_iff, Option.some.injEq, Number.int.injEq]
      omega
  · simp [bind, Except.bind, pure, Except.pure]
  · simp [bind, Except.bind, pure, Except.pure]

/-- A bound value whose number is not a non-negative integer gives no count. -/
theorem count?_eq_ok_none {b : Bound} {x : Option Number} (h : b.number = .ok x)
    (hx : ∀ n : Nat, x ≠ some (.int n)) : b.count? = .ok none := by
  unfold count?
  rw [h]
  rcases x with _ | i | x | d
  · rfl
  · have hi : ¬0 ≤ i := fun hi => hx i.toNat (by rw [Int.toNat_of_nonneg hi])
    simp [bind, Except.bind, pure, Except.pure, hi]
  · rfl
  · rfl

end Bound

namespace Arguments

variable {args : Arguments} {limit : Option Nat} {u u' : Usage} {s : Selector} {o : Nat}
  {b : Bound}

/-- Resolving a count from an argument with no limit: the argument, then its count. -/
theorem resolveCount_none_given :
    args.resolveCount none u (some (.given s)) o =
      args.resolve u s o >>= fun (b, u₁) => b.count?.mapError CallError.fault >>= fun n? =>
        match n? with
        | some n => .ok (some n, u₁)
        | none => .error (.refusedCount (some s) b.raw .notCount o) := rfl

/-- **A count from an argument is accepted exactly when the argument's number is a non-negative
integer within the limit.** -/
theorem resolveCount_given_eq_ok {n : Nat} :
    args.resolveCount limit u (some (.given s)) o = .ok (some n, u') ↔
      ∃ b, args.resolve u s o = .ok (b, u') ∧ b.number = .ok (some (.int n)) ∧
        fitsLimit limit n = true := by
  constructor
  · intro h
    obtain ⟨h0, hfit⟩ := resolveCount_eq_ok_unlimited h
    rw [resolveCount_none_given, bind_eq_ok] at h0
    obtain ⟨⟨b, u₁⟩, hr, h0⟩ := h0
    rw [bind_eq_ok] at h0
    obtain ⟨n?, hc, h0⟩ := h0
    rcases n? with _ | n'
    · cases h0
    dsimp only at h0
    obtain ⟨hn', rfl⟩ := Prod.mk.inj (Except.ok.inj h0)
    obtain rfl := Option.some.inj hn'
    cases hcount : b.count? with
    | error f => rw [hcount] at hc; cases hc
    | ok m? =>
      rw [hcount] at hc
      cases hc
      exact ⟨b, hr, Bound.count?_eq_ok_some.1 hcount, hfit⟩
  · rintro ⟨b, hr, hn, hfit⟩
    have hcount := Bound.count?_eq_ok_some.2 hn
    have h0 : args.resolveCount none u (some (.given s)) o = .ok (some n, u') := by
      rw [resolveCount_none_given, hr]
      simp [bind, Except.bind, hcount, Except.mapError]
    exact resolveCount_relimit h0 (by simpa using hfit)

/-- A count from an argument whose number is not a non-negative integer is refused. -/
theorem resolveCount_given_notCount {x : Option Number} (hr : args.resolve u s o = .ok (b, u'))
    (hn : b.number = .ok x) (hx : ∀ n : Nat, x ≠ some (.int n)) :
    args.resolveCount limit u (some (.given s)) o =
      .error (.refusedCount (some s) b.raw .notCount o) := by
  rw [resolveCount_eq_check, resolveCount_none_given, hr]
  simp [bind, Except.bind, Bound.count?_eq_ok_none hn hx, Except.mapError]

/-- A count from an argument whose number cannot be taken fails with the fault of taking it. -/
theorem resolveCount_given_fault {f : Fault} (hr : args.resolve u s o = .ok (b, u'))
    (hn : b.number = .error f) :
    args.resolveCount limit u (some (.given s)) o = .error (.fault f) := by
  have hc : b.count? = .error f := by
    simp [Bound.count?, hn, bind, Except.bind]
  rw [resolveCount_eq_check, resolveCount_none_given, hr]
  simp [bind, Except.bind, hc, Except.mapError]

end Arguments

/-! ### The limit on a call -/

/-- **A call keeps to its count limit.** For a template, settings and arguments:
every width and precision of a binding is within the limit; a count from an argument is accepted
exactly when the argument's number is a non-negative integer within the limit, is refused when the
number is not one, and fails with the fault of taking the number when it cannot be taken; only
integers, and objects whose own number or index is an integer, have an integer number; a call that
succeeds under a limit succeeds with the same text under every larger limit and under none; under
a smaller limit than a binding's counts, binding fails at the first placeholder with a count above
it, with the refusal of that count; and a refusal is a formatting error when the refused value can
be written. -/
theorem call_respects_count_limit (t : Template) (cfg : Config) (positional : List Value)
    (named : List (String × Value)) :
    (∀ ps : List Piece, t.bindPieces cfg (.ofValues positional named) = .ok ps →
      ∀ q ∈ ps, q.countsFit cfg.maxCount = true) ∧
    (∀ (u : Usage) (s : Selector) (o n : Nat) (u' : Usage),
      (Arguments.ofValues positional named).resolveCount cfg.maxCount u
        (some (.given s)) o = .ok (some n, u') ↔
      ∃ b, (Arguments.ofValues positional named).resolve u s o = .ok (b, u') ∧
        b.number = .ok (some (.int n)) ∧ fitsLimit cfg.maxCount n = true) ∧
    (∀ (u : Usage) (s : Selector) (o : Nat) (b : Bound) (u' : Usage),
      (Arguments.ofValues positional named).resolve u s o = .ok (b, u') →
      (∀ x : Option Number, b.number = .ok x → (∀ n : Nat, x ≠ some (.int n)) →
        (Arguments.ofValues positional named).resolveCount cfg.maxCount u (some (.given s)) o =
          .error (.refusedCount (some s) b.raw .notCount o)) ∧
      ∀ f : Fault, b.number = .error f →
        (Arguments.ofValues positional named).resolveCount cfg.maxCount u (some (.given s)) o =
          .error (.fault f)) ∧
    (∀ (v : Value) (i : Int), v.number = .ok (some (.int i)) ↔
      v = .int i ∨ (∃ ob, v = .object ob (some (.int i))) ∨
        ∃ ob, ob.index = some i ∧ v = .object ob Option.none) ∧
    (∀ (m : Nat) (r : String), t.format (cfg.withLimit (some m)) positional named = .ok r →
      (∀ m' : Nat, m ≤ m' → t.format (cfg.withLimit (some m')) positional named = .ok r) ∧
        t.format (cfg.withLimit Option.none) positional named = .ok r) ∧
    (∀ (ps : List Piece) (u : Usage) (m : Nat) (pre : List Piece) (spec : Spec) (b : Bound)
      (w p : Option Nat) (o : Nat) (post : List Piece),
      bindSegments cfg (.ofValues positional named) t.segments {} = .ok (ps, u) →
      ps = pre ++ .slot spec b w p o :: post → (∀ q ∈ pre, q.countsFit (some m) = true) →
      (Piece.slot spec b w p o).countsFit (some m) = false →
      ∃ src n, m < n ∧ (w = some n ∨ p = some n) ∧
        t.bindPieces (cfg.withLimit (some m)) (.ofValues positional named) =
          .error (.refusedCount src (.int n) (.tooLarge m) o)) ∧
    ∀ (src : Option Selector) (v : Value) (f : CountFault) (o : Nat), v.writable = true →
      CallError.refusedCount src v f o = .format (.invalidCount src v f o) := by
  refine ⟨fun ps h => Template.bindPieces_countsFit h,
    fun u s o n u' => Arguments.resolveCount_given_eq_ok,
    fun u s o b u' hr => ⟨fun x hn hx => Arguments.resolveCount_given_notCount hr hn hx,
      fun f hn => Arguments.resolveCount_given_fault hr hn⟩,
    fun v i => Value.number_eq_ok_int, ?_, ?_, ?_⟩
  · -- a larger limit, or none, passes every count the first one passes
    intro m r h
    refine ⟨fun m' hm => Template.format_relimit h fun n hn => ?_,
      Template.format_relimit h fun n _ => rfl⟩
    simp only [fitsLimit_some, decide_eq_true_eq] at hn ⊢
    omega
  · intro ps u m pre spec b w p o post h hps hpre hfit
    subst hps
    obtain ⟨src, n, hn, hwp, hsegs⟩ := bindSegments_exceeds h hpre hfit
    refine ⟨src, n, hn, hwp.imp_right And.right, ?_⟩
    exact (Template.bindPieces_eq_error _ _).2 (.inl hsegs)
  · intro src v f o hv
    simp [CallError.refusedCount, hv]

/-- The width 5 passes the limit 5, so the call succeeds alike under the limit 7 and under
none. -/
theorem width_five_passes_larger_limits :
    Template.format ⟨[.placeholder { width := some (.literal 5) } 0]⟩
        (Config.withLimit {} (some 5)) [.text "a"] [] = .ok "a    " ∧
      Template.format ⟨[.placeholder { width := some (.literal 5) } 0]⟩
        (Config.withLimit {} (some 7)) [.text "a"] [] = .ok "a    " ∧
      Template.format ⟨[.placeholder { width := some (.literal 5) } 0]⟩
        (Config.withLimit {} Option.none) [.text "a"] [] = .ok "a    " := by
  have h : Template.format ⟨[.placeholder { width := some (.literal 5) } 0]⟩
      (Config.withLimit {} (some 5)) [.text "a"] [] = .ok "a    " := rfl
  obtain ⟨hlarger, hnone⟩ :=
    (call_respects_count_limit ⟨[.placeholder { width := some (.literal 5) } 0]⟩ {} [.text "a"]
      []).2.2.2.2.1 5 _ h
  exact ⟨h, hlarger 7 (by decide), hnone⟩

/-- The fraction `10 ^ 400` lies beyond the binary64 range: taking its number fails. -/
theorem Bound.number_huge_fraction :
    ((Value.fraction ⟨10 ^ 400, 1⟩).bind Option.none).number = .error .quotientOverflow := by
  have hq : Fraction.toBinary64 ⟨10 ^ 400, 1⟩ = .error .quotientOverflow := by
    decide +kernel
  show (some ∘ Number.float) <$> Fraction.toBinary64 ⟨10 ^ 400, 1⟩ = _
  rw [hq]
  rfl

/-- The call on `{:0$}` with the fraction `10 ^ 400`. -/
theorem formatValue_width_of_huge_fraction :
    formatValue (.text "\x7b:0$\x7d") {} [.fraction ⟨10 ^ 400, 1⟩] [] =
      .error (.fault .quotientOverflow) := by
  have hread : Template.read "\x7b:0$\x7d" =
      .ok ⟨[.placeholder { width := some (.given (.index 0)) } 0]⟩ := by
    decide +kernel
  have hwidth := @Arguments.resolveCount_given_fault
    (Arguments.ofValues [.fraction ⟨10 ^ 400, 1⟩] []) Option.none {} { positions := [0] }
    (.index 0) 0 _ _ rfl Bound.number_huge_fraction
  have hsegs : bindSegments {} (Arguments.ofValues [.fraction ⟨10 ^ 400, 1⟩] [])
      [.placeholder { width := some (.given (.index 0)) } 0] {} =
        .error (.fault .quotientOverflow) :=
    (bindSegments_eq_error _ _).2 ⟨[], _, [], [], {}, rfl, rfl, bind_eq_error.2 (.inl hwidth)⟩
  show formatText _ _ _ _ = _
  rw [formatText_of_read hread, (Template.bindPieces_eq_error _ _).2 (.inl hsegs)]
  rfl

/-- **A width from a fraction beyond the binary64 range fails with an `OverflowError`**, not
with the refusal of the count. -/
theorem width_from_huge_fraction_is_overflow :
    formatValue (.text "\x7b:0$\x7d") {} [.fraction ⟨10 ^ 400, 1⟩] [] =
        .error (.fault .quotientOverflow) ∧
      Fault.quotientOverflow.kind = "OverflowError" :=
  ⟨formatValue_width_of_huge_fraction, rfl⟩

end BraceFormat
