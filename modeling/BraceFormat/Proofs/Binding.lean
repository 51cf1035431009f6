import BraceFormat.Render.Engine
import Mathlib
/-!
# Binding, one step at a time

Binding walks a template's segments in order and threads one usage through them: the cursor of
the implicit selectors and the arguments used so far. This module says once what each step of
that walk can do, so that results about whole bindings are inductions over the segments that cite
these lemmas and never unfold the binding again.

A selector resolves to the argument it names and records it; only the implicit selector moves the
cursor, and it fails exactly when the cursor has passed the last positional argument. A count
resolves as its selector does and then checks the number, which may refuse it but never reports a
missing argument. A placeholder binds its width, its precision and its value in that order, then
checks the value's capability (`bindSlot`); a segment list binds its first segment, then the rest
(`bindSegments_cons`), so a failed binding fails at one segment with everything before it bound
(`bindSegments_eq_error`).

## Main definitions

* `bindSlot`, `bindSegment`: binding one placeholder, one segment.

## Main results

* `Arguments.resolve_eq_ok`, `Arguments.resolve_eq_exhausted`: what resolving a selector does.
* `Arguments.resolveCount_usage`, `Arguments.resolveCount_eq_exhausted`: the same for a count.
* `bindSlot_eq_ok`: what binding a placeholder does.
* `bindSegments_cons`, `bindSegments_cons_eq_ok`: a list binds its first segment, then the rest.
* `bindSegments_eq_error`: a failed binding fails at one segment, all before it bound.
* `bindSegments_append_eq_ok`, `bindSegments_eq_ok_split`: a binding splits where its segments
  do, and at each of its pieces.
* `bindSegments_cursor_le`: the cursor never passes the last positional argument.
* `bindSegments_values`: every bound value is an argument.
* `Template.bindPieces_eq_ok`, `Template.bindPieces_eq_error`: the binding phase is the binding,
  then the strict check.
-/

namespace BraceFormat

/-! ### Results of a computation that can fail -/

/-- A bind succeeds exactly when its first step succeeds and so does the rest. -/
theorem bind_eq_ok {ε α β : Type} {r : Except ε α} {k : α → Except ε β} {b : β} :
    r >>= k = .ok b ↔ ∃ a, r = .ok a ∧ k a = .ok b := by
  cases r <;> simp [bind, Except.bind]

/-- A bind fails in its first step, or its first step succeeds and the rest fails. -/
theorem bind_eq_error {ε α β : Type} {r : Except ε α} {k : α → Except ε β} {e : ε} :
    r >>= k = .error e ↔ r = .error e ∨ ∃ a, r = .ok a ∧ k a = .error e := by
  cases r <;> simp [bind, Except.bind]

/-! ### Resolving selectors and counts -/

namespace Arguments

variable (args : Arguments)

/-- **What resolving a selector does.** It takes the argument the selector names, the cursor
standing for `next`, and records it as used; only `next` moves the cursor, by one. -/
theorem resolve_eq_ok {u u' : Usage} {s : Selector} {o : Nat} {b : Bound} :
    args.resolve u s o = .ok (b, u') ↔
      (s = .next ∧ args.positional[u.cursor]? = some b ∧
        u' = { u with cursor := u.cursor + 1, positions := u.cursor :: u.positions }) ∨
      (∃ i, s = .index i ∧ args.positional[i]? = some b ∧
        u' = { u with positions := i :: u.positions }) ∨
      (∃ n, s = .name n ∧ args.named.lookup n = some b ∧
        u' = { u with names := n :: u.names }) := by
  cases s with
  | next =>
    simp only [resolve]
    cases args.positional[u.cursor]? <;> simp [eq_comm]
  | index i =>
    simp only [resolve]
    cases h : args.positional[i]? <;> simp [h, eq_comm]
  | name n =>
    simp only [resolve]
    cases h : args.named.lookup n <;> simp [h, eq_comm]

/-- The implicit selector finds no argument exactly when the cursor has passed them all; no other
selector reports that. -/
theorem resolve_eq_exhausted {u : Usage} {s : Selector} {o n o' : Nat} :
    args.resolve u s o = .error (.format (.exhausted n o')) ↔
      s = .next ∧ args.positional.length ≤ u.cursor ∧ n = u.cursor ∧ o' = o := by
  cases s with
  | next =>
    simp only [resolve]
    cases h : args.positional[u.cursor]? with
    | none =>
      have hle := List.getElem?_eq_none_iff.1 h
      simp [hle, eq_comm]
    | some b =>
      have hlt := (List.getElem?_eq_some_iff.1 h).1
      simp only [reduceCtorEq, false_iff, not_and]
      intro hle
      omega
  | index i =>
    simp only [resolve]
    cases args.positional[i]? <;> simp
  | name n =>
    simp only [resolve]
    cases args.named.lookup n <;> simp

/-- A resolution keeps the cursor at or before the end of the positional arguments. -/
theorem resolve_cursor_le {u u' : Usage} {s : Selector} {o : Nat} {b : Bound}
    (h : args.resolve u s o = .ok (b, u')) (hu : u.cursor ≤ args.positional.length) :
    u'.cursor ≤ args.positional.length := by
  rcases (args.resolve_eq_ok).1 h with ⟨-, hb, rfl⟩ | ⟨i, -, -, rfl⟩ | ⟨n, -, -, rfl⟩
  · exact (List.getElem?_eq_some_iff.1 hb).1
  · exact hu
  · exact hu

/-- Every value a selector resolves to is one of the arguments. -/
theorem resolve_mem {u u' : Usage} {s : Selector} {o : Nat} {b : Bound}
    (h : args.resolve u s o = .ok (b, u')) :
    b ∈ args.positional ∨ ∃ n, (n, b) ∈ args.named := by
  rcases (args.resolve_eq_ok).1 h with ⟨-, hb, -⟩ | ⟨i, -, hb, -⟩ | ⟨n, -, hb, -⟩
  · exact .inl (List.mem_of_getElem? hb)
  · exact .inl (List.mem_of_getElem? hb)
  · obtain ⟨l₁, l₂, hl, -⟩ := List.lookup_eq_some_iff.1 hb
    exact .inr ⟨n, by rw [hl]; simp⟩

/-- A refused count is never a missing or exhausted argument. -/
theorem refusedCount_ne_exhausted (src : Option Selector) (v : Value) (f : CountFault)
    (o n o' : Nat) : CallError.refusedCount src v f o ≠ .format (.exhausted n o') := by
  unfold CallError.refusedCount
  split <;> simp

/-- **What resolving a count does to the usage.** A missing or literal count leaves it as it is;
a count given by a selector changes it as resolving the selector does. -/
theorem resolveCount_usage {limit : Option Nat} {u u' : Usage} {cnt : Option Count} {o : Nat}
    {n? : Option Nat} (h : args.resolveCount limit u cnt o = .ok (n?, u')) :
    ((cnt = none ∨ ∃ n, cnt = some (.literal n)) ∧ u' = u) ∨
      ∃ s b, cnt = some (.given s) ∧ args.resolve u s o = .ok (b, u') := by
  match cnt with
  | none =>
    obtain ⟨-, rfl⟩ := Prod.mk.inj (Except.ok.inj h)
    exact .inl ⟨.inl rfl, rfl⟩
  | some (.literal n) =>
    simp only [resolveCount] at h
    have hu : u' = u := by
      split at h
      · split at h
        · cases h
        · exact (Prod.mk.inj (Except.ok.inj h)).2.symm
      · exact (Prod.mk.inj (Except.ok.inj h)).2.symm
    exact .inl ⟨.inr ⟨n, rfl⟩, hu⟩
  | some (.given s) =>
    simp only [resolveCount] at h
    obtain ⟨⟨b, u₁⟩, hr, h⟩ := bind_eq_ok.1 h
    have hu : u' = u₁ := by
      obtain ⟨n?', -, h⟩ := bind_eq_ok.1 h
      split at h
      · split at h
        · split at h
          · cases h
          · exact (Prod.mk.inj (Except.ok.inj h)).2.symm
        · exact (Prod.mk.inj (Except.ok.inj h)).2.symm
      · cases h
    exact .inr ⟨s, b, rfl, hu ▸ hr⟩

/-- A count resolution keeps the cursor at or before the end of the positional arguments. -/
theorem resolveCount_cursor_le {limit : Option Nat} {u u' : Usage} {cnt : Option Count}
    {o : Nat} {n? : Option Nat} (h : args.resolveCount limit u cnt o = .ok (n?, u'))
    (hu : u.cursor ≤ args.positional.length) : u'.cursor ≤ args.positional.length := by
  rcases args.resolveCount_usage h with ⟨-, rfl⟩ | ⟨s, b, -, hr⟩
  · exact hu
  · exact args.resolve_cursor_le hr hu

/-- **How resolving a count fails.** Its selector finds no argument, the argument's number cannot
be taken (a fault of the value), or the count is refused. -/
theorem resolveCount_eq_error {limit : Option Nat} {u : Usage} {cnt : Option Count} {o : Nat}
    {e : CallError} (h : args.resolveCount limit u cnt o = .error e) :
    (∃ s, cnt = some (.given s) ∧ args.resolve u s o = .error e) ∨ (∃ f, e = .fault f) ∨
      ∃ src v f, e = CallError.refusedCount src v f o := by
  match cnt with
  | none => cases h
  | some (.literal n) =>
    simp only [resolveCount] at h
    split at h
    · split at h
      · exact .inr (.inr ⟨_, _, _, (Except.error.inj h).symm⟩)
      · cases h
    · cases h
  | some (.given s) =>
    simp only [resolveCount] at h
    rcases bind_eq_error.1 h with hr | ⟨⟨b, u₁⟩, -, h⟩
    · exact .inl ⟨s, rfl, hr⟩
    rcases bind_eq_error.1 h with hc | ⟨n?, -, h⟩
    · cases hb : b.count? with
      | error f =>
        rw [hb] at hc
        exact .inr (.inl ⟨f, (Except.error.inj hc).symm⟩)
      | ok n? =>
        rw [hb] at hc
        cases hc
    split at h
    · split at h
      · split at h
        · exact .inr (.inr ⟨_, _, _, (Except.error.inj h).symm⟩)
        · cases h
      · cases h
    · exact .inr (.inr ⟨_, _, _, (Except.error.inj h).symm⟩)

/-- A count reports an exhausted argument exactly when it takes the next argument and the cursor
has passed them all: the check of the number refuses a count, never reports a missing one. -/
theorem resolveCount_eq_exhausted {limit : Option Nat} {u : Usage} {cnt : Option Count}
    {o n o' : Nat} :
    args.resolveCount limit u cnt o = .error (.format (.exhausted n o')) ↔
      cnt = some (.given .next) ∧ args.positional.length ≤ u.cursor ∧ n = u.cursor ∧ o' = o := by
  constructor
  · intro h
    rcases args.resolveCount_eq_error h with ⟨s, rfl, hr⟩ | ⟨f, hf⟩ | ⟨src, v, f, hf⟩
    · obtain ⟨rfl, hle, rfl, rfl⟩ := (args.resolve_eq_exhausted).1 hr
      exact ⟨rfl, hle, rfl, rfl⟩
    · cases hf
    · exact absurd hf.symm (refusedCount_ne_exhausted _ _ _ _ _ _)
  · rintro ⟨rfl, hle, rfl, rfl⟩
    have hr : args.resolve u .next o' = .error (.format (.exhausted u.cursor o')) :=
      (args.resolve_eq_exhausted).2 ⟨rfl, hle, rfl, rfl⟩
    simp [resolveCount, hr, bind, Except.bind]

end Arguments

/-! ### Binding a placeholder, a segment, a segment list -/

section Binding

variable (cfg : Config) (args : Arguments)

/-- Binds one placeholder: its width, its precision and its value, in that order, then the check
that the value has the capability its conversion needs. -/
def bindSlot (spec : Spec) (o : Nat) (u : Usage) : Except CallError (Piece × Usage) := do
  let (w, u) ← args.resolveCount cfg.maxCount u spec.width o
  let (p, u) ← args.resolveCount cfg.maxCount u spec.precision o
  let (b, u) ← args.resolve u spec.value o
  if b.caps.has spec.conversion.capability then pure (.slot spec b w p o, u)
  else .error (.format (.unsupported spec.conversion b.kind o))

/-- Binds one segment: literal text binds to itself and uses nothing. -/
def bindSegment : Segment → Usage → Except CallError (Piece × Usage)
  | .literal s, u => .ok (.literal s, u)
  | .placeholder spec o, u => bindSlot cfg args spec o u

/-- **What binding a placeholder does.** -/
theorem bindSlot_eq_ok {spec : Spec} {o : Nat} {u u' : Usage} {q : Piece} :
    bindSlot cfg args spec o u = .ok (q, u') ↔
      ∃ w u₁ p u₂ b, args.resolveCount cfg.maxCount u spec.width o = .ok (w, u₁) ∧
        args.resolveCount cfg.maxCount u₁ spec.precision o = .ok (p, u₂) ∧
        args.resolve u₂ spec.value o = .ok (b, u') ∧
        b.caps.has spec.conversion.capability = true ∧ q = .slot spec b w p o := by
  simp only [bindSlot, bind_eq_ok, Prod.exists]
  constructor
  · rintro ⟨w, u₁, hw, p, u₂, hp, b, u₃, hb, h⟩
    split at h
    · obtain ⟨rfl, rfl⟩ := Prod.mk.inj (Except.ok.inj h)
      exact ⟨w, u₁, p, u₂, b, hw, hp, hb, ‹_›, rfl⟩
    · cases h
  · rintro ⟨w, u₁, p, u₂, b, hw, hp, hb, hcap, rfl⟩
    exact ⟨w, u₁, hw, p, u₂, hp, b, u', hb, by simp [hcap, pure, Except.pure]⟩

/-- **How binding a placeholder fails.** Its width, its precision or its value fails to resolve,
each after those before it resolved; or the value lacks the capability its conversion needs. -/
theorem bindSlot_eq_error {spec : Spec} {o : Nat} {u : Usage} {e : CallError}
    (h : bindSlot cfg args spec o u = .error e) :
    args.resolveCount cfg.maxCount u spec.width o = .error e ∨
    (∃ w u₁, args.resolveCount cfg.maxCount u spec.width o = .ok (w, u₁) ∧
      args.resolveCount cfg.maxCount u₁ spec.precision o = .error e) ∨
    (∃ w u₁ p u₂, args.resolveCount cfg.maxCount u spec.width o = .ok (w, u₁) ∧
      args.resolveCount cfg.maxCount u₁ spec.precision o = .ok (p, u₂) ∧
      args.resolve u₂ spec.value o = .error e) ∨
    ∃ w u₁ p u₂ b u₃, args.resolveCount cfg.maxCount u spec.width o = .ok (w, u₁) ∧
      args.resolveCount cfg.maxCount u₁ spec.precision o = .ok (p, u₂) ∧
      args.resolve u₂ spec.value o = .ok (b, u₃) ∧
      b.caps.has spec.conversion.capability = false ∧
      e = .format (.unsupported spec.conversion b.kind o) := by
  simp only [bindSlot] at h
  rcases bind_eq_error.1 h with hw | ⟨⟨w, u₁⟩, hw, h⟩
  · exact .inl hw
  rcases bind_eq_error.1 h with hp | ⟨⟨p, u₂⟩, hp, h⟩
  · exact .inr (.inl ⟨w, u₁, hw, hp⟩)
  rcases bind_eq_error.1 h with hb | ⟨⟨b, u₃⟩, hb, h⟩
  · exact .inr (.inr (.inl ⟨w, u₁, p, u₂, hw, hp, hb⟩))
  dsimp only at h
  split at h
  · cases h
  · rename_i hcap
    exact .inr (.inr (.inr ⟨w, u₁, p, u₂, b, u₃, hw, hp, hb, by simpa using hcap,
      (Except.error.inj h).symm⟩))

/-- Binding a placeholder keeps the cursor at or before the end of the positional arguments. -/
theorem bindSegment_cursor_le {seg : Segment} {u u' : Usage} {q : Piece}
    (h : bindSegment cfg args seg u = .ok (q, u')) (hu : u.cursor ≤ args.positional.length) :
    u'.cursor ≤ args.positional.length := by
  cases seg with
  | literal s =>
    obtain ⟨-, rfl⟩ := Prod.mk.inj (Except.ok.inj h)
    exact hu
  | placeholder spec o =>
    obtain ⟨w, u₁, p, u₂, b, hw, hp, hb, -, -⟩ := (bindSlot_eq_ok cfg args).1 h
    exact args.resolve_cursor_le hb
      (args.resolveCount_cursor_le hp (args.resolveCount_cursor_le hw hu))

/-- **Binding a list binds its first segment, then the rest.** A literal segment binds the rest
first, but it uses nothing and cannot fail, so the order does not show. -/
theorem bindSegments_cons (seg : Segment) (rest : List Segment) (u : Usage) :
    bindSegments cfg args (seg :: rest) u =
      bindSegment cfg args seg u >>= fun (p, u) =>
        bindSegments cfg args rest u >>= fun (ps, u) => pure (p :: ps, u) := by
  cases seg with
  | literal s => rfl
  | placeholder spec o =>
    simp only [bindSegments, bindSegment, bindSlot, bind, Except.bind]
    rcases args.resolveCount cfg.maxCount u spec.width o with e | ⟨w, u₁⟩
    · rfl
    dsimp only
    rcases args.resolveCount cfg.maxCount u₁ spec.precision o with e | ⟨p, u₂⟩
    · rfl
    dsimp only
    rcases args.resolve u₂ spec.value o with e | ⟨b, u₃⟩
    · rfl
    dsimp only
    by_cases hcap : b.caps.has spec.conversion.capability
    · simp [hcap, pure, Except.pure]
    · simp [hcap]

theorem bindSegments_cons_eq_ok {seg : Segment} {rest : List Segment} {u u' : Usage}
    {qs : List Piece} :
    bindSegments cfg args (seg :: rest) u = .ok (qs, u') ↔
      ∃ q u₁ ps, bindSegment cfg args seg u = .ok (q, u₁) ∧
        bindSegments cfg args rest u₁ = .ok (ps, u') ∧ qs = q :: ps := by
  simp only [bindSegments_cons, bind_eq_ok, Prod.exists, pure, Except.pure, Except.ok.injEq,
    Prod.mk.injEq]
  constructor
  · rintro ⟨q, u₁, hq, ps, u₂, hps, rfl, rfl⟩
    exact ⟨q, u₁, ps, hq, hps, rfl⟩
  · rintro ⟨q, u₁, ps, hq, hps, rfl⟩
    exact ⟨q, u₁, hq, ps, u', hps, rfl, rfl⟩

/-- **The cursor stays within the arguments.** Binding from a cursor at or before the end of the
positional arguments leaves it there. -/
theorem bindSegments_cursor_le : ∀ {segs : List Segment} {u u' : Usage} {ps : List Piece},
    bindSegments cfg args segs u = .ok (ps, u') → u.cursor ≤ args.positional.length →
      u'.cursor ≤ args.positional.length
  | [], u, u', ps, h, hu => by
    obtain ⟨-, rfl⟩ := Prod.mk.inj (Except.ok.inj h)
    exact hu
  | seg :: rest, u, u', ps, h, hu => by
    obtain ⟨q, u₁, ps, hq, hps, -⟩ := (bindSegments_cons_eq_ok cfg args).1 h
    exact bindSegments_cursor_le hps (bindSegment_cursor_le cfg args hq hu)

/-- **A failed binding fails at one segment.** Everything before it binds, and binding it from
the usage they leave fails with the binding's error. -/
theorem bindSegments_eq_error {segs : List Segment} {u : Usage} {e : CallError} :
    bindSegments cfg args segs u = .error e ↔
      ∃ pre seg post ps u₁, segs = pre ++ seg :: post ∧
        bindSegments cfg args pre u = .ok (ps, u₁) ∧ bindSegment cfg args seg u₁ = .error e := by
  constructor
  · intro h
    induction segs generalizing u with
    | nil => cases h
    | cons seg rest ih =>
      rw [bindSegments_cons] at h
      rcases bind_eq_error.1 h with h | ⟨⟨q, u₁⟩, hq, h⟩
      · exact ⟨[], seg, rest, [], u, rfl, rfl, h⟩
      · rcases bind_eq_error.1 h with h | ⟨_, -, h⟩
        · obtain ⟨pre, seg', post, ps, u₂, rfl, hpre, hseg⟩ := ih h
          refine ⟨seg :: pre, seg', post, q :: ps, u₂, rfl, ?_, hseg⟩
          exact (bindSegments_cons_eq_ok cfg args).2 ⟨q, u₁, ps, hq, hpre, rfl⟩
        · cases h
  · rintro ⟨pre, seg, post, ps, u₁, rfl, hpre, hseg⟩
    induction pre generalizing u ps with
    | nil =>
      obtain ⟨-, rfl⟩ := Prod.mk.inj (Except.ok.inj hpre)
      rw [List.nil_append, bindSegments_cons, hseg]
      rfl
    | cons s pre ih =>
      obtain ⟨q, u₀, ps', hq, hpre', -⟩ := (bindSegments_cons_eq_ok cfg args).1 hpre
      rw [List.cons_append, bindSegments_cons, hq]
      show (bindSegments cfg args (pre ++ seg :: post) u₀ >>= _) = _
      rw [ih _ hpre']
      rfl

/-- Every value a placeholder binds is one of the arguments. -/
theorem bindSegment_value {seg : Segment} {u u' : Usage} {s : Spec} {b : Bound}
    {w p : Option Nat} {o : Nat} (h : bindSegment cfg args seg u = .ok (.slot s b w p o, u')) :
    b ∈ args.positional ∨ ∃ n, (n, b) ∈ args.named := by
  cases seg with
  | literal t => cases h
  | placeholder spec o' =>
    obtain ⟨w', u₁, p', u₂, b', -, -, hb, -, hq⟩ := (bindSlot_eq_ok cfg args).1 h
    cases hq
    exact args.resolve_mem hb

/-- **Every bound value is an argument.** -/
theorem bindSegments_values : ∀ {segs : List Segment} {u u' : Usage} {ps : List Piece},
    bindSegments cfg args segs u = .ok (ps, u') →
      ∀ s b w p o, Piece.slot s b w p o ∈ ps → b ∈ args.positional ∨ ∃ n, (n, b) ∈ args.named
  | [], u, u', ps, h => by
    obtain ⟨rfl, -⟩ := Prod.mk.inj (Except.ok.inj h)
    intro s b w p o hm
    cases hm
  | seg :: rest, u, u', ps, h => by
    obtain ⟨q, u₁, ps, hq, hps, rfl⟩ := (bindSegments_cons_eq_ok cfg args).1 h
    intro s b w p o hm
    rcases List.mem_cons.1 hm with rfl | hm
    · exact bindSegment_value cfg args hq
    · exact bindSegments_values hps s b w p o hm

/-- A piece bound as a slot was bound from the placeholder it records. -/
theorem bindSegment_slot {seg : Segment} {u u' : Usage} {spec : Spec} {b : Bound}
    {w p : Option Nat} {o : Nat} (h : bindSegment cfg args seg u = .ok (.slot spec b w p o, u')) :
    seg = .placeholder spec o := by
  cases seg with
  | literal t => cases h
  | placeholder spec' o' =>
    obtain ⟨w', u₁, p', u₂, b', -, -, -, -, hq⟩ := (bindSlot_eq_ok cfg args).1 h
    cases hq
    rfl

/-- Binding two segment lists one after the other binds their concatenation. -/
theorem bindSegments_append_eq_ok {post : List Segment} {ps₂ : List Piece} {u₂ : Usage} :
    ∀ {pre : List Segment} {u u₁ : Usage} {ps₁ : List Piece},
      bindSegments cfg args pre u = .ok (ps₁, u₁) → bindSegments cfg args post u₁ = .ok (ps₂, u₂) →
        bindSegments cfg args (pre ++ post) u = .ok (ps₁ ++ ps₂, u₂)
  | [], u, u₁, ps₁, h₁, h₂ => by
    obtain ⟨rfl, rfl⟩ := Prod.mk.inj (Except.ok.inj h₁)
    exact h₂
  | seg :: pre, u, u₁, ps₁, h₁, h₂ => by
    obtain ⟨q, u₀, ps, hq, hpre, rfl⟩ := (bindSegments_cons_eq_ok cfg args).1 h₁
    exact (bindSegments_cons_eq_ok cfg args).2
      ⟨q, u₀, ps ++ ps₂, hq, bindSegments_append_eq_ok hpre h₂, rfl⟩

/-- The segment a piece of a binding was bound from: the binding splits there. -/
theorem bindSegments_eq_ok_split {ps₁ ps₂ : List Piece} {q : Piece} {u' : Usage} :
    ∀ {segs : List Segment} {u : Usage},
      bindSegments cfg args segs u = .ok (ps₁ ++ q :: ps₂, u') →
        ∃ pre seg post u₁ u₂, segs = pre ++ seg :: post ∧
          bindSegments cfg args pre u = .ok (ps₁, u₁) ∧
          bindSegment cfg args seg u₁ = .ok (q, u₂) ∧
          bindSegments cfg args post u₂ = .ok (ps₂, u') := by
  induction ps₁ with
  | nil =>
    intro segs u h
    cases segs with
    | nil => cases h
    | cons seg rest =>
      obtain ⟨q', u₁, ps, hq, hps, he⟩ := (bindSegments_cons_eq_ok cfg args).1 h
      obtain ⟨rfl, rfl⟩ := List.cons.inj he
      exact ⟨[], seg, rest, u, u₁, rfl, rfl, hq, hps⟩
  | cons x ps₁ ih =>
    intro segs u h
    cases segs with
    | nil => cases h
    | cons seg rest =>
      obtain ⟨q', u₁, ps, hq, hps, he⟩ := (bindSegments_cons_eq_ok cfg args).1 h
      obtain ⟨rfl, rfl⟩ := List.cons.inj he
      obtain ⟨pre, seg', post, u₂, u₃, rfl, hpre, hseg, hpost⟩ := ih hps
      exact ⟨seg :: pre, seg', post, u₂, u₃, rfl,
        (bindSegments_cons_eq_ok cfg args).2 ⟨x, u₁, ps₁, hq, hpre, rfl⟩, hseg, hpost⟩

/-- The binding phase: the segments bound from the start, then in strict mode the report of the
arguments nothing used. -/
theorem Template.bindPieces_eq (t : Template) :
    t.bindPieces cfg args = bindSegments cfg args t.segments {} >>= fun (ps, u) =>
      if cfg.requireAll && (!(args.unusedPositions u).isEmpty || !(args.unusedNames u).isEmpty)
      then .error (.format (.unused (args.unusedPositions u) (args.unusedNames u)))
      else .ok ps := by
  simp only [Template.bindPieces]
  rcases bindSegments cfg args t.segments {} with e | ⟨ps, u⟩
  · rfl
  · dsimp only [bind, Except.bind]
    cases cfg.requireAll
    · rfl
    · by_cases hc : (!(args.unusedPositions u).isEmpty || !(args.unusedNames u).isEmpty) = true
      · simp only [hc, if_true, Bool.true_and]
        rfl
      · simp only [hc, Bool.false_eq_true, if_false, Bool.true_and]
        rfl

/-- The binding phase succeeds when binding does and, in strict mode, every argument is used. -/
theorem Template.bindPieces_eq_ok {t : Template} {ps : List Piece} :
    t.bindPieces cfg args = .ok ps ↔
      ∃ u, bindSegments cfg args t.segments {} = .ok (ps, u) ∧
        (cfg.requireAll && (!(args.unusedPositions u).isEmpty ||
          !(args.unusedNames u).isEmpty)) = false := by
  rw [Template.bindPieces_eq, bind_eq_ok]
  constructor
  · rintro ⟨⟨ps', u⟩, hb, h⟩
    dsimp only at h
    split at h
    · cases h
    · rename_i hc
      obtain rfl := Except.ok.inj h
      exact ⟨u, hb, by simpa using hc⟩
  · rintro ⟨u, hb, hc⟩
    exact ⟨(ps, u), hb, by simp [hc]⟩

/-- The binding phase fails when binding fails, or in strict mode when some argument is unused. -/
theorem Template.bindPieces_eq_error {t : Template} {e : CallError} :
    t.bindPieces cfg args = .error e ↔
      bindSegments cfg args t.segments {} = .error e ∨
        ∃ ps u, bindSegments cfg args t.segments {} = .ok (ps, u) ∧ cfg.requireAll = true ∧
          (!(args.unusedPositions u).isEmpty || !(args.unusedNames u).isEmpty) = true ∧
          e = .format (.unused (args.unusedPositions u) (args.unusedNames u)) := by
  rw [Template.bindPieces_eq, bind_eq_error]
  apply or_congr_right
  constructor
  · rintro ⟨⟨ps, u⟩, hb, h⟩
    dsimp only at h
    split at h
    · rename_i hc
      obtain ⟨hreq, hc⟩ := Bool.and_eq_true_iff.1 hc
      exact ⟨ps, u, hb, hreq, hc, (Except.error.inj h).symm⟩
    · cases h
  · rintro ⟨ps, u, hb, hreq, hc, rfl⟩
    exact ⟨(ps, u), hb, by simp [hreq, hc]⟩

end Binding

end BraceFormat
