import BraceFormat.Proofs.Binding
/-!
# Implicit arguments are taken in binding order

A placeholder may leave its value to the next positional argument, and so may a precision
written `.*` (or a width given the same way). These implicit selectors share one cursor, while a
selector by position or by name takes its argument without moving it. Binding visits the
placeholders in template order and, inside each, the width, then the precision, then the value;
so the `i`-th implicit selector in that order takes argument `i`.

The statement is made through a renumbering: `Template.renumber` replaces the `i`-th implicit
selector by position `i`, and binding the renumbered template takes exactly the arguments the
original takes (`bindSegments_renumber`). The relation between the two bindings is `Tracks`: the
renumbered binding succeeds with the original's result, renumbered, and the same arguments used,
or both fail. It is proved one placeholder at a time and carried along the segments by
`Tracks.bind`.

Running out of arguments is located the same way: binding reports the positional arguments
exhausted exactly when it comes to an implicit selector with the cursor at their number, every
placeholder before it bound (`Template.bindPieces_eq_exhausted`). Rendering reads a placeholder's
selectors only through the text of an object that echoes it, so for every other argument the
renumbered template formats to the same text (`Template.format_renumber`).

## Main definitions

* `Spec.implicitCount`, `Segment.implicitCount`: the implicit selectors of a placeholder.
* `Spec.renumber`, `Template.renumber`: implicit selectors replaced by the positions they take.
* `Tracks`: a binding outcome against its renumbered twin's.
* `Spec.ReachesNext`: binding a placeholder comes to an implicit selector.

## Main results

* `bindSegments_cursor`: the cursor counts the implicit selectors bound.
* `bindSegments_renumber`: renumbering simulates binding.
* `Template.bindPieces_eq_exhausted`: when binding reports the arguments exhausted.
* `Template.format_renumber`: the renumbered template formats alike.
* `implicit_selectors_in_binding_order`: the four together.
-/

namespace BraceFormat

/-! ### Implicit selectors and their positions -/

namespace Selector

/-- The implicit selectors among one selector: one for `next`. -/
def implicitCount : Selector → Nat
  | next => 1
  | _ => 0

/-- The selector with `next` replaced by the position `i`. -/
def renumber (i : Nat) : Selector → Selector
  | next => index i
  | s => s

end Selector

namespace Count

/-- The implicit selectors of an optional count: one for a count taken from the next argument. -/
def implicitCount : Option Count → Nat
  | some (given s) => s.implicitCount
  | _ => 0

/-- The optional count with a count taken from the next argument taken from position `i`. -/
def renumber (i : Nat) : Option Count → Option Count
  | some (given s) => some (given (s.renumber i))
  | c => c

end Count

namespace Spec

/-- The implicit selectors of a placeholder: its width, precision and value, each when it takes
the next argument. -/
def implicitCount (s : Spec) : Nat :=
  Count.implicitCount s.width + Count.implicitCount s.precision + s.value.implicitCount

/-- The placeholder with its implicit selectors replaced by the positions `k`, `k + 1`, ... in
binding order: width, precision, value. -/
def renumber (k : Nat) (s : Spec) : Spec :=
  let kp := k + Count.implicitCount s.width
  let kv := kp + Count.implicitCount s.precision
  { s with width := Count.renumber k s.width, precision := Count.renumber kp s.precision,
           value := s.value.renumber kv }

/-- Renumbering changes only the selectors. -/
@[simp] theorem conversion_renumber (k : Nat) (s : Spec) :
    (s.renumber k).conversion = s.conversion :=
  rfl

end Spec

namespace Segment

/-- The implicit selectors of a segment. -/
def implicitCount : Segment → Nat
  | literal _ => 0
  | placeholder s _ => s.implicitCount

/-- The segment with its implicit selectors replaced by positions counted from `k`. -/
def renumber (k : Nat) : Segment → Segment
  | literal t => literal t
  | placeholder s o => placeholder (s.renumber k) o

/-- The segments with their implicit selectors replaced by positions counted from `k`, each
segment from the number of implicit selectors before it. -/
def renumberFrom : Nat → List Segment → List Segment
  | _, [] => []
  | k, seg :: rest => seg.renumber k :: renumberFrom (k + seg.implicitCount) rest

end Segment

namespace Piece

/-- The implicit selectors of the placeholder a piece was bound from. -/
def implicitCount : Piece → Nat
  | literal _ => 0
  | slot s _ _ _ _ => s.implicitCount

/-- The piece with its placeholder renumbered from `k`, as its segment is. -/
def renumber (k : Nat) : Piece → Piece
  | literal t => literal t
  | slot s b w p o => slot (s.renumber k) b w p o

/-- The pieces of a binding with their placeholders renumbered from `k`, as the segments are. -/
def renumberFrom : Nat → List Piece → List Piece
  | _, [] => []
  | k, p :: rest => p.renumber k :: renumberFrom (k + p.implicitCount) rest

end Piece

/-- The template with every implicit selector replaced by the position it takes: the `i`-th
implicit selector in binding order by position `i`. -/
def Template.renumber (t : Template) : Template :=
  ⟨Segment.renumberFrom 0 t.segments⟩

/-- `{}{:.*}{0}{}`: the implicit selectors take the positions `0`, `1` (the precision), `2` and
`3`, and the explicit `{0}` moves nothing. -/
example :
    Template.renumber ⟨[.placeholder {} 0, .placeholder { precision := some (.given .next) } 2,
      .placeholder { value := .index 0 } 7, .placeholder {} 10]⟩ =
    ⟨[.placeholder { value := .index 0 } 0,
      .placeholder { value := .index 2, precision := some (.given (.index 1)) } 2,
      .placeholder { value := .index 0 } 7, .placeholder { value := .index 3 } 10]⟩ := by
  decide

/-! ### The cursor counts the implicit selectors -/

namespace Arguments

variable (args : Arguments)

/-- **Only implicit selectors move the cursor**, by one each. -/
theorem resolve_cursor {u u' : Usage} {s : Selector} {o : Nat} {b : Bound}
    (h : args.resolve u s o = .ok (b, u')) : u'.cursor = u.cursor + s.implicitCount := by
  rcases (args.resolve_eq_ok).1 h with ⟨rfl, -, rfl⟩ | ⟨i, rfl, -, rfl⟩ | ⟨n, rfl, -, rfl⟩ <;> rfl

theorem resolveCount_cursor {limit : Option Nat} {u u' : Usage} {cnt : Option Count} {o : Nat}
    {n? : Option Nat} (h : args.resolveCount limit u cnt o = .ok (n?, u')) :
    u'.cursor = u.cursor + Count.implicitCount cnt := by
  rcases args.resolveCount_usage h with ⟨rfl | ⟨n, rfl⟩, rfl⟩ | ⟨s, b, rfl, hr⟩
  · rfl
  · rfl
  · exact args.resolve_cursor hr

end Arguments

section Binding

variable (cfg : Config) (args : Arguments)

theorem bindSegment_cursor {seg : Segment} {u u' : Usage} {q : Piece}
    (h : bindSegment cfg args seg u = .ok (q, u')) :
    u'.cursor = u.cursor + seg.implicitCount ∧ q.implicitCount = seg.implicitCount := by
  cases seg with
  | literal s =>
    obtain ⟨rfl, rfl⟩ := Prod.mk.inj (Except.ok.inj h)
    exact ⟨rfl, rfl⟩
  | placeholder spec o =>
    obtain ⟨w, u₁, p, u₂, b, hw, hp, hb, -, rfl⟩ := (bindSlot_eq_ok cfg args).1 h
    refine ⟨?_, rfl⟩
    rw [args.resolve_cursor hb, args.resolveCount_cursor hp, args.resolveCount_cursor hw,
      Segment.implicitCount, Spec.implicitCount]
    omega

/-- **The cursor counts the implicit selectors.** Binding a segment list moves the cursor by the
number of its implicit selectors: positions and names never move it. -/
theorem bindSegments_cursor : ∀ {segs : List Segment} {u u' : Usage} {ps : List Piece},
    bindSegments cfg args segs u = .ok (ps, u') →
      u'.cursor = u.cursor + (segs.map Segment.implicitCount).sum
  | [], u, u', ps, h => by
    obtain ⟨-, rfl⟩ := Prod.mk.inj (Except.ok.inj h)
    rfl
  | seg :: rest, u, u', ps, h => by
    obtain ⟨q, u₁, ps, hq, hps, -⟩ := (bindSegments_cons_eq_ok cfg args).1 h
    rw [bindSegments_cursor hps, (bindSegment_cursor cfg args hq).1, List.map_cons,
      List.sum_cons, Nat.add_assoc]

end Binding

/-! ### Renumbering simulates binding -/

/-- The outcome of a binding step on a renumbered template, against the original's: where the
original succeeds the renumbered step succeeds with the image of its result and the same
arguments used, its own cursor held at `c`; where the original fails, so does the renumbered
step. -/
def Tracks {α β : Type} (c : Nat) (f : α → β) :
    Except CallError (α × Usage) → Except CallError (β × Usage) → Prop
  | .ok (a, u), r => r = .ok (f a, { u with cursor := c })
  | .error _, r => ∃ e, r = .error e

namespace Tracks

variable {α β γ δ : Type} {c : Nat}

/-- Tracking is kept through the steps of a computation. -/
theorem bind {f : α → β} {g : γ → δ} {r : Except CallError (α × Usage)}
    {r' : Except CallError (β × Usage)} (h : Tracks c f r r')
    {k : α × Usage → Except CallError (γ × Usage)} {k' : β × Usage → Except CallError (δ × Usage)}
    (hk : ∀ a u, r = .ok (a, u) → Tracks c g (k (a, u)) (k' (f a, { u with cursor := c }))) :
    Tracks c g (r >>= k) (r' >>= k') := by
  match r, h with
  | .ok (a, u), h =>
    rw [show r' = _ from h]
    exact hk a u rfl
  | .error e, h =>
    obtain ⟨e', rfl⟩ := h
    exact ⟨e', rfl⟩

end Tracks

namespace Arguments

variable (args : Arguments)

/-- The implicit selector resolved at cursor `i` takes what position `i` takes. -/
theorem resolve_renumber (u : Usage) (s : Selector) (o c : Nat) :
    Tracks c id (args.resolve u s o)
      (args.resolve { u with cursor := c } (s.renumber u.cursor) o) := by
  cases s <;> simp only [resolve, Selector.renumber] <;> split <;> simp_all [Tracks]

theorem resolveCount_renumber (limit : Option Nat) (u : Usage) (cnt : Option Count) (o c : Nat) :
    Tracks c id (args.resolveCount limit u cnt o)
      (args.resolveCount limit { u with cursor := c } (Count.renumber u.cursor cnt) o) := by
  match cnt with
  | none => rfl
  | some (.literal n) =>
    simp only [resolveCount, Count.renumber]
    split
    · split <;> simp [Tracks]
    · simp [Tracks]
  | some (.given s) =>
    simp only [resolveCount, Count.renumber]
    refine Tracks.bind (args.resolve_renumber u s o c) fun b u₁ _ => ?_
    cases hcount : b.count? with
    | error f => simp [hcount, Tracks, Except.mapError, bind, Except.bind]
    | ok n? =>
      cases n? with
      | none => simp [hcount, Tracks, Except.mapError, bind, Except.bind]
      | some n =>
        simp only [hcount, Except.mapError, bind, Except.bind, id]
        split
        · split <;> simp [Tracks]
        · simp [Tracks]

end Arguments

section Binding

variable (cfg : Config) (args : Arguments)

theorem bindSlot_renumber (spec : Spec) (o : Nat) (u : Usage) (c : Nat) :
    Tracks c (Piece.renumber u.cursor) (bindSlot cfg args spec o u)
      (bindSlot cfg args (spec.renumber u.cursor) o { u with cursor := c }) := by
  simp only [bindSlot]
  refine Tracks.bind (args.resolveCount_renumber cfg.maxCount u spec.width o c)
    fun w u₁ hw => ?_
  have hp := args.resolveCount_renumber cfg.maxCount u₁ spec.precision o c
  rw [args.resolveCount_cursor hw] at hp
  refine Tracks.bind hp fun p u₂ hp' => ?_
  have hv := args.resolve_renumber u₂ spec.value o c
  rw [args.resolveCount_cursor hp', args.resolveCount_cursor hw] at hv
  refine Tracks.bind hv fun b u₃ _ => ?_
  by_cases hcap : b.caps.has spec.conversion.capability
  · simp [hcap, Tracks, Piece.renumber, pure, Except.pure]
  · simp [hcap, Tracks]

theorem bindSegment_renumber (seg : Segment) (u : Usage) (c : Nat) :
    Tracks c (Piece.renumber u.cursor) (bindSegment cfg args seg u)
      (bindSegment cfg args (seg.renumber u.cursor) { u with cursor := c }) := by
  cases seg with
  | literal t => rfl
  | placeholder spec o => exact bindSlot_renumber cfg args spec o u c

/-- **Renumbering simulates binding.** Binding segments renumbered from the cursor takes every
argument the original binding takes, for the same placeholders and in the same order, while its
own cursor stays where it is; and it fails where the original fails. -/
theorem bindSegments_renumber : ∀ (segs : List Segment) (u : Usage) (c : Nat),
    Tracks c (Piece.renumberFrom u.cursor) (bindSegments cfg args segs u)
      (bindSegments cfg args (Segment.renumberFrom u.cursor segs) { u with cursor := c })
  | [], u, c => rfl
  | seg :: rest, u, c => by
    rw [bindSegments_cons, Segment.renumberFrom, bindSegments_cons]
    refine Tracks.bind (bindSegment_renumber cfg args seg u c) fun q u₁ hq => ?_
    obtain ⟨hc, hcount⟩ := bindSegment_cursor cfg args hq
    have hrest := bindSegments_renumber rest u₁ c
    rw [hc] at hrest
    refine Tracks.bind hrest fun ps u₂ _ => ?_
    show _ = _
    rw [Piece.renumberFrom, hcount]
    rfl

/-- A renumbered template binds to the original's pieces, renumbered, whenever the original
binds; strict mode finds the same arguments unused, since renumbering moves no position. -/
theorem Template.bindPieces_renumber_ok {t : Template} {ps : List Piece}
    (h : t.bindPieces cfg args = .ok ps) :
    t.renumber.bindPieces cfg args = .ok (Piece.renumberFrom 0 ps) := by
  obtain ⟨u, hb, hc⟩ := (Template.bindPieces_eq_ok cfg args).1 h
  have htrack := bindSegments_renumber cfg args t.segments {} 0
  rw [hb] at htrack
  exact (Template.bindPieces_eq_ok cfg args).2 ⟨{ u with cursor := 0 }, htrack, hc⟩

/-- A renumbered template fails to bind where the original does. -/
theorem Template.bindPieces_renumber_error {t : Template} {e : CallError}
    (h : t.bindPieces cfg args = .error e) : ∃ e', t.renumber.bindPieces cfg args = .error e' := by
  have htrack := bindSegments_renumber cfg args t.segments {} 0
  rcases (Template.bindPieces_eq_error cfg args).1 h with hb | ⟨ps, u, hb, hreq, hc, -⟩
  · rw [hb] at htrack
    obtain ⟨e', he'⟩ := htrack
    exact ⟨e', (Template.bindPieces_eq_error cfg args).2 (.inl he')⟩
  · rw [hb] at htrack
    exact ⟨_, (Template.bindPieces_eq_error cfg args).2
      (.inr ⟨_, { u with cursor := 0 }, htrack, hreq, hc, rfl⟩)⟩

end Binding

/-! ### When the arguments run out -/

section Binding

variable (cfg : Config) (args : Arguments)

/-- Binding a placeholder from usage `u` comes to an implicit selector with the cursor at `n`:
its width takes the next argument; or its width resolves and its precision takes the next
argument; or both resolve and its value takes the next argument. -/
def Spec.ReachesNext (spec : Spec) (o : Nat) (u : Usage) (n : Nat) : Prop :=
  (spec.width = some (.given .next) ∧ u.cursor = n) ∨
  (∃ w u₁, args.resolveCount cfg.maxCount u spec.width o = .ok (w, u₁) ∧
    spec.precision = some (.given .next) ∧ u₁.cursor = n) ∨
  (∃ w u₁ p u₂, args.resolveCount cfg.maxCount u spec.width o = .ok (w, u₁) ∧
    args.resolveCount cfg.maxCount u₁ spec.precision o = .ok (p, u₂) ∧
    spec.value = .next ∧ u₂.cursor = n)

/-- An implicit selector is reached with the cursor within the arguments. -/
theorem Spec.ReachesNext.le {spec : Spec} {o : Nat} {u : Usage} {n : Nat}
    (h : spec.ReachesNext cfg args o u n) (hu : u.cursor ≤ args.positional.length) :
    n ≤ args.positional.length := by
  rcases h with ⟨-, rfl⟩ | ⟨w, u₁, hw, -, rfl⟩ | ⟨w, u₁, p, u₂, hw, hp, -, rfl⟩
  · exact hu
  · exact args.resolveCount_cursor_le hw hu
  · exact args.resolveCount_cursor_le hp (args.resolveCount_cursor_le hw hu)

/-- **A placeholder reports the arguments exhausted** exactly when binding it comes to an implicit
selector with the cursor past the last positional argument. -/
theorem bindSlot_eq_exhausted {spec : Spec} {o : Nat} {u : Usage} {n o' : Nat} :
    bindSlot cfg args spec o u = .error (.format (.exhausted n o')) ↔
      o' = o ∧ args.positional.length ≤ n ∧ spec.ReachesNext cfg args o u n := by
  constructor
  · intro h
    rcases bindSlot_eq_error cfg args h with
      hw | ⟨w, u₁, hw, hp⟩ | ⟨w, u₁, p, u₂, hw, hp, hb⟩ | ⟨w, u₁, p, u₂, b, u₃, -, -, -, -, he⟩
    · obtain ⟨hnext, hle, rfl, rfl⟩ := (args.resolveCount_eq_exhausted).1 hw
      exact ⟨rfl, hle, .inl ⟨hnext, rfl⟩⟩
    · obtain ⟨hnext, hle, rfl, rfl⟩ := (args.resolveCount_eq_exhausted).1 hp
      exact ⟨rfl, hle, .inr (.inl ⟨w, u₁, hw, hnext, rfl⟩)⟩
    · obtain ⟨hnext, hle, rfl, rfl⟩ := (args.resolve_eq_exhausted).1 hb
      exact ⟨rfl, hle, .inr (.inr ⟨w, u₁, p, u₂, hw, hp, hnext, rfl⟩)⟩
    · cases he
  · rintro ⟨rfl, hle, ⟨hw, rfl⟩ | ⟨w, u₁, hw, hp, rfl⟩ | ⟨w, u₁, p, u₂, hw, hp, hv, rfl⟩⟩
    · have he : args.resolveCount cfg.maxCount u spec.width o' =
          .error (.format (.exhausted u.cursor o')) :=
        (args.resolveCount_eq_exhausted).2 ⟨hw, hle, rfl, rfl⟩
      exact bind_eq_error.2 (.inl he)
    · have he : args.resolveCount cfg.maxCount u₁ spec.precision o' =
          .error (.format (.exhausted u₁.cursor o')) :=
        (args.resolveCount_eq_exhausted).2 ⟨hp, hle, rfl, rfl⟩
      exact bind_eq_error.2 (.inr ⟨(w, u₁), hw, bind_eq_error.2 (.inl he)⟩)
    · have he : args.resolve u₂ spec.value o' = .error (.format (.exhausted u₂.cursor o')) :=
        (args.resolve_eq_exhausted).2 ⟨hv, hle, rfl, rfl⟩
      exact bind_eq_error.2 (.inr ⟨(w, u₁), hw, bind_eq_error.2
        (.inr ⟨(p, u₂), hp, bind_eq_error.2 (.inl he)⟩)⟩)

/-- **When the arguments run out.** Binding a template reports the positional arguments
exhausted, with the number of them, exactly when binding comes to an implicit selector with the
cursor at that number, every placeholder before it bound. -/
theorem Template.bindPieces_eq_exhausted {t : Template} {n o : Nat} :
    t.bindPieces cfg args = .error (.format (.exhausted n o)) ↔
      n = args.positional.length ∧
        ∃ pre spec post ps u, t.segments = pre ++ .placeholder spec o :: post ∧
          bindSegments cfg args pre {} = .ok (ps, u) ∧ spec.ReachesNext cfg args o u n := by
  rw [Template.bindPieces_eq_error, bindSegments_eq_error]
  constructor
  · rintro (⟨pre, seg, post, ps, u, hsegs, hpre, hseg⟩ | ⟨ps, u, -, -, -, he⟩)
    · cases seg with
      | literal s => cases hseg
      | placeholder spec o' =>
        obtain ⟨rfl, hle, hreach⟩ := (bindSlot_eq_exhausted cfg args).1 hseg
        have hu := bindSegments_cursor_le cfg args hpre (Nat.zero_le _)
        exact ⟨Nat.le_antisymm (hreach.le cfg args hu) hle, pre, spec, post, ps, u, hsegs, hpre,
          hreach⟩
    · cases he
  · rintro ⟨rfl, pre, spec, post, ps, u, hsegs, hpre, hreach⟩
    refine .inl ⟨pre, .placeholder spec o, post, ps, u, hsegs, hpre, ?_⟩
    exact (bindSlot_eq_exhausted cfg args).2 ⟨rfl, Nat.le_refl _, hreach⟩

end Binding

/-! ### Rendering reads no selector -/

namespace Bound

/-- Whether a bound value's texts read its placeholder: a formattable object that echoes it. -/
def echoes (b : Bound) : Bool :=
  match b.raw with
  | .object o _ => o.formattable && o.echoSpec
  | _ => false

theorem displayText_selectors {b : Bound} (hb : b.echoes = false) (s : Spec) (v : Selector)
    (w q : Option Count) :
    b.displayText { s with value := v, width := w, precision := q } = b.displayText s := by
  unfold displayText
  split
  · rename_i o n hraw
    simp only [echoes, hraw] at hb
    simp [echo, hb]
  · rfl

theorem debugText_selectors {b : Bound} (hb : b.echoes = false) (s : Spec) (v : Selector)
    (w q : Option Count) :
    b.debugText { s with value := v, width := w, precision := q } = b.debugText s := by
  unfold debugText
  split
  · rename_i o n hraw
    simp only [echoes, hraw] at hb
    simp [echo, hb]
  all_goals rfl

/-- **A value that does not echo renders alike under any selectors.** Rendering reads a
placeholder's directives and, only for an echoing object, its canonical text. -/
theorem render_selectors {b : Bound} (hb : b.echoes = false) (s : Spec) (v : Selector)
    (w q : Option Count) (p : Option Nat) (o : Nat) :
    b.render { s with value := v, width := w, precision := q } p o = b.render s p o := by
  simp only [render, displayText_selectors hb, debugText_selectors hb]
  rfl

end Bound

theorem Piece.render_renumber {q : Piece} (hq : ∀ s b w p o, q = .slot s b w p o → b.echoes = false)
    (k : Nat) : (q.renumber k).render = q.render := by
  cases q with
  | literal t => rfl
  | slot s b w p o =>
    simp only [Piece.renumber, Piece.render, Spec.renumber,
      Bound.render_selectors (hq s b w p o rfl)]

/-- **Renumbering keeps the text** of pieces whose values do not echo their placeholders. -/
theorem renderPieces_renumberFrom : ∀ (k : Nat) (ps : List Piece),
    (∀ s b w p o, Piece.slot s b w p o ∈ ps → b.echoes = false) →
    renderPieces (Piece.renumberFrom k ps) = renderPieces ps
  | _, [], _ => rfl
  | k, q :: ps, h => by
    have hq : ∀ s b w p o, q = .slot s b w p o → b.echoes = false := by
      rintro s b w p o rfl
      exact h s b w p o List.mem_cons_self
    have hps : ∀ s b w p o, Piece.slot s b w p o ∈ ps → b.echoes = false :=
      fun s b w p o hm => h s b w p o (List.mem_cons_of_mem _ hm)
    rw [Piece.renumberFrom, renderPieces, renderPieces, Piece.render_renumber hq,
      renderPieces_renumberFrom _ ps hps]

/-- **Implicit selectors are positions in binding order.** Replacing each implicit selector by the
position it takes formats every template alike, as long as no argument is an object whose text
echoes its placeholder: both succeed with the same text, or both fail. -/
theorem Template.format_renumber (t : Template) (cfg : Config) (positional : List Value)
    (named : List (String × Value)) (hpos : ∀ v ∈ positional, (v.bind none).echoes = false)
    (hnamed : ∀ nv ∈ named, (nv.2.bind none).echoes = false) (out : String) :
    t.renumber.format cfg positional named = .ok out ↔ t.format cfg positional named = .ok out := by
  have hargs : ∀ b, (b ∈ (Arguments.ofValues positional named).positional ∨
      ∃ n, (n, b) ∈ (Arguments.ofValues positional named).named) → b.echoes = false := by
    rintro b (hb | ⟨n, hb⟩)
    · obtain ⟨v, hv, rfl⟩ := List.mem_map.1 hb
      exact hpos v hv
    · obtain ⟨⟨n', v⟩, hv, he⟩ := List.mem_map.1 hb
      cases he
      exact hnamed _ hv
  simp only [Template.format]
  generalize Arguments.ofValues positional named = args at hargs ⊢
  cases hb : t.bindPieces cfg args with
  | error e =>
    obtain ⟨e', he'⟩ := Template.bindPieces_renumber_error cfg args hb
    simp [he', bind, Except.bind]
  | ok ps =>
    obtain ⟨u, hsegs, -⟩ := (Template.bindPieces_eq_ok cfg args).1 hb
    have hecho : ∀ s b w p o, Piece.slot s b w p o ∈ ps → b.echoes = false :=
      fun s b w p o hm => hargs b (bindSegments_values cfg args hsegs s b w p o hm)
    simp only [Template.bindPieces_renumber_ok cfg args hb, bind, Except.bind,
      renderPieces_renumberFrom 0 ps hecho]


/-! ### Implicit selectors take the arguments in binding order -/

/-- **Implicit selectors take the arguments in binding order.** The cursor counts the implicit
selectors bound so far, positions and names never moving it; binding the template with the
`i`-th implicit selector replaced by position `i` binds the same values and uses the same
arguments, and fails where the original fails; the arguments are reported exhausted, with their
number, exactly when binding comes to the implicit selector of that number with every placeholder
before it bound; and for arguments that do not echo their placeholder the renumbered template
formats to the same text. -/
theorem implicit_selectors_in_binding_order (cfg : Config) (args : Arguments) :
    (∀ (segs : List Segment) (u u' : Usage) (ps : List Piece),
        bindSegments cfg args segs u = .ok (ps, u') →
          u'.cursor = u.cursor + (segs.map Segment.implicitCount).sum) ∧
    (∀ (t : Template) (ps : List Piece), t.bindPieces cfg args = .ok ps →
        t.renumber.bindPieces cfg args = .ok (Piece.renumberFrom 0 ps)) ∧
    (∀ (t : Template) (e : CallError), t.bindPieces cfg args = .error e →
        ∃ e', t.renumber.bindPieces cfg args = .error e') ∧
    (∀ (t : Template) (n o : Nat),
        t.bindPieces cfg args = .error (.format (.exhausted n o)) ↔
          n = args.positional.length ∧
            ∃ pre spec post ps u, t.segments = pre ++ .placeholder spec o :: post ∧
              bindSegments cfg args pre {} = .ok (ps, u) ∧ spec.ReachesNext cfg args o u n) ∧
    (∀ (t : Template) (positional : List Value) (named : List (String × Value)),
        (∀ v ∈ positional, (v.bind none).echoes = false) →
        (∀ nv ∈ named, (nv.2.bind none).echoes = false) →
        ∀ out, t.renumber.format cfg positional named = .ok out ↔
          t.format cfg positional named = .ok out) :=
  ⟨fun _ _ _ _ h => bindSegments_cursor cfg args h,
    fun _ _ h => Template.bindPieces_renumber_ok cfg args h,
    fun _ _ h => Template.bindPieces_renumber_error cfg args h,
    fun _ _ _ => Template.bindPieces_eq_exhausted cfg args,
    fun t positional named hpos hnamed out =>
      Template.format_renumber t cfg positional named hpos hnamed out⟩

end BraceFormat
