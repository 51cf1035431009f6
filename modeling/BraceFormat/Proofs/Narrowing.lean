import BraceFormat.Proofs.ImplicitArguments
/-!
# Narrowing the capabilities of an argument

A value bound with a collection of capabilities keeps its raw value, and so its kind, its number
and its texts, and keeps only the capabilities that are both in its own set and in the
collection. Binding a value that is already bound keeps its set, so narrowing twice narrows by
both collections: narrowing is idempotent and commutative and never widens a set.

Handing a call a narrowed argument in place of the value itself changes nothing but the
capability checks. Counts read an argument's number and never its capabilities, so they are not
affected at all (`Arguments.resolveCount_narrowed`). A value is checked against its conversion
when it is bound and again when it is rendered, and a narrowed value can only fail where the
original passed. So the call gives the same result or refuses a conversion, and it gives the same
result whenever the narrowing keeps the capability of every conversion applied to the argument.

The two bindings, with the narrowed arguments and with the original ones, are compared segment
by segment through `Refines`: the same result up to the capabilities of the bound values, the
same error, or a refusal of a conversion. A refusal of its own is only possible at a placeholder
whose argument, numbered as in `Template.renumber`, lost the capability of the conversion.

## Main definitions

* `Bound.narrowBy`: a bound value with only the capabilities it shares with a set.
* `Arguments.narrowed`: arguments narrowed position by position and name by name.
* `Spec.Keeps`, `AllKeep`: placeholders whose arguments keep the capabilities they need.
* `Piece.forget`: a bound piece without its value's capabilities.
* `Refines`: a binding outcome with narrowed arguments against the original's.

## Main results

* `Value.narrow_narrow`: narrowing twice narrows by both collections.
* `Arguments.resolveCount_narrowed`: counts ignore capabilities.
* `bindSegments_narrowed`: narrowing only adds refusals, each at a placeholder that does not
  keep its capability.
* `Template.format_narrowed`: the same for a whole call.
* `narrowing_only_adds_refusals`: the laws for one positional or named argument.
-/

namespace BraceFormat

/-! ### Narrowing a value -/

namespace Caps

/-- Sets with the same capabilities are equal. -/
theorem ext_has {s t : Caps} (h : ∀ c, s.has c = t.has c) : s = t := by
  obtain ⟨a₁, a₂, a₃, a₄, a₅, a₆⟩ := s
  obtain ⟨b₁, b₂, b₃, b₄, b₅, b₆⟩ := t
  simp only [mk.injEq]
  exact ⟨h .display, h .debug, h .binary, h .octal, h .hex, h .exponential⟩

@[simp]
theorem has_all (c : Capability) : all.has c = true := by
  cases c <;> rfl

@[simp]
theorem inter_all (s : Caps) : s.inter all = s :=
  ext_has fun c => by simp

theorem inter_assoc (s t r : Caps) : (s.inter t).inter r = s.inter (t.inter r) :=
  ext_has fun c => by simp [Bool.and_assoc]

theorem inter_comm (s t : Caps) : s.inter t = t.inter s :=
  ext_has fun c => by simp [Bool.and_comm]

@[simp]
theorem inter_self (s : Caps) : s.inter s = s :=
  ext_has fun c => by simp

end Caps

namespace Bound

/-- The bound value with only the capabilities it shares with `A`. -/
def narrowBy (b : Bound) (A : Caps) : Bound :=
  ⟨b.raw, b.caps.inter A⟩

@[simp]
theorem narrowBy_raw (b : Bound) (A : Caps) : (b.narrowBy A).raw = b.raw :=
  rfl

@[simp]
theorem narrowBy_caps (b : Bound) (A : Caps) : (b.narrowBy A).caps = b.caps.inter A :=
  rfl

@[simp]
theorem kind_narrowBy (b : Bound) (A : Caps) : (b.narrowBy A).kind = b.kind :=
  rfl

@[simp]
theorem narrowBy_all (b : Bound) : b.narrowBy Caps.all = b := by
  simp [narrowBy]

end Bound

/-- Binding with a collection narrows what binding alone gives. -/
theorem Value.bind_some (v : Value) (A : Caps) : v.bind (some A) = (v.bind Option.none).narrowBy A :=
  rfl

/-- A narrowed value binds to itself: its raw value with its narrowed set. -/
theorem Value.narrow_bind (v : Value) (A : Caps) :
    (v.narrow A).bind Option.none = (v.bind Option.none).narrowBy A :=
  rfl

/-- A narrowed value as a value: its raw value with the narrowed set. -/
theorem Value.narrow_eq (v : Value) (A : Caps) :
    v.narrow A = .bound (v.bind Option.none).raw ((v.bind Option.none).caps.inter A) :=
  rfl

/-- **Narrowing twice narrows by both collections.** -/
theorem Value.narrow_narrow (v : Value) (A B : Caps) :
    (v.narrow A).narrow B = v.narrow (A.inter B) := by
  rw [Value.narrow_eq (v.narrow A), Value.narrow_bind, Value.narrow_eq v]
  simp only [Bound.narrowBy_raw, Bound.narrowBy_caps, Caps.inter_assoc]

/-! ### Narrowed arguments -/

namespace Arguments

/-- The arguments with the positional argument `i` narrowed to `P i` and each named argument `n`
to `N n`; `Caps.all` leaves an argument as it is. -/
def narrowed (args : Arguments) (P : Nat → Caps) (N : String → Caps) : Arguments where
  positional := args.positional.mapIdx fun i b => b.narrowBy (P i)
  named := args.named.map fun nb => (nb.1, nb.2.narrowBy (N nb.1))

/-- A name finds the narrowed value of the entry it found before. -/
theorem lookup_map_narrowBy (named : List (String × Bound)) (N : String → Caps) (n : String) :
    (named.map fun nb => (nb.1, nb.2.narrowBy (N nb.1))).lookup n =
      (named.lookup n).map (·.narrowBy (N n)) := by
  induction named with
  | nil => rfl
  | cons nb rest ih =>
    obtain ⟨m, b⟩ := nb
    by_cases h : n = m
    · subst h
      simp [List.lookup]
    · have hb : (n == m) = false := beq_false_of_ne h
      simp [List.lookup, hb, ih]

end Arguments

/-- The narrowing of the argument a selector takes, the implicit selector taking the position
`cursor`. -/
def Selector.mask (P : Nat → Caps) (N : String → Caps) (cursor : Nat) : Selector → Caps
  | .next => P cursor
  | .index i => P i
  | .name n => N n

namespace Arguments

variable (args : Arguments) (P : Nat → Caps) (N : String → Caps)

/-- **A selector takes the same argument, narrowed.** Resolution fails alike, and uses alike. -/
theorem resolve_narrowed (u : Usage) (s : Selector) (o : Nat) :
    (args.narrowed P N).resolve u s o =
      (fun r : Bound × Usage => (r.1.narrowBy (s.mask P N u.cursor), r.2)) <$>
        args.resolve u s o := by
  cases s with
  | next =>
    simp only [resolve, narrowed, List.getElem?_mapIdx, Selector.mask]
    cases args.positional[u.cursor]? <;> rfl
  | index i =>
    simp only [resolve, narrowed, List.getElem?_mapIdx, Selector.mask]
    cases args.positional[i]? <;> rfl
  | name n =>
    simp only [resolve, narrowed, lookup_map_narrowBy, Selector.mask]
    cases args.named.lookup n <;> rfl

theorem resolve_narrowed_ok {u u' : Usage} {s : Selector} {o : Nat} {b : Bound}
    (h : args.resolve u s o = .ok (b, u')) :
    (args.narrowed P N).resolve u s o = .ok (b.narrowBy (s.mask P N u.cursor), u') := by
  rw [resolve_narrowed, h]
  rfl

theorem resolve_narrowed_error {u : Usage} {s : Selector} {o : Nat} {e : CallError}
    (h : args.resolve u s o = .error e) : (args.narrowed P N).resolve u s o = .error e := by
  rw [resolve_narrowed, h]
  rfl

/-- **Counts ignore capabilities.** A width or precision resolves from narrowed arguments exactly
as from the original ones: a count reads its argument's number, and a refused count shows its
raw value. -/
theorem resolveCount_narrowed (limit : Option Nat) (u : Usage) (c : Option Count) (o : Nat) :
    (args.narrowed P N).resolveCount limit u c o = args.resolveCount limit u c o := by
  match c with
  | none => rfl
  | some (.literal n) => rfl
  | some (.given s) =>
    simp only [resolveCount, resolve_narrowed]
    cases args.resolve u s o <;> rfl

end Arguments

/-! ### Which placeholders keep their capabilities -/

/-- A placeholder whose value keeps, under the narrowing, the capability its conversion needs:
the narrowing of the argument at its position, or of its name, has that capability. An implicit
value has no position until the template is numbered (`Template.renumber`), and asks nothing. -/
def Spec.Keeps (P : Nat → Caps) (N : String → Caps) (spec : Spec) : Prop :=
  match spec.value with
  | .next => True
  | .index i => (P i).has spec.conversion.capability = true
  | .name n => (N n).has spec.conversion.capability = true

/-- Every placeholder of a segment list keeps its capability. -/
def AllKeep (P : Nat → Caps) (N : String → Caps) (segs : List Segment) : Prop :=
  ∀ spec o, Segment.placeholder spec o ∈ segs → spec.Keeps P N

/-- A placeholder numbered from the cursor keeps its capability exactly when the argument its
value takes there does. -/
theorem Spec.keeps_renumber_iff {P : Nat → Caps} {N : String → Caps} (spec : Spec) (k : Nat) :
    (spec.renumber k).Keeps P N ↔
      (spec.value.mask P N (k + Count.implicitCount spec.width +
        Count.implicitCount spec.precision)).has spec.conversion.capability = true := by
  unfold Spec.Keeps Spec.renumber
  cases spec.value <;> simp [Selector.renumber, Selector.mask]

/-! ### Rendering reads capabilities only through the check -/

/-- A value with the capability its conversion needs renders as it would with every capability. -/
theorem Bound.render_of_has {b : Bound} {spec : Spec}
    (h : b.caps.has spec.conversion.capability = true) (p : Option Nat) (o : Nat) :
    b.render spec p o = (⟨b.raw, Caps.all⟩ : Bound).render spec p o := by
  simp only [Bound.render, h, Caps.has_all, if_true]
  rfl

namespace Piece

/-- The piece with its value's capabilities forgotten. -/
def forget : Piece → Piece
  | literal s => literal s
  | slot spec b w p o => slot spec ⟨b.raw, Caps.all⟩ w p o

/-- A piece whose value has the capability its conversion needs. -/
def Capable : Piece → Prop
  | literal _ => True
  | slot spec b _ _ _ => b.caps.has spec.conversion.capability = true

theorem render_forget {q : Piece} (h : q.Capable) : q.forget.render = q.render := by
  cases q with
  | literal s => rfl
  | slot spec b w p o =>
    simp only [forget, render, Bound.render_of_has (b := b) h]

end Piece

/-- Pieces that all pass their checks render as they would without their capabilities. -/
theorem renderPieces_forget : ∀ {ps : List Piece}, (∀ q ∈ ps, q.Capable) →
    renderPieces (ps.map Piece.forget) = renderPieces ps
  | [], _ => rfl
  | q :: ps, h => by
    rw [List.map_cons, renderPieces, renderPieces, Piece.render_forget (h q List.mem_cons_self),
      renderPieces_forget fun q' hq' => h q' (List.mem_cons_of_mem _ hq')]

section Binding

variable (cfg : Config) (args : Arguments)

/-- **Binding makes only pieces that pass their checks.** -/
theorem bindSegments_capable : ∀ {segs : List Segment} {u u' : Usage} {ps : List Piece},
    bindSegments cfg args segs u = .ok (ps, u') → ∀ q ∈ ps, q.Capable
  | [], u, u', ps, h => by
    obtain ⟨rfl, -⟩ := Prod.mk.inj (Except.ok.inj h)
    intro q hq
    cases hq
  | seg :: rest, u, u', ps, h => by
    obtain ⟨q, u₁, ps, hq, hps, rfl⟩ := (bindSegments_cons_eq_ok cfg args).1 h
    intro q' hq'
    rcases List.mem_cons.1 hq' with rfl | hq'
    · cases seg with
      | literal s =>
        obtain ⟨rfl, -⟩ := Prod.mk.inj (Except.ok.inj hq)
        trivial
      | placeholder spec o =>
        obtain ⟨w, -, p, -, b, -, -, -, hcap, rfl⟩ := (bindSlot_eq_ok cfg args).1 hq
        exact hcap
    · exact bindSegments_capable hps q' hq'

end Binding

/-! ### The two bindings, step by step -/

/-- The outcome of a binding step with narrowed arguments against the original's: the same
result up to what `forget` drops, the same error, or, only where `bad` holds, a refusal of a
conversion. -/
def Refines {α : Type} (forget : α → α) (bad : Prop) :
    Except CallError (α × Usage) → Except CallError (α × Usage) → Prop
  | .ok (a', u'), r => ∃ a, r = .ok (a, u') ∧ forget a' = forget a
  | .error e', r => r = .error e' ∨ bad ∧ ∃ c k o, e' = .format (.unsupported c k o)

namespace Refines

variable {α β : Type} {f : α → α} {g : β → β} {bad bad' : Prop}

theorem mono {r' r : Except CallError (α × Usage)} (h : Refines f bad r' r) (hb : bad → bad') :
    Refines f bad' r' r := by
  match r', h with
  | .ok _, h => exact h
  | .error _, .inl h => exact .inl h
  | .error _, .inr ⟨hbad, he⟩ => exact .inr ⟨hb hbad, he⟩

theorem refl {r : Except CallError (α × Usage)} : Refines f bad r r := by
  match r with
  | .ok (a, u) => exact ⟨a, rfl, rfl⟩
  | .error e => exact .inl rfl

/-- Refinement is kept through the steps of a computation. -/
theorem bind {r' r : Except CallError (α × Usage)} (h : Refines f bad r' r)
    {k' k : α × Usage → Except CallError (β × Usage)}
    (hk : ∀ a' a u, r' = .ok (a', u) → r = .ok (a, u) → f a' = f a →
      Refines g bad (k' (a', u)) (k (a, u))) :
    Refines g bad (r' >>= k') (r >>= k) := by
  match r', h with
  | .ok (a', u), ⟨a, hr, hf⟩ =>
    subst hr
    exact hk a' a u rfl rfl hf
  | .error e', .inl hr =>
    subst hr
    exact .inl rfl
  | .error e', .inr hbad => exact .inr hbad

end Refines

section Narrowed

variable (cfg : Config) (args : Arguments) (P : Nat → Caps) (N : String → Caps)

/-- **Binding a placeholder with narrowed arguments.** Its counts resolve alike and its value is
the original narrowed; the capability check fails where the original's fails, or where the
narrowing took the conversion's capability from the argument. -/
theorem bindSlot_narrowed (spec : Spec) (o : Nat) (u : Usage) :
    Refines Piece.forget (¬ (spec.renumber u.cursor).Keeps P N)
      (bindSlot cfg (args.narrowed P N) spec o u) (bindSlot cfg args spec o u) := by
  simp only [bindSlot, Arguments.resolveCount_narrowed]
  refine Refines.bind (f := id) Refines.refl fun w w' u₁ hw _ hf => ?_
  obtain rfl : w = w' := hf
  refine Refines.bind (f := id) Refines.refl fun p p' u₂ hp _ hf => ?_
  obtain rfl : p = p' := hf
  cases hv : args.resolve u₂ spec.value o with
  | error e =>
    rw [args.resolve_narrowed_error P N hv]
    exact .inl rfl
  | ok r =>
    obtain ⟨b, u₃⟩ := r
    rw [args.resolve_narrowed_ok P N hv]
    have hcur : u₂.cursor = u.cursor + Count.implicitCount spec.width +
        Count.implicitCount spec.precision := by
      rw [args.resolveCount_cursor hp, args.resolveCount_cursor hw]
    have hkeep := Spec.keeps_renumber_iff (P := P) (N := N) spec u.cursor
    rw [← hcur] at hkeep
    simp only [bind, Except.bind, Bound.narrowBy_caps, Caps.has_inter, Bound.kind_narrowBy]
    by_cases hb : b.caps.has spec.conversion.capability = true
    · by_cases hm : (spec.value.mask P N u₂.cursor).has spec.conversion.capability = true
      · simp only [hb, hm, Bool.and_self, if_true]
        exact ⟨_, rfl, rfl⟩
      · simp only [hb, hm, Bool.true_and, Bool.false_eq_true, if_true, if_false]
        exact .inr ⟨fun h => hm (hkeep.1 h), _, _, _, rfl⟩
    · simp only [hb, Bool.false_and, Bool.false_eq_true, if_false]
      exact .inl rfl

/-- A segment binds with narrowed arguments as `bindSlot_narrowed` says; literal text alike. -/
theorem bindSegment_narrowed (seg : Segment) (u : Usage) :
    Refines Piece.forget (¬ AllKeep P N [seg.renumber u.cursor])
      (bindSegment cfg (args.narrowed P N) seg u) (bindSegment cfg args seg u) := by
  cases seg with
  | literal s => exact ⟨_, rfl, rfl⟩
  | placeholder spec o =>
    refine (bindSlot_narrowed cfg args P N spec o u).mono fun hbad hall => hbad ?_
    exact hall _ o List.mem_cons_self

/-- **Narrowing only adds refusals.** Binding segments with narrowed arguments gives the
original's result up to the bound values' capabilities, or the original's error, or a refusal
of a conversion, and that only when some placeholder, numbered from the cursor, does not keep
its capability. -/
theorem bindSegments_narrowed : ∀ (segs : List Segment) (u : Usage),
    Refines (List.map Piece.forget) (¬ AllKeep P N (Segment.renumberFrom u.cursor segs))
      (bindSegments cfg (args.narrowed P N) segs u) (bindSegments cfg args segs u)
  | [], u => ⟨[], rfl, rfl⟩
  | seg :: rest, u => by
    rw [bindSegments_cons, bindSegments_cons]
    refine Refines.bind ((bindSegment_narrowed cfg args P N seg u).mono ?_)
      fun q' q u₁ _ hq hqf => ?_
    · refine fun hbad hall => hbad fun spec o hm => hall spec o ?_
      rw [List.mem_singleton.1 hm]
      exact List.mem_cons_self
    have hcur := (bindSegment_cursor cfg args hq).1
    refine Refines.bind ((bindSegments_narrowed rest u₁).mono ?_) fun ps' ps u₂ _ _ hpsf => ?_
    · refine fun hbad hall => hbad fun spec o hm => hall spec o ?_
      rw [hcur] at hm
      exact List.mem_cons_of_mem _ hm
    exact ⟨q :: ps, rfl, by simp only [List.map_cons, hqf, hpsf]⟩

end Narrowed


/-! ### A whole call -/

namespace Arguments

variable (args : Arguments) (P : Nat → Caps) (N : String → Caps)

theorem unusedPositions_narrowed (u : Usage) :
    (args.narrowed P N).unusedPositions u = args.unusedPositions u := by
  simp [unusedPositions, narrowed]

theorem unusedNames_narrowed (u : Usage) :
    (args.narrowed P N).unusedNames u = args.unusedNames u := by
  simp only [unusedNames, narrowed, List.map_map]
  rfl

end Arguments

/-- **A call with narrowed arguments** gives the original's result, or refuses a conversion, and
that only when some placeholder of the numbered template does not keep its capability. The
strict check sees the same usage on both sides, and pieces that passed their checks render as
the original's. -/
theorem Template.format_narrowed (t : Template) (cfg : Config) (args : Arguments)
    (P : Nat → Caps) (N : String → Caps) :
    (t.bindPieces cfg (args.narrowed P N) >>= renderPieces) =
        (t.bindPieces cfg args >>= renderPieces) ∨
      ¬ AllKeep P N t.renumber.segments ∧ ∃ c k o,
        (t.bindPieces cfg (args.narrowed P N) >>= renderPieces) =
          .error (.format (.unsupported c k o)) := by
  have h := bindSegments_narrowed cfg args P N t.segments {}
  rw [Template.bindPieces_eq, Template.bindPieces_eq]
  cases hb' : bindSegments cfg (args.narrowed P N) t.segments {} with
  | error e' =>
    rw [hb'] at h
    rcases h with h | ⟨hbad, c, k, o, rfl⟩
    · rw [h]
      exact .inl rfl
    · exact .inr ⟨hbad, c, k, o, rfl⟩
  | ok r =>
    obtain ⟨ps', u⟩ := r
    rw [hb'] at h
    obtain ⟨ps, hb, hf⟩ := h
    rw [hb]
    refine .inl ?_
    simp only [bind, Except.bind, Arguments.unusedPositions_narrowed,
      Arguments.unusedNames_narrowed]
    by_cases hc : (cfg.requireAll && (!(args.unusedPositions u).isEmpty ||
        !(args.unusedNames u).isEmpty)) = true
    · simp only [hc, if_true]
    · simp only [hc, Bool.false_eq_true, if_false]
      -- both bindings passed every check, so forgetting the capabilities changes no text
      rw [← renderPieces_forget (bindSegments_capable cfg _ hb'), hf,
        renderPieces_forget (bindSegments_capable cfg _ hb)]

/-- A template given as a value formats with narrowed arguments as `Template.format_narrowed`
says, when it is text; any other template is refused whatever the arguments. -/
theorem formatValue_narrowed (template : Value) (cfg : Config) (positional positional' : List Value)
    (named named' : List (String × Value)) (P : Nat → Caps) (N : String → Caps)
    (h : Arguments.ofValues positional' named' = (Arguments.ofValues positional named).narrowed P N) :
    formatValue template cfg positional' named' = formatValue template cfg positional named ∨
      ∃ c k o, formatValue template cfg positional' named' = .error (.format (.unsupported c k o)) := by
  unfold formatValue
  split
  · simp only [formatText]
    cases (Template.read _).mapError ReadError.toCallError with
    | error e => exact .inl rfl
    | ok t =>
      rcases Template.format_narrowed t cfg (.ofValues positional named) P N with h' | ⟨-, h'⟩
      · refine .inl ?_
        simp only [bind, Except.bind, Template.format, h]
        exact h'
      · refine .inr ?_
        simp only [bind, Except.bind, Template.format, h]
        exact h'
  · exact .inl rfl

/-! ### One narrowed argument -/

/-- Narrowing the positional argument after `pre` narrows that position of the bound
arguments. -/
theorem Arguments.ofValues_narrow_at (pre post : List Value) (v : Value)
    (named : List (String × Value)) (A : Caps) :
    Arguments.ofValues (pre ++ v.narrow A :: post) named =
      (Arguments.ofValues (pre ++ v :: post) named).narrowed
        (fun i => if i = pre.length then A else Caps.all) (fun _ => Caps.all) := by
  simp only [Arguments.ofValues, Arguments.narrowed, Bound.narrowBy_all, List.map_map]
  congr 1
  · symm
    rw [List.mapIdx_eq_iff]
    intro i
    simp only [List.getElem?_map, Option.map_map]
    rcases Nat.lt_trichotomy i pre.length with h | rfl | h
    · rw [List.getElem?_append_left h, List.getElem?_append_left h]
      simp [Nat.ne_of_lt h, Function.comp_def]
    · simp [Value.narrow_bind]
    · obtain ⟨k, rfl⟩ : ∃ k, i = pre.length + (k + 1) := ⟨i - pre.length - 1, by omega⟩
      simp [List.getElem?_append_right, Function.comp_def]

/-- Narrowing the named argument `n` narrows that name of the bound arguments. -/
theorem Arguments.ofValues_narrow_named (positional : List Value) (named : List (String × Value))
    (n : String) (A : Caps) :
    Arguments.ofValues positional
        (named.map fun nv => if nv.1 = n then (nv.1, nv.2.narrow A) else nv) =
      (Arguments.ofValues positional named).narrowed (fun _ => Caps.all)
        (fun m => if m = n then A else Caps.all) := by
  simp only [Arguments.ofValues, Arguments.narrowed, Bound.narrowBy_all, List.map_map]
  congr 1
  · symm
    simp [List.mapIdx_eq_iff, Function.comp_def]
  · refine List.map_congr_left fun nv _ => ?_
    by_cases h : nv.1 = n <;> simp [h, Value.narrow_bind]

/-- A placeholder of a numbered template comes from a placeholder of the template at the same
offset, with the same conversion and, unless it was implicit, the same value. -/
theorem Segment.mem_renumberFrom {spec : Spec} {o : Nat} :
    ∀ {segs : List Segment} {k : Nat}, Segment.placeholder spec o ∈ Segment.renumberFrom k segs →
      ∃ spec₀ k', Segment.placeholder spec₀ o ∈ segs ∧ spec = spec₀.renumber k'
  | [], _, h => by cases h
  | seg :: rest, k, h => by
    rcases List.mem_cons.1 h with h | h
    · cases seg with
      | literal s => cases h
      | placeholder spec₀ o₀ =>
        simp only [Segment.renumber, Segment.placeholder.injEq] at h
        obtain ⟨rfl, rfl⟩ := h
        exact ⟨spec₀, k, List.mem_cons_self, rfl⟩
    · obtain ⟨spec₀, k', hm, rfl⟩ := Segment.mem_renumberFrom h
      exact ⟨spec₀, k', List.mem_cons_of_mem _ hm, rfl⟩

/-- The narrowing of one position keeps every placeholder that applies to that position a
conversion whose capability the narrowing keeps. -/
theorem allKeep_position {segs : List Segment} {j : Nat} {A : Caps}
    (hA : ∀ spec o, Segment.placeholder spec o ∈ segs → spec.value = .index j →
      A.has spec.conversion.capability = true) :
    AllKeep (fun i => if i = j then A else Caps.all) (fun _ => Caps.all) segs := by
  intro spec o hm
  unfold Spec.Keeps
  split
  · trivial
  · rename_i i hv
    by_cases h : i = j
    · subst h
      simpa using hA spec o hm hv
    · simp [h]
  · simp

/-- The narrowing of one name keeps every placeholder of a numbered template that applies to
that name a conversion whose capability the narrowing keeps: numbering leaves names as they
are. -/
theorem allKeep_name {segs : List Segment} {k : Nat} {n : String} {A : Caps}
    (hA : ∀ spec o, Segment.placeholder spec o ∈ segs → spec.value = .name n →
      A.has spec.conversion.capability = true) :
    AllKeep (fun _ => Caps.all) (fun m => if m = n then A else Caps.all)
      (Segment.renumberFrom k segs) := by
  intro spec o hm
  obtain ⟨spec₀, k', hm₀, rfl⟩ := Segment.mem_renumberFrom hm
  unfold Spec.Keeps
  split
  · trivial
  · simp
  · rename_i m hv
    have hv₀ : spec₀.value = .name m := by
      simp only [Spec.renumber] at hv
      cases h : spec₀.value <;> simp_all [Selector.renumber]
    by_cases h : m = n
    · subst h
      simpa using hA spec₀ o hm₀ hv₀
    · simp [h]

/-- **Narrowing an argument only adds refusals.** Binding a narrowed value again gives its raw
value with the capabilities of the value bound alone, narrowed by both collections, so
narrowing is idempotent and commutative and never widens. Handing a call a narrowed positional
or named argument in place of the value itself leaves every count as it was and gives the same
result, or refuses a conversion; it gives the same result whenever the narrowing keeps the
capability of every conversion that a placeholder applies to that argument, an implicit value
counting for the position it takes. -/
theorem narrowing_only_adds_refusals :
    (∀ (v : Value) (A B : Caps),
      (v.narrow A).bind (some B) = ⟨(v.bind none).raw, ((v.bind none).caps.inter A).inter B⟩) ∧
    (∀ (v : Value) (A : Caps), (v.narrow A).narrow A = v.narrow A) ∧
    (∀ (v : Value) (A B : Caps), (v.narrow A).narrow B = (v.narrow B).narrow A) ∧
    (∀ (v : Value) (A : Caps) (c : Capability),
      ((v.narrow A).bind none).caps.has c = true → (v.bind none).caps.has c = true) ∧
    (∀ (pre post : List Value) (v : Value) (named : List (String × Value)) (A : Caps)
        (limit : Option Nat) (u : Usage) (c : Option Count) (o : Nat),
      (Arguments.ofValues (pre ++ v.narrow A :: post) named).resolveCount limit u c o =
        (Arguments.ofValues (pre ++ v :: post) named).resolveCount limit u c o) ∧
    (∀ (template : Value) (cfg : Config) (pre post : List Value) (v : Value)
        (named : List (String × Value)) (A : Caps),
      formatValue template cfg (pre ++ v.narrow A :: post) named =
          formatValue template cfg (pre ++ v :: post) named ∨
        ∃ c k o, formatValue template cfg (pre ++ v.narrow A :: post) named =
          .error (.format (.unsupported c k o))) ∧
    (∀ (t : Template) (cfg : Config) (pre post : List Value) (v : Value)
        (named : List (String × Value)) (A : Caps),
      (∀ spec o, Segment.placeholder spec o ∈ t.renumber.segments →
        spec.value = .index pre.length → A.has spec.conversion.capability = true) →
      t.format cfg (pre ++ v.narrow A :: post) named = t.format cfg (pre ++ v :: post) named) ∧
    (∀ (positional : List Value) (named : List (String × Value)) (n : String) (A : Caps)
        (limit : Option Nat) (u : Usage) (c : Option Count) (o : Nat),
      (Arguments.ofValues positional
          (named.map fun nv => if nv.1 = n then (nv.1, nv.2.narrow A) else nv)).resolveCount
          limit u c o =
        (Arguments.ofValues positional named).resolveCount limit u c o) ∧
    (∀ (template : Value) (cfg : Config) (positional : List Value)
        (named : List (String × Value)) (n : String) (A : Caps),
      formatValue template cfg positional
          (named.map fun nv => if nv.1 = n then (nv.1, nv.2.narrow A) else nv) =
          formatValue template cfg positional named ∨
        ∃ c k o, formatValue template cfg positional
          (named.map fun nv => if nv.1 = n then (nv.1, nv.2.narrow A) else nv) =
          .error (.format (.unsupported c k o))) ∧
    (∀ (t : Template) (cfg : Config) (positional : List Value)
        (named : List (String × Value)) (n : String) (A : Caps),
      (∀ spec o, Segment.placeholder spec o ∈ t.segments → spec.value = .name n →
        A.has spec.conversion.capability = true) →
      t.format cfg positional
          (named.map fun nv => if nv.1 = n then (nv.1, nv.2.narrow A) else nv) =
        t.format cfg positional named) := by
  refine ⟨fun v A B => rfl, fun v A => ?_, fun v A B => ?_, fun v A c h => ?_,
    fun pre post v named A limit u c o => ?_, fun template cfg pre post v named A => ?_,
    fun t cfg pre post v named A hA => ?_, fun positional named n A limit u c o => ?_,
    fun template cfg positional named n A => ?_, fun t cfg positional named n A hA => ?_⟩
  · rw [Value.narrow_narrow, Caps.inter_self]
  · rw [Value.narrow_narrow, Value.narrow_narrow, Caps.inter_comm]
  · rw [Value.narrow_bind, Bound.narrowBy_caps, Caps.has_inter] at h
    exact (Bool.and_eq_true_iff.1 h).1
  · rw [Arguments.ofValues_narrow_at, Arguments.resolveCount_narrowed]
  · exact formatValue_narrowed template cfg _ _ _ _ _ _ (Arguments.ofValues_narrow_at ..)
  · simp only [Template.format, Arguments.ofValues_narrow_at]
    rcases Template.format_narrowed t cfg _ _ _ with h | ⟨hbad, -⟩
    · exact h
    · exact absurd (allKeep_position hA) hbad
  · rw [Arguments.ofValues_narrow_named, Arguments.resolveCount_narrowed]
  · exact formatValue_narrowed template cfg _ _ _ _ _ _ (Arguments.ofValues_narrow_named ..)
  · simp only [Template.format, Arguments.ofValues_narrow_named]
    rcases Template.format_narrowed t cfg _ _ _ with h | ⟨hbad, -⟩
    · exact h
    · exact absurd (allKeep_name hA) hbad

/-- Hexadecimal of `255` with the argument narrowed to hexadecimal alone: the placeholder applies
only that conversion to it, so the call is unchanged. -/
theorem narrowing_to_hex_keeps_hex :
    (∀ spec o, Segment.placeholder spec o ∈
        (⟨[.placeholder { conversion := .lowerHex } 0]⟩ : Template).renumber.segments →
      spec.value = .index ([] : List Value).length →
        ({ hex := true } : Caps).has spec.conversion.capability = true) ∧
    (⟨[.placeholder { conversion := .lowerHex } 0]⟩ : Template).format {}
        ([] ++ (Value.int 255).narrow { hex := true } :: []) [] =
      (⟨[.placeholder { conversion := .lowerHex } 0]⟩ : Template).format {}
        ([] ++ Value.int 255 :: []) [] := by
  have hA : ∀ spec o, Segment.placeholder spec o ∈
      (⟨[.placeholder { conversion := .lowerHex } 0]⟩ : Template).renumber.segments →
      spec.value = .index ([] : List Value).length →
        ({ hex := true } : Caps).has spec.conversion.capability = true := by
    intro spec o hm _
    simp only [Template.renumber, Segment.renumberFrom, Segment.renumber, List.mem_cons,
      Segment.placeholder.injEq, List.not_mem_nil, or_false] at hm
    rw [hm.1]
    rfl
  exact ⟨hA, narrowing_only_adds_refusals.2.2.2.2.2.2.1 _ {} [] [] (.int 255) [] _ hA⟩

end BraceFormat
