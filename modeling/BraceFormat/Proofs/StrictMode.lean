import BraceFormat.Proofs.ImplicitArguments
/-!
# Strict calls report what the template leaves unused

In strict mode a call checks, once every placeholder is bound, that every positional and named
argument was used, and refuses the call otherwise; nothing else changes. A binding records the
arguments it uses as it goes, but what it records can be read off the template: a binding that
succeeds uses the positions and names its selectors give, for values, widths and precisions
alike, and one position for each implicit selector, the first ones in order. So the arguments
reported unused are the positions past the implicit ones that no selector names, ascending, and
the names of the table that the template does not mention, sorted.

Positions are compared through the numbered template of `Template.renumber`, whose selectors
name every position a binding takes: a binding from a cursor uses the positions of its
segments numbered from that cursor (`bindSegments_usage`), and those are the positions the
segments name and the ones the implicit selectors take (`mem_renumberFrom_positions`).

## Main definitions

* `Spec.positions`, `Segment.positions`, `Segment.names`: what the selectors name.
* `Template.selectedPositions`, `Template.implicitCount`.
* `Template.unreferencedPositions`, `Template.unreferencedNames`: what strict mode reports.

## Main results

* `insertName_sorted`, `mem_insertName`: sorted name lists without repetition.
* `bindSegments_usage`: a binding uses what its numbered segments select.
* `bindSegments_usage_static`: a binding of a whole template uses what it names and the first
  positions, one for each implicit selector.
* `Template.format_strict`: the strict call.
* `strict_call_reports_unreferenced`: a strict call, on a parsed template or on a text, behaves
  as the call without strict mode unless every placeholder binds and some argument is unused,
  and then reports the positions and the names the template leaves unreferenced.
-/

namespace BraceFormat

/-! ### Sorted lists of names -/

theorem mem_insertName {n m : String} : ∀ {names : List String},
    m ∈ insertName n names ↔ m = n ∨ m ∈ names
  | [] => by simp [insertName]
  | k :: rest => by
    unfold insertName
    split
    · simp
    · split
      · rename_i h
        subst h
        simp only [List.mem_cons]
        constructor
        · exact fun h => .inr h
        · rintro (rfl | h)
          · exact .inl rfl
          · exact h
      · simp only [List.mem_cons, mem_insertName, or_left_comm]

/-- **Inserting a name keeps a list sorted without repetition.** -/
theorem insertName_sorted (n : String) : ∀ {names : List String},
    names.Pairwise (· < ·) → (insertName n names).Pairwise (· < ·)
  | [], _ => List.pairwise_singleton _ _
  | k :: rest, h => by
    unfold insertName
    split
    · rename_i hlt
      exact List.Pairwise.cons (fun m hm => (List.mem_cons.1 hm).elim (· ▸ hlt)
        fun hm => lt_trans hlt (List.rel_of_pairwise_cons h hm)) h
    · split
      · exact h
      · rename_i hnlt hne
        have hkn : k < n := (lt_or_gt_of_ne hne).resolve_left hnlt
        refine List.Pairwise.cons (fun m hm => ?_) (insertName_sorted n h.of_cons)
        rcases mem_insertName.1 hm with rfl | hm
        · exact hkn
        · exact List.rel_of_pairwise_cons h hm

/-- Inserting, in order, the names of a list that a test refuses: sorted without repetition, and
holding exactly the refused names besides those it started with. -/
theorem foldl_insertName {p : String → Bool} : ∀ (names : List String) {acc : List String},
    acc.Pairwise (· < ·) →
      (names.foldl (fun acc n => if p n then acc else insertName n acc) acc).Pairwise (· < ·) ∧
      ∀ m, m ∈ names.foldl (fun acc n => if p n then acc else insertName n acc) acc ↔
        (m ∈ names ∧ p m = false) ∨ m ∈ acc
  | [], _, h => ⟨h, fun m => by simp⟩
  | n :: rest, acc, h => by
    by_cases hp : p n = true
    · obtain ⟨hs, hm⟩ := foldl_insertName rest h
      simp only [List.foldl_cons, hp, if_true]
      refine ⟨hs, fun m => ?_⟩
      rw [hm]
      by_cases hmn : m = n
      · subst hmn
        simp [hp]
      · simp [hmn]
    · obtain ⟨hs, hm⟩ := foldl_insertName rest (insertName_sorted n h)
      simp only [List.foldl_cons, hp, Bool.false_eq_true, if_false]
      refine ⟨hs, fun m => ?_⟩
      rw [hm, mem_insertName]
      by_cases hmn : m = n
      · subst hmn
        simp [hp]
      · simp [hmn]

/-! ### What a template's selectors name -/

namespace Selector

/-- The position a selector names, if it names one. -/
def position? : Selector → Option Nat
  | index i => some i
  | _ => none

/-- The name a selector names, if it names one. -/
def name? : Selector → Option String
  | name n => some n
  | _ => none

end Selector

namespace Count

/-- The position an optional count takes its argument from, if it names one. -/
def positions : Option Count → List Nat
  | some (given s) => s.position?.toList
  | _ => []

/-- The name an optional count takes its argument from, if it names one. -/
def names : Option Count → List String
  | some (given s) => s.name?.toList
  | _ => []

end Count

/-- The positions a placeholder's selectors name, in binding order: width, precision, value. -/
def Spec.positions (s : Spec) : List Nat :=
  Count.positions s.width ++ Count.positions s.precision ++ s.value.position?.toList

/-- The names of a placeholder's selectors, as `Template.specNames` lists them. -/
theorem Template.specNames_eq (s : Spec) :
    Template.specNames s = Count.names s.width ++ Count.names s.precision ++ s.value.name?.toList := by
  obtain ⟨v, -, -, -, -, w, p, -⟩ := s
  simp only [Template.specNames, Spec.countSelectors, List.filterMap_append]
  congr 1
  congr 1
  · rcases w with _ | _ | (_ | _ | _) <;> rfl
  · rcases p with _ | _ | (_ | _ | _) <;> rfl

namespace Segment

/-- The positions a segment's selectors name. -/
def positions : Segment → List Nat
  | literal _ => []
  | placeholder s _ => s.positions

/-- The names a segment's selectors name. -/
def names : Segment → List String
  | literal _ => []
  | placeholder s _ => Template.specNames s

end Segment

namespace Template

/-- The positions a template's selectors name. -/
def selectedPositions (t : Template) : List Nat :=
  t.segments.flatMap Segment.positions

/-- The number of implicit selectors of a template. -/
def implicitCount (t : Template) : Nat :=
  (t.segments.map Segment.implicitCount).sum

/-- The positions below `count` that no selector of the template names and that its implicit
selectors do not take, ascending. -/
def unreferencedPositions (t : Template) (count : Nat) : List Nat :=
  (List.range count).filter fun i => !t.selectedPositions.contains i && decide (t.implicitCount ≤ i)

/-- The names among `keys` that the template does not mention, sorted, each once. -/
def unreferencedNames (t : Template) (keys : List String) : List String :=
  keys.foldl (fun acc n => if t.argumentNames.contains n then acc else insertName n acc) []

/-- A template mentions a name exactly when one of its segments does. -/
theorem mem_argumentNames {t : Template} {n : String} :
    n ∈ t.argumentNames ↔ n ∈ t.segments.flatMap Segment.names := by
  have h := (foldl_insertName (p := fun _ => false)
    (t.placeholders.flatMap fun p => specNames p.1) List.Pairwise.nil).2 n
  simp only [Bool.false_eq_true, if_false, and_true, List.not_mem_nil, or_false] at h
  rw [argumentNames, h]
  simp only [placeholders, List.mem_flatMap, List.mem_filterMap]
  constructor
  · rintro ⟨_, ⟨seg, hseg, hp⟩, hn⟩
    cases seg with
    | literal s => cases hp
    | placeholder s o =>
      cases hp
      exact ⟨_, hseg, hn⟩
  · rintro ⟨seg, hseg, hn⟩
    cases seg with
    | literal s => cases hn
    | placeholder s o => exact ⟨(s, o), ⟨_, hseg, rfl⟩, hn⟩

end Template

/-! ### Positions taken by implicit selectors -/

theorem Selector.mem_renumber_position {i k : Nat} (s : Selector) :
    i ∈ (s.renumber k).position?.toList ↔
      i ∈ s.position?.toList ∨ k ≤ i ∧ i < k + s.implicitCount := by
  cases s with
  | next =>
    simp only [renumber, position?, implicitCount, Option.mem_toList,
      Option.some.injEq, reduceCtorEq, false_or]
    omega
  | index j => simp [renumber, position?, implicitCount]
  | name n => simp [renumber, position?, implicitCount]

theorem Count.mem_renumber_positions {i k : Nat} (c : Option Count) :
    i ∈ positions (renumber k c) ↔ i ∈ positions c ∨ k ≤ i ∧ i < k + implicitCount c := by
  match c with
  | none => simp [renumber, positions, implicitCount]
  | some (.literal n) => simp [renumber, positions, implicitCount]
  | some (.given s) => exact s.mem_renumber_position

/-- A placeholder numbered from `k` names its own positions and those its implicit selectors
take, `k` and the ones after it. -/
theorem Spec.mem_renumber_positions {i k : Nat} (s : Spec) :
    i ∈ (s.renumber k).positions ↔ i ∈ s.positions ∨ k ≤ i ∧ i < k + s.implicitCount := by
  simp only [positions, renumber, implicitCount, List.mem_append,
    Count.mem_renumber_positions, Selector.mem_renumber_position]
  grind

theorem mem_renumberFrom_positions {i : Nat} : ∀ {segs : List Segment} {k : Nat},
    i ∈ (Segment.renumberFrom k segs).flatMap Segment.positions ↔
      i ∈ segs.flatMap Segment.positions ∨
        k ≤ i ∧ i < k + (segs.map Segment.implicitCount).sum
  | [], k => by simp [Segment.renumberFrom]
  | seg :: rest, k => by
    have hseg : i ∈ (seg.renumber k).positions ↔
        i ∈ seg.positions ∨ k ≤ i ∧ i < k + seg.implicitCount := by
      cases seg with
      | literal s => simp [Segment.renumber, Segment.positions, Segment.implicitCount]
      | placeholder s o => exact s.mem_renumber_positions
    simp only [Segment.renumberFrom, List.flatMap_cons, List.mem_append, hseg,
      mem_renumberFrom_positions, List.map_cons, List.sum_cons]
    grind

/-! ### What a binding uses -/

namespace Arguments

variable (args : Arguments)

/-- Resolving a selector uses the position it takes, the implicit one the cursor's, and the name
it names. -/
theorem resolve_usage {u u' : Usage} {s : Selector} {o : Nat} {b : Bound}
    (h : args.resolve u s o = .ok (b, u')) :
    u'.positions = (s.renumber u.cursor).position?.toList ++ u.positions ∧
      u'.names = s.name?.toList ++ u.names := by
  rcases (args.resolve_eq_ok).1 h with ⟨rfl, -, rfl⟩ | ⟨i, rfl, -, rfl⟩ | ⟨n, rfl, -, rfl⟩ <;>
    exact ⟨rfl, rfl⟩

theorem resolveCount_usage' {limit : Option Nat} {u u' : Usage} {c : Option Count} {o : Nat}
    {n? : Option Nat} (h : args.resolveCount limit u c o = .ok (n?, u')) :
    u'.positions = Count.positions (Count.renumber u.cursor c) ++ u.positions ∧
      u'.names = Count.names c ++ u.names := by
  rcases args.resolveCount_usage h with ⟨rfl | ⟨n, rfl⟩, rfl⟩ | ⟨s, b, rfl, hr⟩
  · exact ⟨rfl, rfl⟩
  · exact ⟨rfl, rfl⟩
  · exact args.resolve_usage hr

end Arguments

section Binding

variable (cfg : Config) (args : Arguments)

/-- Binding a segment uses the positions of the segment numbered from the cursor, and its
names. -/
theorem bindSegment_usage {seg : Segment} {u u' : Usage} {q : Piece}
    (h : bindSegment cfg args seg u = .ok (q, u')) :
    (∀ i, i ∈ u'.positions ↔ i ∈ (seg.renumber u.cursor).positions ∨ i ∈ u.positions) ∧
      ∀ n, n ∈ u'.names ↔ n ∈ seg.names ∨ n ∈ u.names := by
  cases seg with
  | literal s =>
    obtain ⟨-, rfl⟩ := Prod.mk.inj (Except.ok.inj h)
    simp [Segment.renumber, Segment.positions, Segment.names]
  | placeholder spec o =>
    obtain ⟨w, u₁, p, u₂, b, hw, hp, hb, -, -⟩ := (bindSlot_eq_ok cfg args).1 h
    obtain ⟨hwp, hwn⟩ := args.resolveCount_usage' hw
    obtain ⟨hpp, hpn⟩ := args.resolveCount_usage' hp
    obtain ⟨hbp, hbn⟩ := args.resolve_usage hb
    have hc₁ := args.resolveCount_cursor hw
    have hc₂ := args.resolveCount_cursor hp
    simp only [Segment.renumber, Segment.positions, Segment.names, Spec.positions,
      Spec.renumber, Template.specNames_eq, hbp, hbn, hpp, hpn, hwp, hwn, hc₁, hc₂,
      List.mem_append]
    exact ⟨fun x => by simp only [or_comm, or_assoc], fun x => by simp only [or_comm, or_assoc]⟩

/-- **A binding uses what its numbered segments select.** The positions it uses are those of the
segments numbered from the cursor it starts at; the names, those of the segments. -/
theorem bindSegments_usage : ∀ {segs : List Segment} {u u' : Usage} {ps : List Piece},
    bindSegments cfg args segs u = .ok (ps, u') →
      (∀ i, i ∈ u'.positions ↔
        i ∈ (Segment.renumberFrom u.cursor segs).flatMap Segment.positions ∨ i ∈ u.positions) ∧
      ∀ n, n ∈ u'.names ↔ n ∈ segs.flatMap Segment.names ∨ n ∈ u.names
  | [], u, u', ps, h => by
    obtain ⟨-, rfl⟩ := Prod.mk.inj (Except.ok.inj h)
    simp [Segment.renumberFrom]
  | seg :: rest, u, u', ps, h => by
    obtain ⟨q, u₁, ps, hq, hps, -⟩ := (bindSegments_cons_eq_ok cfg args).1 h
    obtain ⟨hqp, hqn⟩ := bindSegment_usage cfg args hq
    obtain ⟨hrp, hrn⟩ := bindSegments_usage hps
    rw [(bindSegment_cursor cfg args hq).1] at hrp
    simp only [Segment.renumberFrom, List.flatMap_cons, List.mem_append]
    constructor
    · intro i
      rw [hrp, hqp, or_assoc]
      exact or_left_comm
    · intro n
      rw [hrn, hqn, or_assoc]
      exact or_left_comm

/-- **What a successful binding of a template used.** Exactly the names the template mentions,
and the positions its selectors name together with the first ones, one for each implicit
selector. -/
theorem bindSegments_usage_static {t : Template} {ps : List Piece} {u : Usage}
    (h : bindSegments cfg args t.segments {} = .ok (ps, u)) :
    (∀ n, n ∈ u.names ↔ n ∈ t.argumentNames) ∧
      ∀ i, i ∈ u.positions ↔ i ∈ t.selectedPositions ∨ i < t.implicitCount := by
  obtain ⟨hp, hn⟩ := bindSegments_usage cfg args h
  refine ⟨fun n => ?_, fun i => ?_⟩
  · rw [hn, Template.mem_argumentNames]
    simp
  · rw [hp, mem_renumberFrom_positions]
    simp [Template.selectedPositions, Template.implicitCount]

end Binding

/-! ### The strict call -/

section Strict

variable (cfg : Config) (positional : List Value) (named : List (String × Value))

/-- Binding reads the configuration's count limit only. -/
theorem bindSegments_requireAll (b : Bool) (args : Arguments) : ∀ (segs : List Segment) (u : Usage),
    bindSegments { cfg with requireAll := b } args segs u = bindSegments cfg args segs u
  | [], _ => rfl
  | .literal s :: rest, u => by
    simp only [bindSegments, bindSegments_requireAll b args rest]
  | .placeholder spec o :: rest, u => by
    simp only [bindSegments, bindSegments_requireAll b args rest]

/-- After a successful binding, the positions strict mode reports are those the template leaves
unreferenced. -/
theorem unusedPositions_of_bind {t : Template} {ps : List Piece} {u : Usage}
    (h : bindSegments cfg (.ofValues positional named) t.segments {} = .ok (ps, u)) :
    (Arguments.ofValues positional named).unusedPositions u =
      t.unreferencedPositions positional.length := by
  obtain ⟨-, hp⟩ := bindSegments_usage_static cfg _ h
  simp only [Arguments.unusedPositions, Template.unreferencedPositions, Arguments.ofValues,
    List.length_map]
  refine List.filter_congr fun i _ => ?_
  rw [Bool.eq_iff_iff]
  simp [hp i]

/-- After a successful binding, the names strict mode reports are those the template leaves
unreferenced. -/
theorem unusedNames_of_bind {t : Template} {ps : List Piece} {u : Usage}
    (h : bindSegments cfg (.ofValues positional named) t.segments {} = .ok (ps, u)) :
    (Arguments.ofValues positional named).unusedNames u =
      t.unreferencedNames (named.map Prod.fst) := by
  obtain ⟨hn, -⟩ := bindSegments_usage_static cfg _ h
  have hc : ∀ n, u.names.contains n = t.argumentNames.contains n := fun n => by
    rw [Bool.eq_iff_iff]
    simp [hn n]
  simp only [Arguments.unusedNames, Template.unreferencedNames, Arguments.ofValues, List.map_map,
    hc]
  rfl

/-- **The strict call** is the call without strict mode, except when every placeholder binds and
the template leaves some argument unreferenced: then it reports those arguments, before anything
is rendered. -/
theorem Template.format_strict (t : Template) :
    t.format { cfg with requireAll := true } positional named =
      if (t.bindPieces { cfg with requireAll := false } (.ofValues positional named)).isOk &&
          !((t.unreferencedPositions positional.length).isEmpty &&
            (t.unreferencedNames (named.map Prod.fst)).isEmpty)
      then .error (.format (.unused (t.unreferencedPositions positional.length)
        (t.unreferencedNames (named.map Prod.fst))))
      else t.format { cfg with requireAll := false } positional named := by
  simp only [Template.format, Template.bindPieces_eq, bindSegments_requireAll]
  cases hb : bindSegments cfg (.ofValues positional named) t.segments {} with
  | error e => rfl
  | ok r =>
    obtain ⟨ps, u⟩ := r
    simp only [bind, Except.bind, Bool.true_and, Bool.false_and, Bool.false_eq_true, if_false,
      unusedPositions_of_bind cfg positional named hb, unusedNames_of_bind cfg positional named hb]
    by_cases hc : ((t.unreferencedPositions positional.length).isEmpty &&
        (t.unreferencedNames (named.map Prod.fst)).isEmpty) = true
    · have hc' := Bool.and_eq_true_iff.1 hc
      simp [hc'.1, hc'.2, Except.isOk, Except.toBool]
    · simp only [Bool.not_eq_true, Bool.and_eq_false_iff] at hc
      rcases hc with hc | hc <;> simp [hc, Except.isOk, Except.toBool]

end Strict

/-- **Strict calls report what the template leaves unreferenced.** A call in strict mode behaves
as the call without it, except when every placeholder binds and some argument is unused: it then
reports, with no offset and before anything is rendered, the positions below the number of
arguments that no selector names and that the implicit selectors do not take, ascending, and the
names of the table that the template does not mention, sorted. A template given as text is read
first. This is so because a binding that succeeds uses exactly the names the template mentions,
and the positions its selectors name together with the first ones, one for each implicit
selector. -/
theorem strict_call_reports_unreferenced :
    (∀ (t : Template) (cfg : Config) (positional : List Value) (named : List (String × Value)),
      t.format { cfg with requireAll := true } positional named =
        if (t.bindPieces { cfg with requireAll := false } (.ofValues positional named)).isOk &&
            !((t.unreferencedPositions positional.length).isEmpty &&
              (t.unreferencedNames (named.map Prod.fst)).isEmpty)
        then .error (.format (.unused (t.unreferencedPositions positional.length)
          (t.unreferencedNames (named.map Prod.fst))))
        else t.format { cfg with requireAll := false } positional named) ∧
    (∀ (s : String) (t : Template) (cfg : Config) (positional : List Value)
        (named : List (String × Value)), Template.read s = .ok t →
      formatText s { cfg with requireAll := true } positional named =
        if (t.bindPieces { cfg with requireAll := false } (.ofValues positional named)).isOk &&
            !((t.unreferencedPositions positional.length).isEmpty &&
              (t.unreferencedNames (named.map Prod.fst)).isEmpty)
        then .error (.format (.unused (t.unreferencedPositions positional.length)
          (t.unreferencedNames (named.map Prod.fst))))
        else formatText s { cfg with requireAll := false } positional named) ∧
    (∀ (t : Template) (count : Nat), (t.unreferencedPositions count).Pairwise (· < ·) ∧
      ∀ i, i ∈ t.unreferencedPositions count ↔
        i < count ∧ i ∉ t.selectedPositions ∧ t.implicitCount ≤ i) ∧
    (∀ (t : Template) (keys : List String), (t.unreferencedNames keys).Pairwise (· < ·) ∧
      ∀ n, n ∈ t.unreferencedNames keys ↔ n ∈ keys ∧ n ∉ t.argumentNames) ∧
    (∀ (t : Template) (cfg : Config) (args : Arguments) (ps : List Piece) (u : Usage),
      bindSegments cfg args t.segments {} = .ok (ps, u) →
        (∀ n, n ∈ u.names ↔ n ∈ t.argumentNames) ∧
        ∀ i, i ∈ u.positions ↔ i ∈ t.selectedPositions ∨ i < t.implicitCount) := by
  refine ⟨fun t cfg positional named => Template.format_strict cfg positional named t,
    fun s t cfg positional named hread => ?_, fun t count => ⟨?_, fun i => ?_⟩,
    fun t keys => ?_, fun t cfg args ps u h => bindSegments_usage_static cfg args h⟩
  · simp only [formatText, hread, Except.mapError, bind, Except.bind]
    exact Template.format_strict cfg positional named t
  · exact (List.pairwise_lt_range).filter _
  · simp [Template.unreferencedPositions]
  · obtain ⟨hs, hm⟩ := foldl_insertName (p := fun n => t.argumentNames.contains n) keys
      List.Pairwise.nil
    refine ⟨hs, fun n => ?_⟩
    rw [Template.unreferencedNames, hm]
    simp

/-- `{}` bound to one argument uses position `0`, no name, and nothing else. -/
theorem strict_usage_of_one_implicit :
    bindSegments {} (Arguments.ofValues [.int 1] []) (⟨[.placeholder {} 0]⟩ : Template).segments {} =
        .ok ([.slot {} ((Value.int 1).bind none) none none 0], { cursor := 1, positions := [0] }) ∧
      (∀ n, n ∈ ({ cursor := 1, positions := [0] } : Usage).names ↔
        n ∈ (⟨[.placeholder {} 0]⟩ : Template).argumentNames) ∧
      ∀ i, i ∈ ({ cursor := 1, positions := [0] } : Usage).positions ↔
        i ∈ (⟨[.placeholder {} 0]⟩ : Template).selectedPositions ∨
          i < (⟨[.placeholder {} 0]⟩ : Template).implicitCount := by
  have h : bindSegments {} (Arguments.ofValues [.int 1] []) (⟨[.placeholder {} 0]⟩ : Template).segments
      {} = .ok ([.slot {} ((Value.int 1).bind none) none none 0], { cursor := 1, positions := [0] }) :=
    rfl
  exact ⟨h, strict_call_reports_unreferenced.2.2.2.2 _ _ _ _ _ h⟩

end BraceFormat
