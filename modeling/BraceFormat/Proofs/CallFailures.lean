import BraceFormat.Proofs.FirstFailure
import BraceFormat.Proofs.SpecText
/-!
# How a call on a text can fail

A call on a text fails in one of two ways. The template may not suit the arguments: it does not
read, it names an argument that is not there, a value lacks the capability its conversion needs,
a count is refused, or in strict mode an argument is left over. These are the formatting errors.
Or a value is converted past a limit of the machine: a numeral or an integer longer than
`digitLimit` digits, a fraction beyond the range of binary64 numbers, a count beyond a machine
word, a text beyond the memory, a precision beyond what a layout accepts (`Fault.isLimit`).
Those faults are `ValueError`s, `OverflowError`s and `MemoryError`s, not formatting errors; the
faults met in building a value (a key without a hash, text that is not a number) never arise in a
call, and a text is never refused as a template. A call on a parsed template fails the same ways:
when it is traced, its canonical text is taken first, and that fails only past the digit limit.

The proof follows the call. Each conversion that can fail is shown to fail only past a limit;
binding and rendering run such steps one after another, and inherit the property from them
through `FailsOnly.bind`.

## Main definitions

* `FailsOnly`: every failure of a computation has a given property.
* `Fault.isLimit`: the faults of a conversion past a limit.
* `CallError.isFormatOrLimit`: a formatting error, or a fault past a limit.

## Main results

* `formatText_failsOnly`, `Template.formatCall_failsOnly`: every failure of a call on a text or
  on a parsed template is a formatting error or a fault past a limit.
* `text_call_fails_with_format_error_or_limit`: the same for both calls, with the classes of the
  faults.
* `formatText_long_index`: a placeholder whose index has more than `digitLimit` digits fails with
  a fault, not a formatting error.
-/

namespace BraceFormat

/-! ### Failures of a computation -/

/-- Every failure of `r` has the property `P`. -/
def FailsOnly {ε α : Type} (P : ε → Prop) (r : Except ε α) : Prop :=
  ∀ e, r = .error e → P e

namespace FailsOnly

variable {ε ε' α β : Type} {P : ε → Prop}

@[simp]
theorem of_ok (a : α) : FailsOnly P (.ok a : Except ε α) := by
  intro e h
  cases h

theorem of_error {e : ε} (h : P e) : FailsOnly P (.error e : Except ε α) := by
  intro e' he
  cases he
  exact h

@[simp]
theorem error_iff {e : ε} : FailsOnly P (.error e : Except ε α) ↔ P e :=
  ⟨fun h => h e rfl, of_error⟩

/-- A computation run after another fails only as they do. -/
theorem bind {x : Except ε α} {k : α → Except ε β} (hx : FailsOnly P x)
    (hk : ∀ a, x = .ok a → FailsOnly P (k a)) : FailsOnly P (x >>= k) := by
  cases x with
  | error e => exact of_error (hx e rfl)
  | ok a => exact hk a rfl

theorem map {x : Except ε α} (f : α → β) (hx : FailsOnly P x) : FailsOnly P (f <$> x) := by
  cases x with
  | error e => exact of_error (hx e rfl)
  | ok a => exact of_ok _

/-- A computation run on each element of a list in turn fails only as they do. -/
theorem mapM {f : α → Except ε β} {xs : List α} (h : ∀ x ∈ xs, FailsOnly P (f x)) :
    FailsOnly P (xs.mapM f) := by
  induction xs with
  | nil => exact of_ok _
  | cons x xs ih =>
    rw [List.mapM_cons]
    exact bind (h x List.mem_cons_self) fun _ _ =>
      bind (ih fun y hy => h y (List.mem_cons_of_mem _ hy)) fun _ _ => of_ok _

@[simp]
theorem mapError_iff {x : Except ε' α} {g : ε' → ε} :
    FailsOnly P (x.mapError g) ↔ FailsOnly (fun e => P (g e)) x := by
  cases x with
  | error e => exact ⟨fun h => of_error (h (g e) rfl), fun h => of_error (h e rfl)⟩
  | ok a => exact iff_of_true (of_ok a) (of_ok a)

end FailsOnly

/-! ### Faults past a limit -/

namespace Fault

/-- The faults of converting a value past a limit: a numeral or an integer beyond the digit
limit, a quotient beyond the binary64 range, a count beyond a machine word, a text beyond the
memory, a precision beyond what a layout accepts. -/
def isLimit : Fault → Bool
  | numeralTooLong _ | integerTooLong | quotientOverflow | indexOverflow | outOfMemory
  | precisionTooBig | longPrecision | decimalLimits => true
  | _ => false

/-- A fault past a limit is a `ValueError`, an `OverflowError` or a `MemoryError`. -/
theorem kind_of_isLimit {f : Fault} (h : f.isLimit = true) :
    f.kind = "ValueError" ∨ f.kind = "OverflowError" ∨ f.kind = "MemoryError" := by
  cases f <;> simp_all [isLimit, kind]

theorem ofRun?_isLimit {n : Nat} : ∀ f ∈ ofRun? n, f.isLimit = true := by
  intro f hf
  unfold ofRun? at hf
  split_ifs at hf <;> cases hf <;> rfl

end Fault

theorem Decimal.plainFault?_isLimit {c : Nat} {x : Int} :
    ∀ f ∈ Decimal.plainFault? c x, f.isLimit = true := by
  intro f hf
  unfold Decimal.plainFault? at hf
  split_ifs at hf
  · cases hf
    rfl
  · cases hf

theorem Decimal.fixedFault?_isLimit {c : Nat} {x : Int} {p : Nat} :
    ∀ f ∈ Decimal.fixedFault? c x p, f.isLimit = true := by
  intro f hf
  unfold Decimal.fixedFault? at hf
  by_cases hp : indexLimit ≤ p
  · rw [if_pos hp] at hf
    exact Fault.ofRun?_isLimit f hf
  rw [if_neg hp] at hf
  split_ifs at hf <;> cases hf <;> rfl

theorem Decimal.scientificFault?_isLimit {c : Nat} {p : Option Nat} :
    ∀ f ∈ Decimal.scientificFault? c p, f.isLimit = true := by
  intro f hf
  unfold Decimal.scientificFault? at hf
  split at hf
  · cases hf
  by_cases hc : c = 0
  · rw [if_pos hc] at hf
    exact Fault.ofRun?_isLimit f hf
  rw [if_neg hc] at hf
  rename_i p
  by_cases hp : indexLimit ≤ p
  · rw [if_pos hp] at hf
    exact Fault.ofRun?_isLimit f hf
  rw [if_neg hp] at hf
  split_ifs at hf <;> cases hf <;> rfl

theorem Binary64.fixedFault?_isLimit {c : Nat} {k : Int} {p : Nat} :
    ∀ f ∈ Binary64.fixedFault? c k p, f.isLimit = true := by
  intro f hf
  unfold Binary64.fixedFault? at hf
  split_ifs at hf <;> cases hf <;> rfl

theorem Rendered.padFault?_isLimit {r : Rendered} {w : Option Nat} {a : Option Align} {z : Bool} :
    ∀ f ∈ r.padFault? w a z, f.isLimit = true := by
  intro f hf
  unfold Rendered.padFault? at hf
  split at hf
  · cases hf
  rename_i w
  dsimp only at hf
  by_cases hw : w ≤ r.text.length
  · rw [if_pos hw] at hf
    cases hf
  rw [if_neg hw] at hf
  by_cases hz : (z && r.numeric && r.finite) = true
  · rw [if_pos hz] at hf
    exact Fault.ofRun?_isLimit f hf
  rw [if_neg hz] at hf
  split at hf
  · split at hf
    · cases hf
      exact Fault.ofRun?_isLimit _ ‹_›
    · exact Fault.ofRun?_isLimit f hf
  all_goals exact Fault.ofRun?_isLimit f hf

/-! ### Conversions fail only past a limit -/

theorem Integer.write_failsOnly (i : Int) : FailsOnly (·.isLimit = true) (Integer.write i) := by
  unfold Integer.write
  -- the test is left unevaluated: evaluating it would compute `10 ^ digitLimit`
  cases Integer.writable i
  · exact FailsOnly.of_error rfl
  · exact FailsOnly.of_ok _

/-! ### Canonical texts fail only past the digit limit -/

theorem Selector.text_failsOnly (a : Selector) : FailsOnly (·.isLimit = true) a.text := by
  cases a with
  | index i => exact Integer.write_failsOnly i
  | _ => exact FailsOnly.of_ok _

theorem Count.text_failsOnly (c : Count) : FailsOnly (·.isLimit = true) c.text := by
  cases c with
  | literal n => exact Integer.write_failsOnly n
  | given a =>
    cases a with
    | next => exact FailsOnly.of_ok _
    | _ => exact FailsOnly.map _ (Selector.text_failsOnly _)

theorem Count.optionText_failsOnly (lead : String) (o : Option Count) :
    FailsOnly (·.isLimit = true) (Count.optionText lead o) := by
  cases o with
  | some c => exact FailsOnly.map _ c.text_failsOnly
  | none => exact FailsOnly.of_ok _

theorem Spec.directives_failsOnly (s : Spec) : FailsOnly (·.isLimit = true) s.directives :=
  FailsOnly.bind (Count.optionText_failsOnly _ _) fun _ _ =>
    FailsOnly.bind (Count.optionText_failsOnly _ _) fun _ _ => FailsOnly.of_ok _

theorem Spec.placeholder_failsOnly (s : Spec) : FailsOnly (·.isLimit = true) s.placeholder :=
  FailsOnly.bind s.directives_failsOnly fun _ _ =>
    FailsOnly.bind s.value.text_failsOnly fun _ _ => FailsOnly.of_ok _

/-- **A canonical text fails only past the digit limit.** -/
theorem Template.text_failsOnly (t : Template) : FailsOnly (·.isLimit = true) t.text := by
  refine FailsOnly.bind (FailsOnly.mapM fun seg _ => ?_) fun _ _ => FailsOnly.of_ok _
  cases seg with
  | literal s => exact FailsOnly.of_ok _
  | placeholder s o => exact s.placeholder_failsOnly

namespace Rendered

theorem checked_failsOnly {fault? : Option Fault} (h : ∀ f ∈ fault?, f.isLimit = true)
    (body : Unit → String) : FailsOnly (·.isLimit = true) (checked fault? body) := by
  unfold checked
  split
  · exact FailsOnly.of_error (h _ rfl)
  · exact FailsOnly.of_ok _

theorem scientific_failsOnly (c : Nat) (x : Int) (p : Option Nat) (m : String) :
    FailsOnly (·.isLimit = true) (scientific c x p m) :=
  checked_failsOnly Decimal.scientificFault?_isLimit _

theorem ofInt_failsOnly (n : Int) (spec : Spec) (p : Option Nat) :
    FailsOnly (·.isLimit = true) (ofInt n spec p) := by
  unfold ofInt
  dsimp only
  split
  · exact FailsOnly.of_ok _
  · exact FailsOnly.of_ok _
  · exact FailsOnly.of_ok _
  · exact FailsOnly.of_ok _
  · exact FailsOnly.map _ (scientific_failsOnly _ _ _ _)
  · exact FailsOnly.map _ (scientific_failsOnly _ _ _ _)
  · exact FailsOnly.map _ (Integer.write_failsOnly _)

theorem ofDecimal_failsOnly (d : Decimal) (spec : Spec) (p : Option Nat) :
    FailsOnly (·.isLimit = true) (ofDecimal d spec p) := by
  unfold ofDecimal
  split
  · refine FailsOnly.map _ ?_
    split
    · exact scientific_failsOnly _ _ _ _
    · exact checked_failsOnly Decimal.plainFault?_isLimit _
    · exact checked_failsOnly Decimal.fixedFault?_isLimit _
  · exact FailsOnly.of_ok _
  · exact FailsOnly.of_ok _

theorem ofBinary64_failsOnly (x : Binary64) (spec : Spec) (p : Option Nat) :
    FailsOnly (·.isLimit = true) (ofBinary64 x spec p) := by
  unfold ofBinary64
  split
  · refine FailsOnly.map _ ?_
    split
    · dsimp only
      split <;> exact FailsOnly.of_ok _
    · split
      · split
        · exact scientific_failsOnly _ _ _ _
        · exact checked_failsOnly Binary64.fixedFault?_isLimit _
      · exact FailsOnly.of_ok _
  · exact FailsOnly.of_ok _
  · exact FailsOnly.of_ok _

end Rendered

theorem Value.writeWith_failsOnly (f : Value → String) (v : Value) :
    FailsOnly (·.isLimit = true) (v.writeWith f) := by
  unfold Value.writeWith
  split
  · exact FailsOnly.of_ok _
  · exact FailsOnly.of_error rfl

theorem Fraction.toBinary64_failsOnly (q : Fraction) :
    FailsOnly (·.isLimit = true) q.toBinary64 := by
  unfold Fraction.toBinary64
  split
  · exact FailsOnly.of_error rfl
  · exact FailsOnly.of_ok _

/-- Taking the number of a value fails only for a fraction beyond the binary64 range. -/
theorem Value.number_failsOnly (v : Value) : FailsOnly (·.isLimit = true) v.number := by
  cases v with
  | fraction q => exact FailsOnly.map _ q.toBinary64_failsOnly
  | object o n =>
    simp only [Value.number]
    split
    · exact FailsOnly.of_ok _
    · split <;> exact FailsOnly.of_ok _
  | _ => exact FailsOnly.of_ok _

namespace Bound

theorem count?_failsOnly (b : Bound) : FailsOnly (·.isLimit = true) b.count? :=
  FailsOnly.bind b.raw.number_failsOnly fun _ _ => by
    split <;> exact FailsOnly.of_ok _

theorem echo_failsOnly (o : ObjectInfo) (spec : Spec) :
    FailsOnly (·.isLimit = true) (echo o spec) := by
  unfold echo
  split
  · exact FailsOnly.map _ spec.placeholder_failsOnly
  · exact FailsOnly.of_ok _

theorem displayText_failsOnly (b : Bound) (spec : Spec) :
    FailsOnly (·.isLimit = true) (b.displayText spec) := by
  unfold displayText
  split
  · exact FailsOnly.map _ (echo_failsOnly _ spec)
  · exact Value.writeWith_failsOnly _ _

theorem debugText_failsOnly (b : Bound) (spec : Spec) :
    FailsOnly (·.isLimit = true) (b.debugText spec) := by
  unfold debugText
  split
  · exact FailsOnly.map _ (echo_failsOnly _ spec)
  all_goals exact Value.writeWith_failsOnly _ _

end Bound

/-! ### A call fails with a formatting error or a fault past a limit -/

namespace CallError

/-- A failure of a call on a text: a formatting error, or a fault past a limit. -/
def isFormatOrLimit : CallError → Bool
  | format _ => true
  | fault f => f.isLimit
  | notText _ => false

theorem failsOnly_mapError_fault {α : Type} {x : Except Fault α}
    (h : FailsOnly (·.isLimit = true) x) :
    FailsOnly (·.isFormatOrLimit = true) (x.mapError CallError.fault) :=
  FailsOnly.mapError_iff.2 h

/-- A refused count is a formatting error, or a fault when its value cannot be written. -/
theorem refusedCount_isFormatOrLimit (src : Option Selector) (v : Value) (f : CountFault)
    (o : Nat) : (refusedCount src v f o).isFormatOrLimit = true := by
  unfold refusedCount
  split <;> rfl

end CallError

theorem ReadError.toCallError_isFormatOrLimit (r : ReadError) :
    r.toCallError.isFormatOrLimit = true := by
  cases r with
  | malformed e o =>
    simp only [ReadError.toCallError, SyntaxError.toCallError]
    split <;> rfl
  | _ => rfl

theorem Bound.render_failsOnly (b : Bound) (spec : Spec) (p : Option Nat) (o : Nat) :
    FailsOnly (·.isFormatOrLimit = true) (b.render spec p o) := by
  unfold Bound.render
  dsimp only
  split
  · split
    · exact FailsOnly.map _ (CallError.failsOnly_mapError_fault (b.displayText_failsOnly spec))
    split
    · exact FailsOnly.map _ (CallError.failsOnly_mapError_fault (b.debugText_failsOnly spec))
    refine FailsOnly.bind (CallError.failsOnly_mapError_fault b.raw.number_failsOnly) ?_
    intro n? _
    split
    · exact CallError.failsOnly_mapError_fault (Rendered.ofInt_failsOnly _ _ _)
    · split
      · exact FailsOnly.of_error rfl
      · exact CallError.failsOnly_mapError_fault (Rendered.ofBinary64_failsOnly _ _ _)
    · split
      · exact FailsOnly.of_error rfl
      · exact CallError.failsOnly_mapError_fault (Rendered.ofDecimal_failsOnly _ _ _)
    · exact FailsOnly.of_error rfl
  · exact FailsOnly.of_error rfl

theorem Piece.render_failsOnly (q : Piece) : FailsOnly (·.isFormatOrLimit = true) q.render := by
  cases q with
  | literal s => exact FailsOnly.of_ok _
  | slot spec b w p o =>
    refine FailsOnly.bind (b.render_failsOnly spec p o) fun r _ => ?_
    split
    · exact FailsOnly.of_error (Rendered.padFault?_isLimit _ ‹_›)
    · exact FailsOnly.of_ok _

theorem renderPieces_failsOnly (ps : List Piece) :
    FailsOnly (·.isFormatOrLimit = true) (renderPieces ps) := by
  induction ps with
  | nil => exact FailsOnly.of_ok _
  | cons q ps ih =>
    exact FailsOnly.bind q.render_failsOnly fun _ _ =>
      FailsOnly.bind ih fun _ _ => FailsOnly.of_ok _

namespace Arguments

variable (args : Arguments)

/-- Resolving a selector fails only with a formatting error. -/
theorem resolve_failsOnly (u : Usage) (s : Selector) (o : Nat) :
    FailsOnly (·.isFormatOrLimit = true) (args.resolve u s o) := by
  unfold resolve
  split <;> split
  all_goals first
    | exact FailsOnly.of_ok _
    | exact FailsOnly.of_error rfl

theorem resolveCount_failsOnly (limit : Option Nat) (u : Usage) (c : Option Count) (o : Nat) :
    FailsOnly (·.isFormatOrLimit = true) (args.resolveCount limit u c o) := by
  unfold resolveCount
  dsimp only
  split
  · exact FailsOnly.of_ok _
  · split
    · split
      · exact FailsOnly.of_error (CallError.refusedCount_isFormatOrLimit _ _ _ _)
      · exact FailsOnly.of_ok _
    · exact FailsOnly.of_ok _
  · refine FailsOnly.bind (args.resolve_failsOnly u _ o) fun _ _ => ?_
    refine FailsOnly.bind (CallError.failsOnly_mapError_fault (Bound.count?_failsOnly _))
      fun _ _ => ?_
    split
    · split
      · split
        · exact FailsOnly.of_error (CallError.refusedCount_isFormatOrLimit _ _ _ _)
        · exact FailsOnly.of_ok _
      · exact FailsOnly.of_ok _
    · exact FailsOnly.of_error (CallError.refusedCount_isFormatOrLimit _ _ _ _)

end Arguments

section Binding

variable (cfg : Config) (args : Arguments)

theorem bindSlot_failsOnly (spec : Spec) (o : Nat) (u : Usage) :
    FailsOnly (·.isFormatOrLimit = true) (bindSlot cfg args spec o u) := by
  refine FailsOnly.bind (args.resolveCount_failsOnly _ u _ o) fun (_, u₁) _ => ?_
  refine FailsOnly.bind (args.resolveCount_failsOnly _ u₁ _ o) fun (_, u₂) _ => ?_
  refine FailsOnly.bind (args.resolve_failsOnly u₂ _ o) fun _ _ => ?_
  dsimp only
  split
  · exact FailsOnly.of_ok _
  · exact FailsOnly.of_error rfl

theorem bindSegments_failsOnly (segs : List Segment) (u : Usage) :
    FailsOnly (·.isFormatOrLimit = true) (bindSegments cfg args segs u) := by
  induction segs generalizing u with
  | nil => exact FailsOnly.of_ok _
  | cons seg rest ih =>
    rw [bindSegments_cons]
    have hseg : FailsOnly (·.isFormatOrLimit = true) (bindSegment cfg args seg u) := by
      cases seg with
      | literal s => exact FailsOnly.of_ok _
      | placeholder spec o => exact bindSlot_failsOnly cfg args spec o u
    exact FailsOnly.bind hseg fun (_, u₁) _ =>
      FailsOnly.bind (ih u₁) fun _ _ => FailsOnly.of_ok _

theorem Template.bindPieces_failsOnly (t : Template) :
    FailsOnly (·.isFormatOrLimit = true) (t.bindPieces cfg args) := by
  rw [Template.bindPieces_eq]
  refine FailsOnly.bind (bindSegments_failsOnly cfg args _ _) fun (ps, u) _ => ?_
  dsimp only
  split
  · exact FailsOnly.of_error rfl
  · exact FailsOnly.of_ok _

end Binding

theorem Template.format_failsOnly (t : Template) (cfg : Config) (positional : List Value)
    (named : List (String × Value)) :
    FailsOnly (·.isFormatOrLimit = true) (t.format cfg positional named) :=
  FailsOnly.bind (Template.bindPieces_failsOnly cfg _ t) fun ps _ => renderPieces_failsOnly ps

/-- **A call on a parsed template fails with a formatting error or a fault past a limit**, its
canonical text, taken first when the call is traced, included. -/
theorem Template.formatCall_failsOnly (t : Template) (cfg : Config) (positional : List Value)
    (named : List (String × Value)) :
    FailsOnly (·.isFormatOrLimit = true) (t.formatCall cfg positional named) := by
  unfold Template.formatCall
  split
  · exact FailsOnly.of_error (t.text_failsOnly _ ‹_›)
  · exact t.format_failsOnly cfg positional named

/-- **A call on a text fails with a formatting error or a fault past a limit.** -/
theorem formatText_failsOnly (s : String) (cfg : Config) (positional : List Value)
    (named : List (String × Value)) :
    FailsOnly (·.isFormatOrLimit = true) (formatText s cfg positional named) := by
  unfold formatText
  refine FailsOnly.bind ?_ fun t _ => t.format_failsOnly cfg positional named
  rw [FailsOnly.mapError_iff]
  cases Template.read s with
  | error r => exact FailsOnly.of_error r.toCallError_isFormatOrLimit
  | ok t => exact FailsOnly.of_ok _

/-! ### An index past the digit limit -/

/-- **An index longer than the digit limit is a fault, not a formatting error.** The placeholder
made of a run of more than `digitLimit` digits does not read: its index is a numeral too long to
convert, whatever the settings and the arguments. -/
theorem formatText_long_index {ds : List Char} (hds : ∀ d ∈ ds, d.isDigit = true)
    (hlong : digitLimit < ds.length) (cfg : Config) (positional : List Value)
    (named : List (String × Value)) :
    formatText (String.ofList ('\x7b' :: (ds ++ ['\x7d']))) cfg positional named =
      .error (.fault (.numeralTooLong ds.length)) := by
  have hbody : Spec.readBody ds = .error (.longNumber ds.length, ds) := by
    have h := @Spec.readArgument_long ds hds hlong [] (by simp)
    rw [List.append_nil] at h
    rw [Spec.readBody, h]
    rfl
  have hparse : Spec.parseBody (String.ofList ds) =
      .error ⟨.longNumber ds.length, String.ofList ds, 0⟩ := by
    rw [Spec.parseBody, String.toList_ofList, hbody, Spec.locate, String.length_ofList,
      Nat.sub_self]
  have hopen : ∀ r, ds ≠ '\x7b' :: r := by
    rintro r rfl
    exact absurd (hds _ List.mem_cons_self) (by decide)
  have hclose : '\x7d' ∉ ds := fun h => absurd (hds _ h) (by decide)
  have hread : Template.read (String.ofList ('\x7b' :: (ds ++ ['\x7d']))) =
      .error (.malformed ⟨.longNumber ds.length, String.ofList ds, 0⟩ 0) := by
    rw [Template.read, String.toList_ofList,
      (@Template.Stuck.malformed 0 ds [] _ hopen hclose hparse).scan_eq]
    rfl
  rw [formatText_of_read_error hread]
  rfl

/-- **A call on a text or a parsed template fails with a formatting error or a fault past a
limit**, never by refusing the template; and a fault past a limit is a `ValueError`, an
`OverflowError` or a `MemoryError`. -/
theorem text_call_fails_with_format_error_or_limit (cfg : Config) (positional : List Value)
    (named : List (String × Value)) (e : CallError)
    (h : (∃ s, formatValue (.text s) cfg positional named = .error e) ∨
      ∃ t : Template, t.formatCall cfg positional named = .error e) :
    (∃ fe, e = .format fe) ∨ ∃ f, e = .fault f ∧ f.isLimit = true ∧
      (f.kind = "ValueError" ∨ f.kind = "OverflowError" ∨ f.kind = "MemoryError") := by
  have he : e.isFormatOrLimit = true := by
    rcases h with ⟨s, h⟩ | ⟨t, h⟩
    · exact formatText_failsOnly s cfg positional named e h
    · exact t.formatCall_failsOnly cfg positional named e h
  cases e with
  | format fe => exact .inl ⟨fe, rfl⟩
  | fault f => exact .inr ⟨f, rfl, he, Fault.kind_of_isLimit he⟩
  | notText n => cases he

/-- The call on `{11…1}`, an index of 4301 ones. -/
theorem formatValue_index_of_4301_ones :
    formatValue (.text (String.ofList ('\x7b' :: (List.replicate 4301 '1' ++ ['\x7d'])))) {}
      [] [] = .error (.fault (.numeralTooLong 4301)) := by
  have hds : ∀ d ∈ List.replicate 4301 '1', d.isDigit = true := by
    intro d hd
    rw [List.eq_of_mem_replicate hd]
    rfl
  have hlong : digitLimit < (List.replicate 4301 '1').length := by
    rw [List.length_replicate]
    decide
  have h := formatText_long_index hds hlong {} [] []
  rwa [List.length_replicate] at h

/-- The call on an index of 4301 ones fails with a fault past the digit limit, which the theorem
above places among the failures of a call on a text. -/
theorem index_of_4301_ones_is_limit_fault :
    formatValue (.text (String.ofList ('\x7b' :: (List.replicate 4301 '1' ++ ['\x7d'])))) {}
        [] [] = .error (.fault (.numeralTooLong 4301)) ∧
      ((∃ fe, CallError.fault (.numeralTooLong 4301) = .format fe) ∨
        ∃ f, CallError.fault (.numeralTooLong 4301) = .fault f ∧ f.isLimit = true ∧
          (f.kind = "ValueError" ∨ f.kind = "OverflowError" ∨ f.kind = "MemoryError")) :=
  ⟨formatValue_index_of_4301_ones,
    text_call_fails_with_format_error_or_limit _ _ _ _ (.inl ⟨_, formatValue_index_of_4301_ones⟩)⟩

/-- **A placeholder index of 4301 digits fails with a `ValueError`, not a formatting error.** -/
theorem index_of_4301_digits_is_value_error :
    formatValue (.text (String.ofList ('\x7b' :: (List.replicate 4301 '1' ++ ['\x7d'])))) {}
        [] [] = .error (.fault (.numeralTooLong 4301)) ∧
      (Fault.numeralTooLong 4301).kind = "ValueError" :=
  ⟨formatValue_index_of_4301_ones, rfl⟩

end BraceFormat
