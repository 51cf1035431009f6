import BraceFormat.Spec.Parser
import Mathlib
/-!
# Decimal numerals read back

The canonical text of a position or a literal count is its decimal numeral (`Numeral.decimal`),
and the reader takes a run of ASCII digits and folds it into a number (`Spec.digitsValue`). This
module shows the two agree: a numeral is made of ASCII digits, reads back as its number, starts
with `0` only when it is zero, and has at most `k` digits exactly when the number is below
`10 ^ k`, which is how the digit limit of the reader translates into a bound on numbers.

The numeral is built from the digits least significant first (`Numeral.lowDigits`), reversed;
every proof here is a strong induction along that recursion, peeling the last digit `n % 10`.

## Main results

* `Numeral.isDigit_of_mem_chars`: a decimal numeral is made of ASCII digits.
* `Numeral.digitsValue_chars`: it reads back as its number.
* `Numeral.head_chars_ne_zero`: only zero is written with a leading `0`.
* `Numeral.length_chars_le_iff`: at most `k` digits exactly below `10 ^ k`.
* `Spec.digitsValue_lt`, `Spec.eq_zero_of_digitsValue`: a run of `k` digits is below `10 ^ k`,
  and it stands for zero only when it starts with `0`.
-/

namespace BraceFormat.Numeral

/-- A digit below ten is an ASCII digit whose value is the digit. -/
theorem digitChar_decimal : ∀ d < 10,
    (digitChar false d).isDigit = true ∧ (digitChar false d).toNat - 48 = d := by
  decide

theorem digitChar_ne_zero : ∀ d < 10, 0 < d → digitChar false d ≠ '0' := by
  decide

theorem lowDigits_ten_succ {n : Nat} (hn : 0 < n) :
    lowDigits 10 n = n % 10 :: lowDigits 10 (n / 10) :=
  lowDigits_of_pos (by omega) hn

theorem lt_ten_of_mem_lowDigits : ∀ {n d : Nat}, d ∈ lowDigits 10 n → d < 10
  | n, d, h => by
    rcases Nat.eq_zero_or_pos n with rfl | hn
    · simp at h
    · rw [lowDigits_ten_succ hn, List.mem_cons] at h
      rcases h with rfl | h
      · exact Nat.mod_lt _ (by omega)
      · have : n / 10 < n := Nat.div_lt_self hn (by omega)
        exact lt_ten_of_mem_lowDigits h

/-- The digits of a positive number, most significant first: those of `n / 10`, then `n % 10`. -/
theorem chars_of_pos {n : Nat} (hn : 0 < n) :
    chars 10 false n = (lowDigits 10 n).reverse.map (digitChar false) := by
  simp [chars, Nat.pos_iff_ne_zero.1 hn]

theorem chars_ne_nil (n : Nat) : chars 10 false n ≠ [] := by
  rcases Nat.eq_zero_or_pos n with rfl | hn
  · simp [chars]
  · simp [chars_of_pos hn, lowDigits_ten_succ hn]

theorem map_lowDigits_succ {n : Nat} (hn : 0 < n) :
    (lowDigits 10 n).reverse.map (digitChar false) =
      (lowDigits 10 (n / 10)).reverse.map (digitChar false) ++ [digitChar false (n % 10)] := by
  rw [lowDigits_ten_succ hn]
  simp

/-- Every character of a decimal numeral is an ASCII digit. -/
theorem isDigit_of_mem_chars {n : Nat} {c : Char} (h : c ∈ chars 10 false n) :
    c.isDigit = true := by
  rcases Nat.eq_zero_or_pos n with rfl | hn
  · simp only [chars, if_true, List.mem_singleton] at h
    subst h
    decide
  · rw [chars_of_pos hn, List.mem_map] at h
    obtain ⟨d, hd, rfl⟩ := h
    exact (digitChar_decimal d (lt_ten_of_mem_lowDigits (List.mem_reverse.1 hd))).1

theorem digitsValue_append_digit (ds : List Char) (c : Char) :
    Spec.digitsValue (ds ++ [c]) = Spec.digitsValue ds * 10 + (c.toNat - 48) := by
  simp [Spec.digitsValue, List.foldl_append]

/-- The digits of `n`, without the special case of zero, read back as `n`. -/
theorem digitsValue_lowDigits : ∀ n : Nat,
    Spec.digitsValue ((lowDigits 10 n).reverse.map (digitChar false)) = n
  | n => by
    rcases Nat.eq_zero_or_pos n with rfl | hn
    · simp [Spec.digitsValue]
    · have : n / 10 < n := Nat.div_lt_self hn (by omega)
      have hlast := (digitChar_decimal (n % 10) (Nat.mod_lt _ (by omega))).2
      rw [map_lowDigits_succ hn, digitsValue_append_digit, digitsValue_lowDigits (n / 10), hlast]
      omega

/-- **A decimal numeral reads back as its number.** -/
theorem digitsValue_chars (n : Nat) : Spec.digitsValue (chars 10 false n) = n := by
  rcases Nat.eq_zero_or_pos n with rfl | hn
  · decide
  · rw [chars_of_pos hn, digitsValue_lowDigits]

/-- The leading digit of a positive number is not `0`. -/
theorem head_lowDigits_ne_zero : ∀ {n : Nat}, 0 < n →
    ∀ c ∈ ((lowDigits 10 n).reverse.map (digitChar false)).head?, c ≠ '0'
  | n, hn, c, hc => by
    rw [map_lowDigits_succ hn] at hc
    rcases Nat.eq_zero_or_pos (n / 10) with h0 | hpos
    · have hlt : n < 10 := by omega
      rw [h0] at hc
      simp only [lowDigits_zero, List.reverse_nil, List.map_nil, List.nil_append,
        List.head?_cons, Option.mem_def, Option.some.injEq] at hc
      subst hc
      rw [Nat.mod_eq_of_lt hlt]
      exact digitChar_ne_zero n hlt hn
    · have : n / 10 < n := Nat.div_lt_self hn (by omega)
      cases hhigh : (lowDigits 10 (n / 10)).reverse.map (digitChar false) with
      | nil => simp [lowDigits_ten_succ hpos] at hhigh
      | cons y ys =>
        rw [hhigh, List.cons_append, List.head?_cons, Option.mem_def, Option.some.injEq] at hc
        subst hc
        have hy : y ∈ ((lowDigits 10 (n / 10)).reverse.map (digitChar false)).head? := by
          rw [hhigh]; rfl
        exact head_lowDigits_ne_zero hpos y hy

/-- Only zero is written with a leading `0`. -/
theorem head_chars_ne_zero {n : Nat} (hn : 0 < n) : ∀ c ∈ (chars 10 false n).head?, c ≠ '0' := by
  rw [chars_of_pos hn]
  exact head_lowDigits_ne_zero hn

theorem length_lowDigits_le_iff : ∀ {n k : Nat}, (lowDigits 10 n).length ≤ k ↔ n < 10 ^ k
  | n, 0 => by
    rcases Nat.eq_zero_or_pos n with rfl | hn
    · simp
    · simp [lowDigits_ten_succ hn]
      omega
  | n, k + 1 => by
    rcases Nat.eq_zero_or_pos n with rfl | hn
    · simp
    · rw [lowDigits_ten_succ hn, List.length_cons, Nat.add_le_add_iff_right,
        length_lowDigits_le_iff, Nat.div_lt_iff_lt_mul (by omega), Nat.pow_succ]

/-- **The digit limit as a bound.** A numeral has at most `k ≥ 1` digits exactly when its number
is below `10 ^ k`. -/
theorem length_chars_le_iff {n k : Nat} (hk : 0 < k) :
    (chars 10 false n).length ≤ k ↔ n < 10 ^ k := by
  rcases Nat.eq_zero_or_pos n with rfl | hn
  · simp [chars, Nat.one_le_iff_ne_zero.2 (Nat.pos_iff_ne_zero.1 hk)]
  · rw [chars_of_pos hn, List.length_map, List.length_reverse, length_lowDigits_le_iff]

/-- The numeral of `10 ^ k` has `k + 1` digits. -/
theorem length_chars_ten_pow (k : Nat) :
    (chars 10 false (10 ^ k)).length = k + 1 := by
  have hle : (chars 10 false (10 ^ k)).length ≤ k + 1 :=
    (length_chars_le_iff (Nat.succ_pos k)).2 (Nat.pow_lt_pow_right (by decide) (Nat.lt_succ_self k))
  rcases Nat.eq_zero_or_pos k with rfl | hk
  · simp [chars, lowDigits_ten_succ]
  · have hgt : ¬(chars 10 false (10 ^ k)).length ≤ k := fun h =>
      Nat.lt_irrefl _ ((length_chars_le_iff hk).1 h)
    omega

theorem toList_decimal (n : Nat) : (decimal n).toList = chars 10 false n := by
  simp [decimal, write]

end BraceFormat.Numeral

namespace BraceFormat.Integer

/-- The writing bound on a natural number, as a power. The exponent is left open so that the
bound at `digitLimit` is never evaluated. -/
theorem natAbs_natCast_lt_pow {n k : Nat} : (n : Int).natAbs < Nat.pow 10 k ↔ n < 10 ^ k := by
  rw [Int.natAbs_natCast, Nat.pow_eq]

/-- A natural number below `10 ^ digitLimit` is written as its decimal numeral. -/
theorem write_natCast {n : Nat} (h : n < 10 ^ digitLimit) :
    write n = .ok (Numeral.decimal n) := by
  rw [write_of_writable (decide_eq_true (natAbs_natCast_lt_pow.2 h))]
  simp [Numeral.signed]

/-- From `10 ^ digitLimit` on, writing a natural number is refused. -/
theorem write_natCast_of_le {n : Nat} (h : 10 ^ digitLimit ≤ n) :
    write n = .error .integerTooLong := by
  have hw : writable n = false := decide_eq_false (mt natAbs_natCast_lt_pow.1 (Nat.not_lt.2 h))
  simp [write, hw]

end BraceFormat.Integer

namespace BraceFormat.Spec

/-! ### The value of a digit run -/

/-- Folding digits into an accumulator stays below the accumulator's successor scaled by the
digits. -/
theorem foldl_digits_lt {ds : List Char} (hds : ∀ d ∈ ds, d.isDigit = true) (acc : Nat) :
    ds.foldl (fun acc d => acc * 10 + (d.toNat - 48)) acc < (acc + 1) * 10 ^ ds.length := by
  induction ds generalizing acc with
  | nil => simp
  | cons d ds ih =>
    have hd : d.toNat ≤ 57 := (Char.isDigit_iff_toNat.1 (hds d List.mem_cons_self)).2
    have hrest := ih (fun x hx => hds x (List.mem_cons_of_mem d hx)) (acc * 10 + (d.toNat - 48))
    have hstep : acc * 10 + (d.toNat - 48) + 1 ≤ (acc + 1) * 10 := by omega
    calc ds.foldl (fun acc d => acc * 10 + (d.toNat - 48)) (acc * 10 + (d.toNat - 48))
        < (acc * 10 + (d.toNat - 48) + 1) * 10 ^ ds.length := hrest
      _ ≤ (acc + 1) * 10 * 10 ^ ds.length := Nat.mul_le_mul_right _ hstep
      _ = (acc + 1) * 10 ^ (d :: ds).length := by
        rw [List.length_cons, Nat.pow_succ, Nat.mul_assoc, Nat.mul_comm 10]

/-- A run of `k` digits stands for a number below `10 ^ k`. -/
theorem digitsValue_lt {ds : List Char} (hds : ∀ d ∈ ds, d.isDigit = true) :
    digitsValue ds < 10 ^ ds.length := by
  have h := foldl_digits_lt hds 0
  rw [Nat.zero_add, Nat.one_mul] at h
  exact h

/-- Folding digits never lowers the accumulator. -/
theorem le_foldl_digits (ds : List Char) (acc : Nat) :
    acc ≤ ds.foldl (fun acc d => acc * 10 + (d.toNat - 48)) acc := by
  induction ds generalizing acc with
  | nil => exact Nat.le_refl acc
  | cons d ds ih =>
    calc acc ≤ acc * 10 + (d.toNat - 48) := by omega
      _ ≤ _ := ih _

/-- A run of digits that stands for zero starts with `0`. -/
theorem eq_zero_of_digitsValue {c : Char} {ds : List Char} (hc : c.isDigit = true)
    (h : digitsValue (c :: ds) = 0) : c = '0' := by
  have hle := le_foldl_digits ds (0 * 10 + (c.toNat - 48))
  have hrange := Char.isDigit_iff_toNat.1 hc
  rw [digitsValue, List.foldl_cons] at h
  have hval : c.toNat = 48 := by
    simp only [Char.reduceToNat] at hrange
    omega
  exact Char.ext (UInt32.toNat_inj.1 (by simpa using hval))

end BraceFormat.Spec
