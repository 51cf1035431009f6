import BraceFormat.Proofs.BaseDigits
/-!
# Numbers with a fixed number of fraction digits

With a precision `p`, a decimal or binary64 number under display or debug is written as the
numeral of its exact value rounded to `p` fraction digits, a tie going to the even last digit,
under its own sign: `-` for every negative number, negative zero and numbers that round to zero
included. A binary64 number is laid out from its exact decimal number, so it gives the text that
number gives, and a fraction gives the text of its nearest binary64 number.

The layout does not compute `c · 10 ^ x · 10 ^ p` when it is a whole number: it writes the
coefficient and then a run of zeros (`Round.layoutFixed`), and when it is a quotient by a power
of ten it skips the division for quotients below a tenth (`Round.halfEvenPow10`). The proof shows
the two shortcuts change nothing (`Round.layoutFixed_shift`, `Round.halfEvenPow10_eq`), that the
rounding is half to even (`Round.halfEven_rounds`), and that the layout of a whole number `N` is
the numeral of `N / 10 ^ p` with `p` fraction digits (`Round.fixedNumeral_layoutFixed`), which
rests on splitting a numeral before its last `p` digits (`Numeral.chars_split`).

A layout is refused only when its text would not fit in the memory, so every refusal is of a
text of `memoryLimit` characters or more.

## Main definitions

* `Round.RoundsHalfEven`: rounding to the nearest integer, ties to even.
* `Round.FixedNumeral`: the numeral of `N / 10 ^ p` with exactly `p` fraction digits.
* `FixedRendering`: the rendering of a number of a given sign and magnitude with `p` fraction
  digits.

## Main results

* `Decimal.fixed_rounds`: the fixed layout rounds the exact value.
* `Binary64.toDecimal_finite`: a binary64 number as a decimal number is exact.
* `decimal_fixed_rendering`, `binary64_fixed_rendering`: numbers with a precision render as their
  rounded exact value, whenever the text fits in the memory.
* `Piece.render_decimal_of_float`, `Piece.render_fraction`: a binary64 number gives the text of
  its exact decimal number, and a fraction that of its nearest binary64 number.
* `fixed_precision_rounds_exact_value`: all of these under display and debug.
-/

namespace BraceFormat.Round

/-! ### Rounding half to even -/

/-- `N` is `t` rounded to the nearest integer, a tie between two integers going to the even
one. -/
def RoundsHalfEven (t : ℚ) (N : ℕ) : Prop :=
  |(N : ℚ) - t| ≤ 1 / 2 ∧ (|(N : ℚ) - t| = 1 / 2 → Even N)

/-- **The rounding is determined.** Two integers within a half of `t` are one apart only when
both are exactly a half away, and then only one of them is even. -/
theorem RoundsHalfEven.unique {t : ℚ} {N M : ℕ} (hN : RoundsHalfEven t N)
    (hM : RoundsHalfEven t M) : N = M := by
  by_contra hne
  have hone : (1 : ℚ) ≤ |(N : ℚ) - M| := by
    have h : (1 : ℤ) ≤ |(N : ℤ) - M| := Int.one_le_abs (by omega)
    exact_mod_cast h
  have htri : |(N : ℚ) - M| ≤ |(N : ℚ) - t| + |(M : ℚ) - t| := by
    calc |(N : ℚ) - M| = |((N : ℚ) - t) - ((M : ℚ) - t)| := by ring_nf
      _ ≤ |(N : ℚ) - t| + |(M : ℚ) - t| := abs_sub _ _
  -- both are a half away, so both are even, yet they are one apart
  have hNe : Even N := hN.2 (le_antisymm hN.1 (by linarith [hM.1]))
  have hMe : Even M := hM.2 (le_antisymm hM.1 (by linarith [hN.1]))
  have hclose : |(N : ℤ) - M| ≤ 1 := by
    have h : |(N : ℚ) - M| ≤ 1 := by linarith [hN.1, hM.1]
    exact_mod_cast h
  rw [abs_le] at hclose
  rcases hNe with ⟨a, rfl⟩
  rcases hMe with ⟨b, rfl⟩
  omega

/-- Rounding a quotient, in whole numbers: `N` is within half of `n / d`, and even at a tie. -/
theorem roundsHalfEven_div_iff {n d N : ℕ} (hd : 0 < d) :
    RoundsHalfEven ((n : ℚ) / d) N ↔
      (2 * (N * d) ≤ 2 * n + d ∧ 2 * n ≤ 2 * (N * d) + d) ∧
        ((2 * (N * d) = 2 * n + d ∨ 2 * n = 2 * (N * d) + d) → Even N) := by
  have hdq : (0 : ℚ) < d := by exact_mod_cast hd
  have hdist : (N : ℚ) - n / d = ((N * d : ℕ) - n : ℚ) / d := by
    push_cast
    field_simp
  have hhalf : |(N : ℚ) - n / d| ≤ 1 / 2 ↔
      2 * (N * d) ≤ 2 * n + d ∧ 2 * n ≤ 2 * (N * d) + d := by
    rw [hdist, abs_div, abs_of_pos hdq, div_le_iff₀ hdq, abs_le]
    constructor
    · rintro ⟨h1, h2⟩
      constructor
      · have : (2 * (N * d) : ℚ) ≤ 2 * n + d := by push_cast at h1 h2 ⊢; linarith
        exact_mod_cast this
      · have : (2 * n : ℚ) ≤ 2 * (N * d) + d := by push_cast at h1 h2 ⊢; linarith
        exact_mod_cast this
    · rintro ⟨h1, h2⟩
      have h1' : (2 * (N * d) : ℚ) ≤ 2 * n + d := by exact_mod_cast h1
      have h2' : (2 * n : ℚ) ≤ 2 * (N * d) + d := by exact_mod_cast h2
      push_cast
      constructor <;> linarith
  have htie : |(N : ℚ) - n / d| = 1 / 2 ↔
      2 * (N * d) = 2 * n + d ∨ 2 * n = 2 * (N * d) + d := by
    rw [hdist, abs_div, abs_of_pos hdq, div_eq_iff hdq.ne', abs_eq (by positivity)]
    constructor
    · rintro (h | h)
      · left
        have : (2 * (N * d) : ℚ) = 2 * n + d := by push_cast at h ⊢; linarith
        exact_mod_cast this
      · right
        have : (2 * n : ℚ) = 2 * (N * d) + d := by push_cast at h ⊢; linarith
        exact_mod_cast this
    · rintro (h | h)
      · left
        have h' : (2 * (N * d) : ℚ) = 2 * n + d := by exact_mod_cast h
        push_cast
        linarith
      · right
        have h' : (2 * n : ℚ) = 2 * (N * d) + d := by exact_mod_cast h
        push_cast
        linarith
  rw [RoundsHalfEven, hhalf, htie]

/-- **`halfEven` rounds half to even.** -/
theorem halfEven_rounds (n : ℕ) {d : ℕ} (hd : 0 < d) :
    RoundsHalfEven ((n : ℚ) / d) (halfEven n d) := by
  rw [roundsHalfEven_div_iff hd]
  have hqr := Nat.div_add_mod' n d
  have hr := Nat.mod_lt n hd
  unfold halfEven
  split_ifs with h1 h2 h3
  · exact ⟨by omega, fun h => by omega⟩
  · rw [Nat.add_mul, Nat.one_mul]
    exact ⟨by omega, fun h => by omega⟩
  · exact ⟨by omega, fun _ => Nat.even_iff.2 h3⟩
  · rw [Nat.add_mul, Nat.one_mul]
    exact ⟨by omega, fun _ => Nat.even_add_one.2 (by rwa [Nat.even_iff])⟩

/-- A whole number rounds to itself. -/
theorem roundsHalfEven_natCast (N : ℕ) : RoundsHalfEven (N : ℚ) N := by
  simp [RoundsHalfEven]

end BraceFormat.Round

namespace BraceFormat.Numeral

/-! ### Splitting a numeral -/

variable {b : ℕ}

/-- The digits of `n · b ^ z` are `z` zeros, then those of `n`. -/
theorem lowDigits_mul_pow (hb : 2 ≤ b) {n : ℕ} (hn : 0 < n) (z : ℕ) :
    lowDigits b (n * b ^ z) = List.replicate z 0 ++ lowDigits b n := by
  induction z with
  | zero => simp
  | succ z ih =>
    have hpos : 0 < n * b ^ (z + 1) := Nat.mul_pos hn (Nat.pow_pos (by omega))
    rw [lowDigits_of_pos hb hpos, pow_succ, ← Nat.mul_assoc, Nat.mul_mod_left,
      Nat.mul_div_cancel _ (by omega), ih, List.replicate_succ, List.cons_append]

/-- Past its first `p` digits, a number has the digits of its quotient by `b ^ p`. -/
theorem drop_lowDigits (hb : 2 ≤ b) : ∀ (p N : ℕ), (lowDigits b N).drop p = lowDigits b (N / b ^ p)
  | 0, N => by simp
  | p + 1, N => by
    rcases Nat.eq_zero_or_pos N with rfl | hN
    · simp
    · rw [lowDigits_of_pos hb hN, List.drop_succ_cons, drop_lowDigits hb p, Nat.div_div_eq_div_mul,
        ← pow_succ']

/-- The first `p` digits of a number spell its remainder by `b ^ p`. -/
theorem foldl_take_lowDigits (hb : 2 ≤ b) : ∀ (p N : ℕ),
    ((lowDigits b N).take p).reverse.foldl (fun acc d => acc * b + d) 0 = N % b ^ p
  | 0, N => by simp [Nat.mod_one]
  | p + 1, N => by
    rcases Nat.eq_zero_or_pos N with rfl | hN
    · simp
    · rw [lowDigits_of_pos hb hN, List.take_succ_cons, List.reverse_cons, List.foldl_append,
        foldl_take_lowDigits hb p, List.foldl_cons, List.foldl_nil, pow_succ', Nat.mod_mul]
      ring

/-- The numeral of `n · 10 ^ z` is that of `n` followed by `z` zeros. -/
theorem chars_mul_ten_pow {n : ℕ} (hn : 0 < n) (z : ℕ) :
    chars 10 false (n * 10 ^ z) = chars 10 false n ++ List.replicate z '0' := by
  have hpos : 0 < n * 10 ^ z := Nat.mul_pos hn (Nat.pow_pos (by omega))
  rw [chars_of_pos hpos, chars_of_pos hn, lowDigits_mul_pow (by omega) hn, List.reverse_append,
    List.reverse_replicate, List.map_append, List.map_replicate]
  rfl

/-- **A numeral split before its last `p` digits**: the numeral of the quotient by `10 ^ p`, then
`p` digits that spell the remainder. -/
theorem chars_split {N p : ℕ} (hp : p < (chars 10 false N).length) :
    ∃ fp, chars 10 false N = chars 10 false (N / 10 ^ p) ++ fp ∧ fp.length = p ∧
      Text.digitsIn 10 fp 0 = some (N % 10 ^ p) := by
  rcases Nat.eq_zero_or_pos p with rfl | hp0
  · exact ⟨[], by simp, rfl, by simp [Text.digitsIn, Nat.mod_one]⟩
  have hN : 0 < N := by
    rcases Nat.eq_zero_or_pos N with rfl | hN
    · simp [chars] at hp
      omega
    · exact hN
  have hlen : p < (lowDigits 10 N).length := by
    rwa [chars_of_pos hN, List.length_map, List.length_reverse] at hp
  have hq : 0 < N / 10 ^ p := by
    rcases Nat.eq_zero_or_pos (N / 10 ^ p) with h | h
    · have hdrop := drop_lowDigits (by omega : 2 ≤ 10) p N
      rw [h, lowDigits_zero, List.drop_eq_nil_iff] at hdrop
      omega
    · exact h
  refine ⟨((lowDigits 10 N).take p).reverse.map (digitChar false), ?_, ?_, ?_⟩
  · conv_lhs => rw [chars_of_pos hN, ← List.take_append_drop p (lowDigits 10 N)]
    rw [List.reverse_append, List.map_append, drop_lowDigits (by omega), chars_of_pos hq]
  · rw [List.length_map, List.length_reverse, List.length_take]
    omega
  · rw [Text.digitsIn_map_digitChar (by omega) false _ _ fun d hd =>
      lt_ten_of_mem_lowDigits (List.mem_of_mem_take (List.mem_reverse.1 hd)),
      foldl_take_lowDigits (by omega)]

end BraceFormat.Numeral

namespace BraceFormat.Round

/-! ### Numerals with a fixed number of fraction digits -/

/-- `t` is the numeral of `N / 10 ^ p` with exactly `p` fraction digits: the expansion of the
integer part, then, for a positive `p`, a point and `p` digits that spell the rest. -/
def FixedNumeral (N p : ℕ) (t : List Char) : Prop :=
  ∃ ip fp, t = ip ++ (if p = 0 then [] else '.' :: fp) ∧
    Text.Expansion 10 false ip (N / 10 ^ p) ∧ fp.length = p ∧
      Text.digitsIn 10 fp 0 = some (N % 10 ^ p)

/-- **The fixed layout of a whole number** is its numeral with `p` fraction digits. -/
theorem fixedNumeral_layoutFixed (N p : ℕ) : FixedNumeral N p (layoutFixed N 0 p).toList := by
  have hexp : ∀ m, Text.Expansion 10 false (Numeral.chars 10 false m) m :=
    Text.expansion_chars (by omega) (by omega) false
  unfold layoutFixed
  simp only [ite_self, Nat.add_zero]
  split_ifs with hp hlen hz
  · subst hp
    exact ⟨Numeral.chars 10 false N, [], by simp, by simpa using hexp N, rfl,
      by simp [Text.digitsIn, Nat.mod_one]⟩
  · have hlt : N < 10 ^ p := (Numeral.length_chars_le_iff (Nat.pos_of_ne_zero hp)).1 hlen
    refine ⟨['0'], List.replicate (p - (Numeral.chars 10 false N).length) '0' ++
      Numeral.chars 10 false N, ?_, ?_, ?_, ?_⟩
    · simp [hp, String.toList_append]
    · rw [Nat.div_eq_of_lt hlt]
      exact hexp 0
    · rw [List.length_append, List.length_replicate]
      omega
    · rw [Text.digitsIn_zeros (by omega), Text.digitsIn_chars (by omega) (by omega),
        Nat.mod_eq_of_lt hlt]
  · exact absurd (Nat.le_zero.1 hz) hp
  · obtain ⟨fp, hsplit, hfl, hfv⟩ := Numeral.chars_split (N := N) (p := p) (by omega)
    have hk : (Numeral.chars 10 false N).length - p =
        (Numeral.chars 10 false (N / 10 ^ p)).length := by
      rw [hsplit, List.length_append, hfl]
      omega
    refine ⟨Numeral.chars 10 false (N / 10 ^ p), fp, ?_, hexp _, hfl, hfv⟩
    rw [if_neg hp, String.toList_append, String.toList_append, String.toList_append,
      Text.run_toList, List.replicate_zero, List.append_nil, String.toList_ofList,
      String.toList_ofList, hk, hsplit, List.take_left, List.drop_left]
    simp

/-- **The run of trailing zeros is the numeral's tail.** Laying out `n` with `z` zeros written
as a run is laying out the whole number `n · 10 ^ z`. -/
theorem layoutFixed_shift (n z p : ℕ) : layoutFixed n z p = layoutFixed (n * 10 ^ z) 0 p := by
  rcases Nat.eq_zero_or_pos n with rfl | hn
  · simp [layoutFixed]
  have hds := Numeral.chars_mul_ten_pow hn z
  have hne : (Numeral.chars 10 false n).length ≠ 0 :=
    fun h => Numeral.chars_ne_nil n (List.length_eq_zero_iff.1 h)
  unfold layoutFixed
  simp only [Nat.pos_iff_ne_zero.1 hn, Nat.pos_iff_ne_zero.1 (Nat.mul_pos hn (Nat.pow_pos
    (by omega : 0 < 10))), if_false, hds, List.length_append, List.length_replicate, Nat.add_zero]
  rw [← String.toList_inj]
  split_ifs with hp hlen hz hz' hz''
  · simp [String.toList_append]
  · simp [String.toList_append]
  · exact absurd (Nat.le_zero.1 hz') hp
  · have hk : (Numeral.chars 10 false n).length ≤ (Numeral.chars 10 false n).length + z - p := by
      omega
    have hzeros : (Numeral.chars 10 false n).length + z - p - (Numeral.chars 10 false n).length =
        z - p := by
      omega
    simp [String.toList_append, List.take_append, List.drop_append, List.take_replicate,
      List.drop_replicate, List.take_of_length_le hk, List.drop_of_length_le hk, hzeros,
      Nat.sub_sub_self hz]
  · exact absurd (Nat.le_zero.1 hz'') hp
  · have hk : (Numeral.chars 10 false n).length + z - p ≤ (Numeral.chars 10 false n).length := by
      omega
    simp [String.toList_append, List.take_append_of_le_length hk,
      List.drop_append_of_le_length hk]

/-- The shortcut of `halfEvenPow10` skips only quotients below a tenth, which round to zero. -/
theorem halfEvenPow10_eq (c k : ℕ) : halfEvenPow10 c k = halfEven c (10 ^ k) := by
  unfold halfEvenPow10
  split_ifs with h
  · -- `c` has fewer digits than `10 ^ k` by two, so `2 c < 10 ^ k`
    have hc : c < 10 ^ decimalLength c :=
      (Numeral.length_chars_le_iff (List.length_pos_iff.2 (Numeral.chars_ne_nil c))).1 le_rfl
    have hpow : 10 ^ decimalLength c * 10 ≤ 10 ^ k := by
      rw [← pow_succ]
      exact Nat.pow_le_pow_right (by omega) (by omega)
    rw [halfEven_of_lt (by rw [Nat.mod_eq_of_lt (by omega)]; omega), Nat.div_eq_of_lt (by omega)]
  · rfl

end BraceFormat.Round

namespace BraceFormat.Decimal

/-- `c · 10 ^ x · 10 ^ p` as one power of ten. -/
theorem value_mul_ten_pow (c : ℕ) (x : ℤ) (p : ℕ) :
    (c : ℚ) * 10 ^ x * 10 ^ p = c * 10 ^ (x + p) := by
  rw [mul_assoc, ← zpow_natCast, ← zpow_add₀ (by norm_num)]

/-- **The fixed layout rounds the exact value.** The layout of `c · 10 ^ x` with `p` fraction
digits is the numeral of `c · 10 ^ x · 10 ^ p` rounded half to even, with `p` fraction
digits. -/
theorem fixed_rounds (c : ℕ) (x : ℤ) (p : ℕ) :
    ∃ N, Round.RoundsHalfEven ((c : ℚ) * 10 ^ x * 10 ^ p) N ∧
      Round.FixedNumeral N p (fixed c x p).toList := by
  unfold fixed
  dsimp only
  split_ifs with hshift
  · obtain ⟨k, hk⟩ : ∃ k : ℕ, x + p = k := ⟨_, (Int.toNat_of_nonneg hshift).symm⟩
    rw [hk, Int.toNat_natCast]
    refine ⟨c * 10 ^ k, ?_, ?_⟩
    · rw [value_mul_ten_pow, hk, zpow_natCast]
      exact_mod_cast Round.roundsHalfEven_natCast (c * 10 ^ k)
    · rw [Round.layoutFixed_shift]
      exact Round.fixedNumeral_layoutFixed _ _
  · refine ⟨Round.halfEven c (10 ^ (-(x + p)).toNat), ?_, ?_⟩
    · have hv : (c : ℚ) * 10 ^ x * 10 ^ p = (c : ℚ) / ((10 ^ (-(x + p)).toNat : ℕ) : ℚ) := by
        rw [value_mul_ten_pow, div_eq_mul_inv]
        congr 1
        have hneg : (((-(x + p)).toNat : ℤ)) = -(x + p) := Int.toNat_of_nonneg (by omega)
        push_cast
        rw [← zpow_natCast, hneg, zpow_neg, inv_inv]
      rw [hv]
      exact Round.halfEven_rounds c (Nat.pow_pos (by omega))
    · rw [Round.halfEvenPow10_eq]
      exact Round.fixedNumeral_layoutFixed _ _

/-- A layout with `p` fraction digits is at least `p + 2` characters long, the point and a digit
before it included. -/
theorem le_fixedLength (c : ℕ) (x : ℤ) (p : ℕ) : p + 2 ≤ fixedLength c x p := by
  unfold fixedLength
  omega

/-- **The fixed layout of a decimal number is refused only past the memory.** -/
theorem fixedFault?_of_lt {c : ℕ} {x : ℤ} {p : ℕ} (h : fixedLength c x p < memoryLimit) :
    fixedFault? c x p = none := by
  have hlen := le_fixedLength c x p
  have hmem : memoryLimit = 2147483648 := rfl
  have hidx : indexLimit = 9223372036854775808 := rfl
  have hmax : maxPrecision = 999999999999999999 := rfl
  unfold fixedFault?
  rw [if_neg (by omega), if_neg (by omega), if_neg, if_neg (by omega)]
  simp only [Bool.and_eq_true, decide_eq_true_eq, not_and]
  unfold fixedLength at h
  omega

end BraceFormat.Decimal

namespace BraceFormat

/-! ### Binary64 numbers as decimal numbers -/

namespace Binary64

/-- **A binary64 number as a decimal number is exact.** Its coefficient and power of ten, the same
for either sign, have the value `significand · 2 ^ exponent`. -/
theorem toDecimal_finite (neg : Bool) (f : Fin 2047) (fr : Fin (Nat.pow 2 52)) :
    ∃ c k, (finite neg f fr).toDecimal = .finite neg c k ∧
      (finite false f fr).toDecimal = .finite false c k ∧
      (c : ℚ) * 10 ^ k = (significand f fr : ℚ) * 2 ^ exponent f := by
  unfold toDecimal
  dsimp only
  split_ifs with he
  · refine ⟨_, _, rfl, rfl, ?_⟩
    obtain ⟨n, hn⟩ : ∃ n : ℕ, exponent f = n := ⟨_, (Int.toNat_of_nonneg he).symm⟩
    rw [hn, Int.toNat_natCast, zpow_natCast]
    push_cast
    simp [Nat.pow_eq]
  · refine ⟨_, _, rfl, rfl, ?_⟩
    obtain ⟨n, hn⟩ : ∃ n : ℕ, exponent f = -n := ⟨(-exponent f).toNat, by omega⟩
    rw [hn, neg_neg, Int.toNat_natCast, zpow_neg, zpow_neg, zpow_natCast, zpow_natCast]
    push_cast
    rw [show (10 : ℚ) = 2 * 5 by norm_num, mul_pow]
    field_simp
    simp [Nat.pow_eq]

/-- **The fixed layout of a binary64 number is refused only past the memory.** -/
theorem fixedFault?_of_lt {c : ℕ} {k : ℤ} {p : ℕ} (h : Decimal.fixedLength c k p < memoryLimit) :
    fixedFault? c k p = none := by
  have hlen := Decimal.le_fixedLength c k p
  have hmem : memoryLimit = 2147483648 := rfl
  have hidx : indexLimit = 9223372036854775808 := rfl
  have hmax : maxPrecision = 2147483647 := rfl
  unfold fixedFault?
  rw [if_neg (by omega), if_neg (by omega), if_neg (by omega)]

/-- A layout the binary64 check lets through is one the decimal check lets through. -/
theorem decimal_fixedFault?_of_fixedFault? {c : ℕ} {k : ℤ} {p : ℕ}
    (h : fixedFault? c k p = none) : Decimal.fixedFault? c k p = none := by
  apply Decimal.fixedFault?_of_lt
  unfold fixedFault? at h
  split_ifs at h with h1 h2 h3
  exact Nat.lt_of_not_le h3

end Binary64

namespace Rendered

/-- **A binary64 number renders as its exact decimal number does**, whenever it renders at all:
with a precision, both are laid out from the same coefficient and power of ten. -/
theorem ofDecimal_of_ofBinary64 {x : Binary64} {spec : Spec} {p : ℕ} {r : Rendered}
    (h : ofBinary64 x spec (some p) = .ok r) : ofDecimal x.toDecimal spec (some p) = .ok r := by
  cases x with
  | finite neg f fr =>
    obtain ⟨c, k, hneg, hpos, -⟩ := Binary64.toDecimal_finite neg f fr
    rw [hneg]
    unfold ofBinary64 at h
    unfold ofDecimal
    simp only [hpos] at h
    rcases hm : marker? spec.conversion with _ | m <;> simp only [hm] at h ⊢
    · unfold checked at h ⊢
      split at h
      · simp at h
      · rename_i hf
        rw [Binary64.decimal_fixedFault?_of_fixedFault? hf]
        exact h
    · exact h
  | infinite neg => exact h
  | nan => exact h

/-- Below the memory, a binary64 number renders with a precision. -/
theorem ofBinary64_ok {f : Fin 2047} {fr : Fin (Nat.pow 2 52)} {c : ℕ} {k : ℤ}
    (hx : (Binary64.finite false f fr).toDecimal = .finite false c k) (neg : Bool) {spec : Spec}
    (hm : marker? spec.conversion = none) {p : ℕ} (hlen : Decimal.fixedLength c k p < memoryLimit) :
    ofBinary64 (.finite neg f fr) spec (some p) =
      .ok ⟨signOf neg spec, "", Decimal.fixed c k p, true, true⟩ := by
  unfold ofBinary64
  simp only [hx, hm, checked, Binary64.fixedFault?_of_lt hlen]
  rfl

/-- Below the memory, a decimal number renders with a precision. -/
theorem ofDecimal_ok (neg : Bool) (c : ℕ) (k : ℤ) {spec : Spec}
    (hm : marker? spec.conversion = none) {p : ℕ} (hlen : Decimal.fixedLength c k p < memoryLimit) :
    ofDecimal (.finite neg c k) spec (some p) =
      .ok ⟨signOf neg spec, "", Decimal.fixed c k p, true, true⟩ := by
  unfold ofDecimal
  simp only [hm, checked, Decimal.fixedFault?_of_lt hlen]
  rfl

/-- What a decimal number renders as with a precision, when it renders. -/
theorem ofDecimal_eq_ok {neg : Bool} {c : ℕ} {k : ℤ} {spec : Spec}
    (hm : marker? spec.conversion = none) {p : ℕ} {r : Rendered}
    (h : ofDecimal (.finite neg c k) spec (some p) = .ok r) :
    r = ⟨signOf neg spec, "", Decimal.fixed c k p, true, true⟩ := by
  unfold ofDecimal at h
  simp only [hm, checked] at h
  split at h
  · simp at h
  · simp only [Functor.map, Except.map, Except.ok.injEq] at h
    exact h.symm

end Rendered

/-! ### Rendering raw numbers -/

namespace Bound

/-- A raw binary64 number is rendered under the conversions of its kind, and refused under the
others. -/
theorem render_float (x : Binary64) (spec : Spec) (precision : Option ℕ) (offset : ℕ) :
    ((Value.float x).bind Option.none).render spec precision offset =
      if Kind.float.natural.has spec.conversion.capability then
        (Rendered.ofBinary64 x spec precision).mapError .fault
      else .error (.format (.unsupported spec.conversion .float offset)) := by
  unfold render
  cases spec.conversion <;> simp [Value.bind, Value.ownCaps, kind, number, Value.number,
    Value.classify, Kind.natural, Caps.has, Conversion.capability, Kind.isNumeric,
    Rendered.isBase, bind, Except.bind, Except.mapError]

/-- A raw decimal number is rendered under the conversions of its kind, and refused under the
others. -/
theorem render_decimal (d : Decimal) (spec : Spec) (precision : Option ℕ) (offset : ℕ) :
    ((Value.decimal d).bind Option.none).render spec precision offset =
      if Kind.float.natural.has spec.conversion.capability then
        (Rendered.ofDecimal d spec precision).mapError .fault
      else .error (.format (.unsupported spec.conversion .float offset)) := by
  unfold render
  cases spec.conversion <;> simp [Value.bind, Value.ownCaps, kind, number, Value.number,
    Value.classify, Kind.natural, Caps.has, Conversion.capability, Kind.isNumeric,
    Rendered.isBase, bind, Except.bind, Except.mapError]

/-- **A fraction renders as its nearest binary64 number** does, under every conversion. -/
theorem render_fraction {q : Fraction} {x : Binary64} (hx : q.toBinary64 = .ok x) (spec : Spec)
    (precision : Option ℕ) (offset : ℕ) :
    ((Value.fraction q).bind Option.none).render spec precision offset =
      ((Value.float x).bind Option.none).render spec precision offset := by
  unfold render
  cases spec.conversion <;> simp [Value.bind, Value.ownCaps, kind, number, Value.number,
    Value.classify, Kind.natural, Caps.has, Conversion.capability, Kind.isNumeric,
    Rendered.isBase, bind, Except.bind, Except.mapError, hx]

end Bound

/-! ### The fixed rendering -/

/-- `r` is the rendering with `p` fraction digits of a number of sign `neg` and magnitude `v`: the
sign (`-` for a negative number, negative zero included, `+` for another under the plus flag),
no prefix, and the numeral of `v · 10 ^ p` rounded half to even, with `p` fraction digits. -/
structure FixedRendering (spec : Spec) (neg : Bool) (v : ℚ) (p : ℕ) (r : Rendered) : Prop where
  sign : r.sign = if neg then "-" else if spec.plus then "+" else ""
  basePrefix : r.basePrefix = ""
  body : ∃ N, Round.RoundsHalfEven (v * 10 ^ p) N ∧ Round.FixedNumeral N p r.body.toList
  numeric : r.numeric = true
  finite : r.finite = true

/-- The layout of `c · 10 ^ x` with `p` fraction digits, under its sign, is its fixed
rendering. -/
theorem fixedRendering_fixed (spec : Spec) (neg : Bool) (c : ℕ) (x : ℤ) (p : ℕ) :
    FixedRendering spec neg ((c : ℚ) * 10 ^ x) p
      ⟨Rendered.signOf neg spec, "", Decimal.fixed c x p, true, true⟩ where
  sign := rfl
  basePrefix := rfl
  body := Decimal.fixed_rounds c x p
  numeric := rfl
  finite := rfl

/-- **A decimal number with a precision** renders as the numeral of its exact value rounded half
to even to `p` fraction digits, under its own sign; it renders whenever the text fits in the
memory. -/
theorem decimal_fixed_rendering {spec : Spec} (hm : Rendered.marker? spec.conversion = none)
    (neg : Bool) (c : ℕ) (x : ℤ) (p : ℕ) :
    (∀ r, Rendered.ofDecimal (.finite neg c x) spec (some p) = .ok r →
      FixedRendering spec neg ((c : ℚ) * 10 ^ x) p r) ∧
    (Decimal.fixedLength c x p < memoryLimit →
      ∃ r, Rendered.ofDecimal (.finite neg c x) spec (some p) = .ok r) := by
  refine ⟨fun r h => ?_, fun hlen => ⟨_, Rendered.ofDecimal_ok neg c x hm hlen⟩⟩
  rw [Rendered.ofDecimal_eq_ok hm h]
  exact fixedRendering_fixed spec neg c x p

/-- **A binary64 number with a precision** renders as the numeral of its exact binary value
rounded half to even to `p` fraction digits, under its own sign, negative zero included; it
renders whenever the text of its exact decimal number fits in the memory. -/
theorem binary64_fixed_rendering {spec : Spec} (hm : Rendered.marker? spec.conversion = none)
    (neg : Bool) (f : Fin 2047) (fr : Fin (Nat.pow 2 52)) (p : ℕ) :
    (∀ r, Rendered.ofBinary64 (.finite neg f fr) spec (some p) = .ok r →
      FixedRendering spec neg ((Binary64.significand f fr : ℚ) * 2 ^ Binary64.exponent f) p r) ∧
    (∀ c k, (Binary64.finite neg f fr).toDecimal = .finite neg c k →
      Decimal.fixedLength c k p < memoryLimit →
        ∃ r, Rendered.ofBinary64 (.finite neg f fr) spec (some p) = .ok r) := by
  obtain ⟨c, k, hneg, hpos, hvalue⟩ := Binary64.toDecimal_finite neg f fr
  refine ⟨fun r h => ?_, fun c' k' h' hlen => ?_⟩
  · have hdec := Rendered.ofDecimal_of_ofBinary64 h
    rw [hneg] at hdec
    rw [← hvalue]
    exact (decimal_fixed_rendering hm neg c k p).1 r hdec
  · rw [hneg, Decimal.finite.injEq] at h'
    obtain ⟨-, rfl, rfl⟩ := h'
    exact ⟨_, Rendered.ofBinary64_ok hpos neg hm hlen⟩

/-- **A binary64 number and its exact decimal number give the same text** under the same
placeholder with a precision, whenever the binary64 number gives one. -/
theorem Piece.render_decimal_of_float {x : Binary64} {spec : Spec} {width : Option ℕ} {p : ℕ}
    {offset : ℕ} {s : String}
    (h : (Piece.slot spec ((Value.float x).bind Option.none) width (some p) offset).render =
      .ok s) :
    (Piece.slot spec ((Value.decimal x.toDecimal).bind Option.none) width (some p)
      offset).render = .ok s := by
  simp only [Piece.render, Bound.render_float, Bound.render_decimal] at h ⊢
  split_ifs at h ⊢ with hcap
  · rcases hr : Rendered.ofBinary64 x spec (some p) with f | r
    · rw [hr] at h
      simp [Except.mapError, bind, Except.bind] at h
    · rw [hr] at h
      rw [Rendered.ofDecimal_of_ofBinary64 hr]
      exact h
  · simp [bind, Except.bind] at h

/-- **A fraction gives the text of its nearest binary64 number** under every placeholder. -/
theorem Piece.render_fraction {q : Fraction} {x : Binary64} (hx : q.toBinary64 = .ok x)
    (spec : Spec) (width precision : Option ℕ) (offset : ℕ) :
    (Piece.slot spec ((Value.fraction q).bind Option.none) width precision offset).render =
      (Piece.slot spec ((Value.float x).bind Option.none) width precision offset).render := by
  simp only [Piece.render, Bound.render_fraction hx]

theorem mapError_eq_ok {ε ε' α : Type} {e : Except ε α} {g : ε → ε'} {a : α} :
    e.mapError g = .ok a ↔ e = .ok a := by
  cases e <;> simp [Except.mapError]

/-- **Numbers with a precision.** Under display or debug with precision `p`, a finite decimal
number and a finite binary64 number render as the numeral of their exact value rounded half to
even to `p` fraction digits, under their own sign, and they render whenever the text fits in the
memory. A binary64 number and its exact decimal number give the same text under the same
placeholder, and a fraction gives the text of its nearest binary64 number. -/
theorem fixed_precision_rounds_exact_value {spec : Spec}
    (hconv : spec.conversion = .display ∨ spec.conversion = .debug) (p offset : ℕ) :
    (∀ neg c x r, ((Value.decimal (.finite neg c x)).bind Option.none).render spec (some p)
        offset = .ok r → FixedRendering spec neg ((c : ℚ) * 10 ^ x) p r) ∧
    (∀ neg c x, Decimal.fixedLength c x p < memoryLimit →
        ∃ r, ((Value.decimal (.finite neg c x)).bind Option.none).render spec (some p)
          offset = .ok r) ∧
    (∀ neg f fr r, ((Value.float (.finite neg f fr)).bind Option.none).render spec (some p)
        offset = .ok r →
      FixedRendering spec neg ((Binary64.significand f fr : ℚ) * 2 ^ Binary64.exponent f) p r) ∧
    (∀ neg f fr c k, (Binary64.finite neg f fr).toDecimal = .finite neg c k →
      Decimal.fixedLength c k p < memoryLimit →
        ∃ r, ((Value.float (.finite neg f fr)).bind Option.none).render spec (some p)
          offset = .ok r) ∧
    (∀ x width s,
      (Piece.slot spec ((Value.float x).bind Option.none) width (some p) offset).render =
          .ok s →
        (Piece.slot spec ((Value.decimal x.toDecimal).bind Option.none) width (some p)
          offset).render = .ok s) ∧
    (∀ q x, q.toBinary64 = .ok x → ∀ width precision,
      (Piece.slot spec ((Value.fraction q).bind Option.none) width precision offset).render =
        (Piece.slot spec ((Value.float x).bind Option.none) width precision offset).render) := by
  have hm : Rendered.marker? spec.conversion = none := by
    rcases hconv with h | h <;> simp [h, Rendered.marker?]
  have hcap : Kind.float.natural.has spec.conversion.capability = true := by
    rcases hconv with h | h <;> simp [h, Kind.natural, Caps.has, Conversion.capability]
  have hdec : ∀ d, ((Value.decimal d).bind Option.none).render spec (some p) offset =
      (Rendered.ofDecimal d spec (some p)).mapError .fault := fun d => by
    rw [Bound.render_decimal, if_pos hcap]
  have hflt : ∀ x, ((Value.float x).bind Option.none).render spec (some p) offset =
      (Rendered.ofBinary64 x spec (some p)).mapError .fault := fun x => by
    rw [Bound.render_float, if_pos hcap]
  refine ⟨fun neg c x r h => ?_, fun neg c x hlen => ?_, fun neg f fr r h => ?_,
    fun neg f fr c k hx hlen => ?_, fun x width s h => Piece.render_decimal_of_float h,
    fun q x hx width precision => Piece.render_fraction hx spec width precision offset⟩
  · rw [hdec, mapError_eq_ok] at h
    exact (decimal_fixed_rendering hm neg c x p).1 r h
  · obtain ⟨r, hr⟩ := (decimal_fixed_rendering hm neg c x p).2 hlen
    exact ⟨r, by rw [hdec, hr]; rfl⟩
  · rw [hflt, mapError_eq_ok] at h
    exact (binary64_fixed_rendering hm neg f fr p).1 r h
  · obtain ⟨r, hr⟩ := (binary64_fixed_rendering hm neg f fr p).2 c k hx hlen
    exact ⟨r, by rw [hflt, hr]; rfl⟩

/-- Two and a half thousandths more than 2.67 rounds, as a decimal number, to the even 2.68 under
`{:.2}`. -/
theorem decimal_two_point_six_seven_five_rounds :
    (({ conversion := .display } : Spec).conversion = .display ∨
        ({ conversion := .display } : Spec).conversion = .debug) ∧
      ∃ r, ((Value.decimal (.finite false 2675 (-3))).bind Option.none).render
          { conversion := .display } (some 2) 0 = .ok r ∧
        FixedRendering { conversion := .display } false ((2675 : ℕ) * 10 ^ (-3 : ℤ)) 2 r := by
  obtain ⟨hspec, hok, -⟩ :=
    @fixed_precision_rounds_exact_value { conversion := .display } (.inl rfl) 2 0
  obtain ⟨r, hr⟩ := hok false 2675 (-3) (by decide +kernel)
  exact ⟨.inl rfl, r, hr, hspec false 2675 (-3) r hr⟩

example : Decimal.fixed 2675 (-3) 2 = "2.68" := by decide +kernel
example : Decimal.fixed 125 (-3) 2 = "0.12" := by decide +kernel

/- As a binary64 number, 2.675 lies below 2.675 and renders as 2.67. -/
example : ((Rendered.ofBinary64 (.finite false ⟨1024, by decide⟩ ⟨1519964874237542, by decide⟩)
    { conversion := .display } (some 2)).toOption.map Rendered.body) = some "2.67" := by
  decide +kernel

end BraceFormat
