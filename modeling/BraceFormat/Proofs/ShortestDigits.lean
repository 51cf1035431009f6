import BraceFormat.Proofs.Scientific
/-!
# Shortest digits read back

The repr digits of a positive finite binary64 number are chosen among the decimal numbers that
round to it. This module proves that they do lie in its rounding interval (`Binary64.RoundsTo`),
and that reading a decimal number (`Binary64.ofScientific`, through `ofQuotient`) takes every
number of that interval back to the binary64 number, so that the `{:e}` rendering of every
finite number reads as the number.

The argument is exact rational arithmetic. The comparisons of the digit search
(`compareScaled`, `inInterval`) are inequalities of rationals; a candidate of `n` digits, when
there is one, lies in the interval, and seventeen digits always give one, the grid of seventeen
digits being finer than the interval is wide. On the reading side the leading powers of ten and
two of a quotient (`leadExponent`) are pinned down by digit counts, the significand found by
the halving is the half-even rounding of the scaled quotient, and a number of the interval
rounds to the significand it came from. The one delicate case is the bottom of a binade above
the least normal number, where the gap below is half as wide and the quotient may round up
into the binade from below.

## Main results

* `Binary64.shortestOf_roundsTo`, `Binary64.reprDecimal_roundsTo`: the shortest digits lie in
  the rounding interval.
* `Binary64.ofQuotient_of_roundsTo`, `Binary64.ofScientific_of_roundsTo`: every number of the
  interval reads as the binary64 number.
* `Binary64.read_reprScientific`: the scientific text of the shortest digits reads back.
* `scientific_layouts_keep_value`: the scientific layouts keep the value, with and without a
  precision, for decimal numbers, binary64 numbers and integers.
-/

namespace BraceFormat

/-! ### Scaling by powers -/

namespace Round

/-- A quotient scaled by an integer power of `β`, the power put on whichever side keeps it
natural, keeps its value. -/
theorem div_scaleBy (β n d : ℕ) (k : ℤ) :
    (((if 0 ≤ k then (n * Nat.pow β k.toNat, d)
          else (n, d * Nat.pow β (-k).toNat)).1 : ℕ) : ℚ) /
        ((if 0 ≤ k then (n * Nat.pow β k.toNat, d)
          else (n, d * Nat.pow β (-k).toNat)).2 : ℕ) =
      (n : ℚ) / d * (β : ℚ) ^ k := by
  split_ifs with hk
  · obtain ⟨j, rfl⟩ := Int.eq_ofNat_of_zero_le hk
    simp only [Nat.pow_eq, Nat.cast_mul, Nat.cast_pow, zpow_natCast, Int.toNat_natCast]
    ring
  · obtain ⟨j, rfl⟩ : ∃ j : ℕ, k = -(j : ℤ) := ⟨(-k).toNat, by omega⟩
    simp only [Nat.pow_eq, Nat.cast_mul, Nat.cast_pow, zpow_neg, zpow_natCast, neg_neg,
      Int.toNat_natCast]
    rw [div_mul_eq_div_div, div_eq_mul_inv, div_eq_mul_inv]

theorem scale_div (n d : ℕ) (k : ℤ) :
    ((scale n d k).1 : ℚ) / (scale n d k).2 = (n : ℚ) / d * 10 ^ k := by
  have h := div_scaleBy 10 n d k
  rw [Nat.cast_ofNat] at h
  exact h

theorem scale_pos {n d : ℕ} (hd : 0 < d) (k : ℤ) : 0 < (scale n d k).2 := by
  unfold scale
  split_ifs
  · exact hd
  · exact Nat.mul_pos hd (Nat.pow_pos (by omega))

/-- **The leading power from digit counts.** With `β ^ ln ≤ n < β ^ (ln + 1)` and
`β ^ ld ≤ d < β ^ (ld + 1)`, the quotient `n / d` lies strictly between `β ^ (k - 1)` and
`β ^ (k + 1)` for `k = ln - ld`, and comparing it with `β ^ k` decides the side. -/
theorem lead_of_counts {β n d : ℚ} (hβ : 1 < β) {ln ld k : ℤ} (hk : k = ln - ld)
    (hn : β ^ ln ≤ n) (hn' : n < β ^ (ln + 1)) (hd : β ^ ld ≤ d) (hd' : d < β ^ (ld + 1)) :
    (n / d * β ^ (-k) < 1 → β ^ (k - 1) ≤ n / d ∧ n / d < β ^ (k - 1 + 1)) ∧
      (¬ n / d * β ^ (-k) < 1 → β ^ k ≤ n / d ∧ n / d < β ^ (k + 1)) := by
  have hβ0 : β ≠ 0 := by positivity
  have hdpos : 0 < d := lt_of_lt_of_le (zpow_pos (by positivity) ld) hd
  have hlow : β ^ (k - 1) < n / d := by
    rw [lt_div_iff₀ hdpos]
    calc β ^ (k - 1) * d < β ^ (k - 1) * β ^ (ld + 1) :=
          mul_lt_mul_of_pos_left hd' (zpow_pos (by positivity) _)
      _ = β ^ ln := by rw [← zpow_add₀ hβ0, hk]; ring_nf
      _ ≤ n := hn
  have hhigh : n / d < β ^ (k + 1) := by
    rw [div_lt_iff₀ hdpos]
    calc n < β ^ (ln + 1) := hn'
      _ = β ^ (k + 1) * β ^ ld := by rw [← zpow_add₀ hβ0, hk]; ring_nf
      _ ≤ β ^ (k + 1) * d := mul_le_mul_of_nonneg_left hd (zpow_pos (by positivity) _).le
  have hside : n / d * β ^ (-k) < 1 ↔ n / d < β ^ k := by
    rw [zpow_neg, ← div_eq_mul_inv, div_lt_one (zpow_pos (by positivity) k)]
  refine ⟨fun h => ⟨hlow.le, by rw [sub_add_cancel]; exact hside.1 h⟩,
    fun h => ⟨?_, hhigh⟩⟩
  exact not_lt.1 (mt hside.2 h)

/-- **The leading power from digit counts and one comparison.** When `a / b` is `n / d` scaled
by `β ^ (-k)`, `k = ln - ld` the difference of the digit counts, the leading power of `n / d`
is `k`, less one when `a < b`. -/
theorem lead_of_compare {β n d : ℚ} (hβ : 1 < β) {ln ld k : ℤ} (hk : k = ln - ld)
    (hn : β ^ ln ≤ n) (hn' : n < β ^ (ln + 1)) (hd : β ^ ld ≤ d) (hd' : d < β ^ (ld + 1))
    {a b : ℕ} (hb : 0 < b) (hab : (a : ℚ) / b = n / d * β ^ (-k)) :
    β ^ (if a < b then k - 1 else k) ≤ n / d ∧
      n / d < β ^ ((if a < b then k - 1 else k) + 1) := by
  have hlead := lead_of_counts hβ hk hn hn' hd hd'
  have hcmp : a < b ↔ n / d * β ^ (-k) < 1 := by
    rw [← hab, div_lt_one (by exact_mod_cast hb)]
    exact_mod_cast Iff.rfl
  split_ifs with hlt
  · exact hlead.1 (hcmp.1 hlt)
  · exact hlead.2 (mt hcmp.2 hlt)

/-- `leadExponent` gives the power of ten of the leading digit of `n / d`. -/
theorem leadExponent_spec {n d : ℕ} (hn : 0 < n) (hd : 0 < d) :
    (10 : ℚ) ^ leadExponent n d ≤ n / d ∧ (n : ℚ) / d < 10 ^ (leadExponent n d + 1) := by
  have hcount : ∀ {c : ℕ}, 0 < c →
      (10 : ℚ) ^ ((decimalLength c : ℤ) - 1) ≤ c ∧
        (c : ℚ) < 10 ^ ((decimalLength c : ℤ) - 1 + 1) := fun hc => by
    simpa using decimalLength_zpow_bounds hc 0
  obtain ⟨hn1, hn2⟩ := hcount hn
  obtain ⟨hd1, hd2⟩ := hcount hd
  unfold leadExponent
  dsimp only
  rcases hs : scale n d (-((decimalLength n : ℤ) - decimalLength d)) with ⟨a, b⟩
  dsimp only
  have hb : 0 < b := by
    have := scale_pos (n := n) hd (-((decimalLength n : ℤ) - decimalLength d))
    rwa [hs] at this
  exact lead_of_compare (by norm_num) (by ring) hn1 hn2 hd1 hd2 hb (by rw [← scale_div, hs])

/-- A number within half of `N`, at a tie only where `N` is even, rounds to `N`. -/
theorem roundsHalfEven_of_bounds {t : ℚ} {N : ℕ} (h1 : (N : ℚ) - 1 / 2 ≤ t)
    (h2 : t ≤ N + 1 / 2) (htie : t = N - 1 / 2 ∨ t = N + 1 / 2 → Even N) :
    RoundsHalfEven t N := by
  refine ⟨abs_le.2 ⟨by linarith, by linarith⟩, fun h => htie ?_⟩
  rcases (abs_eq (by norm_num)).1 h with h | h
  · left
    linarith
  · right
    linarith

end Round

namespace Binary64

theorem scale2_div (n d : ℕ) (k : ℤ) :
    ((scale2 n d k).1 : ℚ) / (scale2 n d k).2 = (n : ℚ) / d * 2 ^ k := by
  have h := Round.div_scaleBy 2 n d k
  rw [Nat.cast_ofNat] at h
  exact h

theorem scale2_pos {n d : ℕ} (hd : 0 < d) (k : ℤ) : 0 < (scale2 n d k).2 := by
  unfold scale2
  split_ifs
  · exact hd
  · exact Nat.mul_pos hd (Nat.pow_pos (by omega))

/-- `leadExponent` gives the power of two of the leading bit of `n / d`. -/
theorem leadExponent_spec {n d : ℕ} (hn : 0 < n) (hd : 0 < d) :
    (2 : ℚ) ^ leadExponent n d ≤ n / d ∧ (n : ℚ) / d < 2 ^ (leadExponent n d + 1) := by
  have hcount : ∀ {c : ℕ}, 0 < c →
      (2 : ℚ) ^ (c.log2 : ℤ) ≤ c ∧ (c : ℚ) < 2 ^ ((c.log2 : ℤ) + 1) := by
    intro c hc
    rw [zpow_natCast, show (c.log2 : ℤ) + 1 = ((c.log2 + 1 : ℕ) : ℤ) by omega, zpow_natCast]
    exact ⟨by exact_mod_cast Nat.log2_self_le (Nat.pos_iff_ne_zero.1 hc),
      by exact_mod_cast Nat.lt_log2_self⟩
  obtain ⟨hn1, hn2⟩ := hcount hn
  obtain ⟨hd1, hd2⟩ := hcount hd
  unfold leadExponent
  dsimp only
  rcases hs : scale2 n d (-((n.log2 : ℤ) - d.log2)) with ⟨a, b⟩
  dsimp only
  have hb : 0 < b := by
    have := scale2_pos (n := n) hd (-((n.log2 : ℤ) - d.log2))
    rwa [hs] at this
  exact Round.lead_of_compare (by norm_num) rfl hn1 hn2 hd1 hd2 hb (by rw [← scale2_div, hs])

/-! ### Comparing decimal and binary values -/

/-- An integer power, written as a natural power on one side of a comparison or the other. -/
theorem zpow_split {β : ℚ} (hβ : β ≠ 0) (k : ℤ) :
    (if 0 ≤ k then β ^ k.toNat else 1) = β ^ k * (if k < 0 then β ^ (-k).toNat else 1) := by
  split_ifs with h1 h2 h2
  · omega
  · rw [mul_one, ← zpow_natCast, Int.toNat_of_nonneg h1]
  · rw [← zpow_natCast, Int.toNat_of_nonneg (by omega), ← zpow_add₀ hβ, add_neg_cancel,
      zpow_zero]
  · omega

/-- The two sides that `compareScaled` compares are `a · 10 ^ k` and `b · 2 ^ j`, both multiplied
by the same positive number. -/
theorem compareScaled_sides (a b : ℕ) (k j : ℤ) :
    ∃ D : ℚ, 0 < D ∧
      (((a * (if 0 ≤ k then Nat.pow 10 k.toNat else 1) *
          (if j < 0 then Nat.pow 2 (-j).toNat else 1) : ℕ) : ℚ) = a * 10 ^ k * D) ∧
      (((b * (if k < 0 then Nat.pow 10 (-k).toNat else 1) *
          (if 0 ≤ j then Nat.pow 2 j.toNat else 1) : ℕ) : ℚ) = b * 2 ^ j * D) := by
  have h10 := zpow_split (by norm_num : (10 : ℚ) ≠ 0) k
  have h2 := zpow_split (by norm_num : (2 : ℚ) ≠ 0) j
  refine ⟨(if k < 0 then (10 : ℚ) ^ (-k).toNat else 1) *
    (if j < 0 then (2 : ℚ) ^ (-j).toNat else 1), by positivity, ?_, ?_⟩
  · push_cast [Nat.pow_eq, Nat.cast_ite]
    rw [h10]
    ring
  · push_cast [Nat.pow_eq, Nat.cast_ite]
    rw [h2]
    ring

theorem compareScaled_eq_lt {a b : ℕ} {k j : ℤ} :
    compareScaled a k b j = .lt ↔ (a : ℚ) * 10 ^ k < b * 2 ^ j := by
  obtain ⟨D, hD, hl, hr⟩ := compareScaled_sides a b k j
  unfold compareScaled
  dsimp only
  rw [compare_lt_iff_lt, ← mul_lt_mul_iff_of_pos_right hD, ← hl, ← hr, Nat.cast_lt]

theorem compareScaled_eq_gt {a b : ℕ} {k j : ℤ} :
    compareScaled a k b j = .gt ↔ (b : ℚ) * 2 ^ j < a * 10 ^ k := by
  obtain ⟨D, hD, hl, hr⟩ := compareScaled_sides a b k j
  unfold compareScaled
  dsimp only
  rw [compare_gt_iff_gt, ← mul_lt_mul_iff_of_pos_right hD, ← hl, ← hr, Nat.cast_lt]

/-- `x` lies between `lo` and `hi`, the ends included when `closed` is set. -/
def Within (closed : Bool) (lo hi x : ℚ) : Prop :=
  if closed then lo ≤ x ∧ x ≤ hi else lo < x ∧ x < hi

theorem within_of_lt {closed : Bool} {lo hi x : ℚ} (h1 : lo < x) (h2 : x < hi) :
    Within closed lo hi x := by
  cases closed
  · exact ⟨h1, h2⟩
  · exact ⟨h1.le, h2.le⟩

theorem Within.bounds {closed : Bool} {lo hi x : ℚ} (h : Within closed lo hi x) :
    lo ≤ x ∧ x ≤ hi := by
  cases closed
  · exact ⟨h.1.le, h.2.le⟩
  · exact h

/-- `inInterval` tests whether `c · 10 ^ k` lies between `lo · 2 ^ j` and `hi · 2 ^ j`. -/
theorem inInterval_iff {closed : Bool} {lo hi : ℕ} {j : ℤ} {c : ℕ} {k : ℤ} :
    inInterval closed lo hi j c k = true ↔
      Within closed (lo * 2 ^ j) (hi * 2 ^ j) (c * 10 ^ k) := by
  unfold inInterval Within
  cases closed
  · simp [compareScaled_eq_gt, compareScaled_eq_lt]
  · simp [compareScaled_eq_gt, compareScaled_eq_lt, not_lt]

/-- **A candidate lies in the interval.** -/
theorem candidate_within {m : ℕ} {e lead : ℤ} {closed : Bool} {lo hi : ℕ} {j : ℤ}
    {n c : ℕ} {k : ℤ} (h : candidate m e lead closed lo hi j n = some (c, k)) :
    Within closed (lo * 2 ^ j) (hi * 2 ^ j) (c * 10 ^ k) := by
  unfold candidate at h
  dsimp only at h
  rcases hs : scale2 m 1 e with ⟨a, b⟩
  rw [hs] at h
  dsimp only at h
  rcases hs' : Round.scale a b (-(lead + 1 - n)) with ⟨a', b'⟩
  rw [hs'] at h
  dsimp only at h
  split_ifs at h with hboth <;> obtain ⟨rfl, rfl⟩ := Prod.mk.inj (Option.some.inj h) <;>
    apply inInterval_iff.1 <;> simp_all

/-- **A grid finer than the interval meets it.** When the grid `10 ^ (lead + 1 - n)` is finer than
the interval around `m · 2 ^ e` is wide, one of the two grid neighbours of `m · 2 ^ e` lies
inside, and the candidate with `n` digits exists. -/
theorem candidate_isSome {m : ℕ} {e lead : ℤ} {closed : Bool} {lo hi : ℕ} {j : ℤ} {n : ℕ}
    (hlo : (lo : ℚ) * 2 ^ j < m * 2 ^ e) (hhi : (m : ℚ) * 2 ^ e < hi * 2 ^ j)
    (hfine : (10 : ℚ) ^ (lead + 1 - n) < hi * 2 ^ j - lo * 2 ^ j) :
    (candidate m e lead closed lo hi j n).isSome := by
  have hs0 : (0 : ℚ) < 10 ^ (lead + 1 - n) := zpow_pos (by norm_num) _
  unfold candidate
  dsimp only
  rcases hs : scale2 m 1 e with ⟨a, b⟩
  dsimp only
  rcases hs' : Round.scale a b (-(lead + 1 - n)) with ⟨a', b'⟩
  dsimp only
  -- the grid neighbours of the value: `down · 10 ^ k ≤ m · 2 ^ e < (down + 1) · 10 ^ k`
  have hb : 0 < b := by
    have := scale2_pos (n := m) Nat.one_pos e
    rwa [hs] at this
  have hb' : 0 < b' := by
    have := Round.scale_pos (n := a) hb (-(lead + 1 - n))
    rwa [hs'] at this
  have hval : (a' : ℚ) / b' = m * 2 ^ e / 10 ^ (lead + 1 - n) := by
    have h1 := scale2_div m 1 e
    have h2 := Round.scale_div a b (-(lead + 1 - n))
    rw [hs] at h1
    rw [hs'] at h2
    rw [h2, h1, zpow_neg, Nat.cast_one, div_one, div_eq_mul_inv]
  have hsplit : (a' : ℚ) = (a' / b' : ℕ) * b' + (a' % b' : ℕ) := by
    exact_mod_cast (Nat.div_add_mod' a' b').symm
  have hrem : (a' % b' : ℕ) < (b' : ℚ) := by exact_mod_cast Nat.mod_lt a' hb'
  have hb'q : (0 : ℚ) < b' := by exact_mod_cast hb'
  have hdown : ((a' / b' : ℕ) : ℚ) * 10 ^ (lead + 1 - n) =
      m * 2 ^ e - (a' % b' : ℕ) / b' * 10 ^ (lead + 1 - n) := by
    have := hval
    rw [hsplit, div_eq_iff hb'q.ne', div_mul_eq_mul_div, eq_div_iff hs0.ne'] at this
    field_simp
    linarith
  have hrem0 : (0 : ℚ) ≤ (a' % b' : ℕ) / b' := by positivity
  have hrem1 : ((a' % b' : ℕ) : ℚ) / b' < 1 := (div_lt_one hb'q).2 hrem
  by_cases hin : (lo : ℚ) * 2 ^ j < ((a' / b' : ℕ) : ℚ) * 10 ^ (lead + 1 - n)
  · have hdownIn : inInterval closed lo hi j (a' / b') (lead + 1 - n) = true := by
      refine inInterval_iff.2 (within_of_lt hin ?_)
      have : 0 ≤ ((a' % b' : ℕ) : ℚ) / b' * 10 ^ (lead + 1 - n) := by positivity
      linarith
    split_ifs <;> simp_all
  · have hpos : 0 < a' % b' := by
      rcases Nat.eq_zero_or_pos (a' % b') with h0 | h0
      · rw [h0, Nat.cast_zero, zero_div, zero_mul, sub_zero] at hdown
        exact absurd (hdown ▸ hlo) hin
      · exact h0
    have hupIn : inInterval closed lo hi j (a' / b' + 1) (lead + 1 - n) = true := by
      refine inInterval_iff.2 (within_of_lt ?_ ?_)
      · push_cast
        have : ((a' % b' : ℕ) : ℚ) / b' * 10 ^ (lead + 1 - n) < 10 ^ (lead + 1 - n) := by
          nlinarith
        nlinarith
      · push_cast
        nlinarith
    have hne : a' % b' ≠ 0 := by omega
    split_ifs <;> simp_all

/-! ### The shortest digits lie in the rounding interval -/

/-- The lower end of the rounding interval of the significand `m`, in quarters of
`2 ^ exponent f`: half a gap below, but a quarter at the bottom of a binade above the least
normal number, where the gap below is half as wide. -/
def lowQuarters (f m : ℕ) : ℕ :=
  if m = 2 ^ 52 ∧ 1 < f then 4 * m - 1 else 4 * m - 2

/-- The rationals that read as the positive finite number of field `f` and significand `m`:
within half the gap to each neighbour, the ends included when `m` is even, since a tie then
goes to `m`. -/
def RoundsTo (f m : ℕ) (x : ℚ) : Prop :=
  Within (m % 2 == 0) ((lowQuarters f m : ℕ) * 2 ^ (exponent f - 2))
    ((4 * m + 2 : ℕ) * 2 ^ (exponent f - 2)) x

/-- **Dropping trailing zeros keeps the value.** -/
theorem dropTrailingZeros_value {c : ℕ} (hc : 0 < c) (k : ℤ) :
    0 < (dropTrailingZeros c k).1 ∧
      ((dropTrailingZeros c k).1 : ℚ) * 10 ^ (dropTrailingZeros c k).2 = c * 10 ^ k := by
  obtain ⟨D, F, t, hsplit, hsig, -, -⟩ := Text.significant_chars hc
  obtain ⟨hc', -⟩ := Decimal.chars_significant hc hsplit
  have hkept : ((Numeral.chars 10 false c).reverse.dropWhile (· = '0')).reverse = D :: F := hsig
  have hlen : (Numeral.chars 10 false c).length - (D :: F).length = t := by
    rw [hsplit]
    simp
  unfold dropTrailingZeros
  dsimp only
  rw [hkept, hlen]
  refine ⟨Nat.pos_of_ne_zero fun h => by rw [h, Nat.zero_mul] at hc'; omega, ?_⟩
  rw [hc', Nat.cast_mul, Nat.cast_pow, zpow_add₀ (by norm_num), zpow_natCast]
  ring

/-- The neighbours of the candidates and the width of the interval, in quarters: the grid of
seventeen digits is finer than the interval is wide. -/
theorem four_mul_lt_width {f m : ℕ} (hm : 0 < m) (hm53 : m < 2 ^ 53) :
    lowQuarters f m < 4 * m ∧ 4 * m < (4 * m + 2 - lowQuarters f m) * 10 ^ 16 := by
  unfold lowQuarters
  split_ifs with hn
  · obtain ⟨rfl, -⟩ := hn
    norm_num
  · have : 2 ^ 53 < 10 ^ 16 := by norm_num
    omega

/-- **Seventeen digits always give a candidate**: the grid of seventeen significant digits is
finer than the rounding interval is wide. -/
theorem candidate_seventeen_isSome {f m a b : ℕ} (hm : 0 < m) (hm53 : m < 2 ^ 53) (ha : 0 < a)
    (hb : 0 < b) (hab : (a : ℚ) / b = m * 2 ^ exponent f) :
    (candidate m (exponent f) (Round.leadExponent a b) (m % 2 == 0) (lowQuarters f m)
      (4 * m + 2) (exponent f - 2) (16 + 1)).isSome := by
  obtain ⟨hlow, hwide⟩ := four_mul_lt_width (f := f) hm hm53
  have hP : (0 : ℚ) < 2 ^ (exponent f - 2) := zpow_pos (by norm_num) _
  have hvalue : (m : ℚ) * 2 ^ exponent f = 4 * m * 2 ^ (exponent f - 2) := by
    rw [show exponent f = exponent f - 2 + 2 by ring, zpow_add₀ (by norm_num)]
    ring_nf
  have hlead := (Round.leadExponent_spec ha hb).1
  rw [hab] at hlead
  have hlowq : ((lowQuarters f m : ℕ) : ℚ) < 4 * m := by exact_mod_cast hlow
  have hwideq : (4 * m : ℚ) < ((4 * m + 2 - lowQuarters f m : ℕ) : ℚ) * 10 ^ 16 := by
    exact_mod_cast hwide
  apply candidate_isSome
  · rw [hvalue]
    exact mul_lt_mul_of_pos_right hlowq hP
  · rw [hvalue]
    push_cast
    exact mul_lt_mul_of_pos_right (by linarith) hP
  · -- ten to the lead less sixteen is below the width of the interval
    have hW : ((4 * m + 2 : ℕ) : ℚ) * 2 ^ (exponent f - 2) -
        (lowQuarters f m : ℚ) * 2 ^ (exponent f - 2) =
        ((4 * m + 2 - lowQuarters f m : ℕ) : ℚ) * 2 ^ (exponent f - 2) := by
      rw [Nat.cast_sub (by omega)]
      ring
    have hgrid : (10 : ℚ) ^ (Round.leadExponent a b + 1 - ((16 + 1 : ℕ) : ℤ)) * 10 ^ 16 =
        10 ^ Round.leadExponent a b := by
      rw [← zpow_natCast, ← zpow_add₀ (by norm_num)]
      congr 1
      push_cast
      ring
    rw [hW]
    refine lt_of_mul_lt_mul_right ?_ (by norm_num : (0 : ℚ) ≤ 10 ^ 16)
    calc (10 : ℚ) ^ (Round.leadExponent a b + 1 - ((16 + 1 : ℕ) : ℤ)) * 10 ^ 16
        = 10 ^ Round.leadExponent a b := hgrid
      _ ≤ 4 * m * 2 ^ (exponent f - 2) := by rw [← hvalue]; exact hlead
      _ < ((4 * m + 2 - lowQuarters f m : ℕ) : ℚ) * 10 ^ 16 * 2 ^ (exponent f - 2) :=
        mul_lt_mul_of_pos_right hwideq hP
      _ = ((4 * m + 2 - lowQuarters f m : ℕ) : ℚ) * 2 ^ (exponent f - 2) * 10 ^ 16 := by ring

/-- **The shortest digits of a positive significand lie in its rounding interval.** Seventeen
digits always give a candidate, so the search never falls back. -/
theorem shortestOf_roundsTo {f m : ℕ} (hm : 0 < m) (hm53 : m < 2 ^ 53) :
    0 < (shortestOf f m).1 ∧ RoundsTo f m ((shortestOf f m).1 * 10 ^ (shortestOf f m).2) := by
  have hlo : (if (m = Nat.pow 2 52 && f > 1) = true then 4 * m - 1 else 4 * m - 2) =
      lowQuarters f m := by
    simp [lowQuarters, Nat.pow_eq]
  unfold shortestOf
  dsimp only
  rw [hlo]
  rcases hs : scale2 m 1 (exponent f) with ⟨a, b⟩
  dsimp only
  have hab : (a : ℚ) / b = m * 2 ^ exponent f := by
    have h := scale2_div m 1 (exponent f)
    rw [hs, Nat.cast_one, div_one] at h
    exact h
  have hb : 0 < b := by
    have := scale2_pos (n := m) Nat.one_pos (exponent f)
    rwa [hs] at this
  have ha : 0 < a := by
    have : (0 : ℚ) < a / b := by rw [hab]; positivity
    exact_mod_cast (div_pos_iff_of_pos_right (by exact_mod_cast hb)).1 this
  obtain ⟨⟨c, k⟩, hfound⟩ : ∃ ck, (List.range 17).findSome?
      (fun i => candidate m (exponent f) (Round.leadExponent a b) (m % 2 == 0)
        (lowQuarters f m) (4 * m + 2) (exponent f - 2) (i + 1)) = some ck :=
    Option.isSome_iff_exists.1 (List.findSome?_isSome_iff.2
      ⟨16, List.mem_range.2 (by norm_num), candidate_seventeen_isSome hm hm53 ha hb hab⟩)
  obtain ⟨i, -, hi⟩ := List.exists_of_findSome?_eq_some hfound
  have hw := candidate_within hi
  have hc : 0 < c := by
    have hlo2 : (2 : ℚ) ≤ lowQuarters f m := by
      have : 2 ≤ lowQuarters f m := by unfold lowQuarters; split_ifs <;> omega
      exact_mod_cast this
    have hP : (0 : ℚ) < 2 ^ (exponent f - 2) := zpow_pos (by norm_num) _
    rcases Nat.eq_zero_or_pos c with rfl | hc
    · have := hw.bounds.1
      rw [Nat.cast_zero, zero_mul] at this
      exact absurd this (not_le.2 (mul_pos (by linarith) hP))
    · exact hc
  rw [hfound]
  obtain ⟨hpos, hval⟩ := dropTrailingZeros_value hc k
  exact ⟨hpos, by rw [Option.getD_some, hval]; exact hw⟩

/-- The significand of a finite number: its fraction below the least normal number, with the
hidden bit above it, and below `2 ^ 53` either way. -/
theorem significand_cases (f : Fin 2047) (fr : Fin (Nat.pow 2 52)) :
    (f.val = 0 ∧ significand f fr = fr ∧ exponent f = -1074) ∨
      (1 ≤ f.val ∧ significand f fr = 2 ^ 52 + fr ∧ exponent f = f.val - 1075) := by
  unfold significand exponent
  rcases Nat.eq_zero_or_pos f.val with h | h
  · left
    simp [h]
  · right
    refine ⟨h, by simp [Nat.pos_iff_ne_zero.1 h, Nat.pow_eq], ?_⟩
    rw [Nat.max_eq_left h]

theorem significand_lt (f : Fin 2047) (fr : Fin (Nat.pow 2 52)) : significand f fr < 2 ^ 53 := by
  have hfr : fr.val < 2 ^ 52 := fr.isLt
  rcases significand_cases f fr with ⟨-, h, -⟩ | ⟨-, h, -⟩ <;> rw [h] <;> omega

/-- **The repr digits of a positive number lie in its rounding interval**, and those of a zero
are zero. -/
theorem reprDecimal_roundsTo (f : Fin 2047) (fr : Fin (Nat.pow 2 52)) :
    (significand f fr = 0 → reprDecimal f fr = (0, -1)) ∧
      (0 < significand f fr → 0 < (reprDecimal f fr).1 ∧
        RoundsTo f (significand f fr) ((reprDecimal f fr).1 * 10 ^ (reprDecimal f fr).2)) := by
  refine ⟨fun h0 => by simp [reprDecimal, shortest, h0], fun hm => ?_⟩
  obtain ⟨hc, hin⟩ := shortestOf_roundsTo hm (significand_lt f fr)
  unfold reprDecimal shortest
  dsimp only
  rw [if_neg (Nat.pos_iff_ne_zero.1 hm)]
  rcases hsh : shortestOf f (significand f fr) with ⟨c, k⟩
  rw [hsh] at hc hin
  dsimp only at hc hin ⊢
  rw [if_neg (Nat.pos_iff_ne_zero.1 hc)]
  split_ifs with hpoint
  · refine ⟨Nat.mul_pos hc (Nat.pow_pos (by omega)), ?_⟩
    have hk : 0 ≤ k := by simp at hpoint; omega
    have hexp : (k + Round.decimalLength c - Round.decimalLength c + 1).toNat = k.toNat + 1 := by
      omega
    convert hin using 1
    rw [hexp, Nat.cast_mul, Nat.pow_eq, Nat.cast_pow, pow_succ, ← zpow_natCast,
      Int.toNat_of_nonneg hk, zpow_neg_one]
    field_simp
    push_cast
    ring
  · exact ⟨hc, hin⟩

/-! ### Reading a number of the rounding interval -/

/-- Powers of two around `2 ^ (E - 2)`, the quarter of `2 ^ E`. -/
theorem two_zpow_quarter (E c : ℤ) : (2 : ℚ) ^ (E + c) = 2 ^ (c + 2) * 2 ^ (E - 2) := by
  rw [← zpow_add₀ (by norm_num)]
  ring_nf

/-- The rounding interval in quarters of `2 ^ E`: from `lowQuarters f m` to `4 m + 2`. -/
theorem roundsTo_quarters {f m : ℕ} {u : ℚ} :
    RoundsTo f m (u * 2 ^ (exponent f - 2)) ↔
      Within (m % 2 == 0) (lowQuarters f m) (4 * m + 2 : ℕ) u := by
  have hP : (0 : ℚ) < 2 ^ (exponent f - 2) := zpow_pos (by norm_num) _
  unfold RoundsTo Within
  split_ifs
  · rw [mul_le_mul_iff_of_pos_right hP, mul_le_mul_iff_of_pos_right hP]
  · rw [mul_lt_mul_iff_of_pos_right hP, mul_lt_mul_iff_of_pos_right hP]

/-- **What reads as a finite number.** A rational in the rounding interval of a positive
significand `m` lies below `2 ^ (E + 53)`, and either it rounds half to even to `m` at the
exponent `E`, lying above `2 ^ (E + 52)` unless `E` is the least exponent, or `m` is the bottom
of a binade above the least normal number and the rational lies in the quarter gap below it,
where it rounds to `2 ^ 53` at the exponent `E - 1`. -/
theorem roundsTo_cases {f : Fin 2047} {fr : Fin (Nat.pow 2 52)} {q : ℚ}
    (hm : 0 < significand f fr) (hq : RoundsTo f (significand f fr) q) :
    (q < 2 ^ (exponent f + 53) ∧ (q < 2 ^ (exponent f + 52) → exponent f = -1074) ∧
        Round.RoundsHalfEven (q * 2 ^ (-exponent f)) (significand f fr)) ∨
      (significand f fr = 2 ^ 52 ∧ 1 < f.val ∧ 2 ^ (exponent f + 51) ≤ q ∧
        q < 2 ^ (exponent f + 52) ∧
        Round.RoundsHalfEven (q * 2 ^ (-(exponent f - 1))) (2 ^ 53)) := by
  have hm53 := significand_lt f fr
  have hfr : fr.val < 2 ^ 52 := fr.isLt
  have hP : (0 : ℚ) < 2 ^ (exponent f - 2) := zpow_pos (by norm_num) _
  obtain ⟨u, rfl⟩ : ∃ u : ℚ, q = u * 2 ^ (exponent f - 2) :=
    ⟨q / 2 ^ (exponent f - 2), (div_mul_cancel₀ q hP.ne').symm⟩
  have hq4 : u * 2 ^ (exponent f - 2) * 2 ^ (-exponent f) = u / 4 := by
    rw [mul_assoc, ← zpow_add₀ (by norm_num), show exponent f - 2 + -exponent f = -2 by ring]
    norm_num
    ring
  have hq2 : u * 2 ^ (exponent f - 2) * 2 ^ (-(exponent f - 1)) = u / 2 := by
    rw [mul_assoc, ← zpow_add₀ (by norm_num),
      show exponent f - 2 + -(exponent f - 1) = -1 by ring]
    norm_num
    ring
  have hwithin := roundsTo_quarters.1 hq
  have hstrict : significand f fr % 2 ≠ 0 →
      (lowQuarters f (significand f fr) : ℚ) < u ∧
        u < ((4 * significand f fr + 2 : ℕ) : ℚ) := by
    intro hodd
    have h := hwithin
    unfold Within at h
    rwa [if_neg (by simpa using hodd)] at h
  obtain ⟨hlo, hhi⟩ := hwithin.bounds
  push_cast at hhi hstrict
  have h53 : (2 : ℚ) ^ (exponent f + 53) = 2 ^ 55 * 2 ^ (exponent f - 2) := by
    rw [two_zpow_quarter]
    norm_num
  have h52 : (2 : ℚ) ^ (exponent f + 52) = 2 ^ 54 * 2 ^ (exponent f - 2) := by
    rw [two_zpow_quarter]
    norm_num
  have h51 : (2 : ℚ) ^ (exponent f + 51) = 2 ^ 53 * 2 ^ (exponent f - 2) := by
    rw [two_zpow_quarter]
    norm_num
  have hm53q : (significand f fr : ℚ) + 1 ≤ 2 ^ 53 := by exact_mod_cast hm53
  have htop : u * 2 ^ (exponent f - 2) < 2 ^ (exponent f + 53) := by
    rw [h53]
    exact mul_lt_mul_of_pos_right (by linarith) hP
  by_cases hn : significand f fr = 2 ^ 52 ∧ 1 < f.val
  · have hlq : (lowQuarters f (significand f fr) : ℚ) = 4 * significand f fr - 1 := by
      rw [lowQuarters, if_pos hn, Nat.cast_sub (by omega)]
      push_cast
      ring
    have hm : (significand f fr : ℚ) = 2 ^ 52 := by exact_mod_cast hn.1
    rw [hlq, hm] at hlo
    rw [hm] at hhi
    by_cases hu : (2 : ℚ) ^ 54 ≤ u
    · refine .inl ⟨htop, fun h => absurd h (not_lt.2 ?_), ?_⟩
      · rw [h52]
        exact mul_le_mul_of_nonneg_right hu hP.le
      · rw [hq4]
        refine Round.roundsHalfEven_of_bounds ?_ ?_ fun _ => ⟨2 ^ 51, by rw [hn.1]; norm_num⟩
        · rw [hm]
          linarith
        · rw [hm]
          linarith
    · refine .inr ⟨hn.1, hn.2, ?_, ?_, ?_⟩
      · rw [h51]
        exact mul_le_mul_of_nonneg_right (by linarith) hP.le
      · rw [h52]
        exact mul_lt_mul_of_pos_right (not_le.1 hu) hP
      · rw [hq2]
        refine Round.roundsHalfEven_of_bounds ?_ ?_ fun _ => ⟨2 ^ 52, by norm_num⟩ <;>
          push_cast <;> linarith [not_le.1 hu]
  · have hlq : (lowQuarters f (significand f fr) : ℚ) = 4 * significand f fr - 2 := by
      rw [lowQuarters, if_neg hn, Nat.cast_sub (by omega)]
      push_cast
      ring
    rw [hlq] at hlo hstrict
    refine .inl ⟨htop, fun h => ?_, ?_⟩
    · -- only the least exponent reaches below `2 ^ (E + 52)`
      rw [h52] at h
      have hu : u < 2 ^ 54 := (mul_lt_mul_iff_of_pos_right hP).1 h
      rcases significand_cases f fr with ⟨-, -, hE⟩ | ⟨hf, hsig, hE⟩
      · exact hE
      · by_contra hne
        have hf1 : 1 < f.val := by omega
        have hbig : 2 ^ 52 + 1 ≤ significand f fr := by
          have : significand f fr ≠ 2 ^ 52 := fun h => hn ⟨h, hf1⟩
          omega
        have hbigq : (2 : ℚ) ^ 52 + 1 ≤ significand f fr := by exact_mod_cast hbig
        linarith
    · rw [hq4]
      refine Round.roundsHalfEven_of_bounds (by linarith) (by linarith) fun htie => ?_
      -- a tie is an end of the interval, which belongs to it only for an even `m`
      rw [Nat.even_iff]
      by_contra hodd
      obtain ⟨h1, h2⟩ := hstrict hodd
      rcases htie with h | h <;> linarith

theorem neg_1074_le_exponent (f : ℕ) : -1074 ≤ exponent f := by
  unfold exponent
  omega

/-- The leading power of two of a rational between two powers of two lies between them. -/
theorem lead_between {q : ℚ} {L a b : ℤ} (hL : 2 ^ L ≤ q) (hL' : q < 2 ^ (L + 1))
    (ha : 2 ^ a ≤ q) (hb : q < 2 ^ b) : a ≤ L ∧ L < b := by
  constructor
  · have := lt_of_le_of_lt ha hL'
    rw [zpow_lt_zpow_iff_right₀ (by norm_num)] at this
    omega
  · have := lt_of_le_of_lt hL hb
    rwa [zpow_lt_zpow_iff_right₀ (by norm_num)] at this

/-- **The exponent `ofQuotient` picks** for a quotient of the rounding interval: the number's
own, where the quotient rounds to its significand, or, in the quarter gap at the bottom of a
binade, the one below, where it rounds up to `2 ^ 53`. -/
theorem roundsTo_exponent {f : Fin 2047} {fr : Fin (Nat.pow 2 52)} {n d : ℕ} (hn : 0 < n)
    (hd : 0 < d) (hm : 0 < significand f fr)
    (hq : RoundsTo f (significand f fr) ((n : ℚ) / d)) :
    ∃ e M, max (leadExponent n d - 52) (-1074) = e ∧
      Round.RoundsHalfEven ((n : ℚ) / d * 2 ^ (-e)) M ∧
      ((e = exponent f ∧ M = significand f fr) ∨
        (e = exponent f - 1 ∧ M = 2 ^ 53 ∧ significand f fr = 2 ^ 52 ∧ 1 < f.val)) := by
  obtain ⟨hL1, hL2⟩ := leadExponent_spec hn hd
  have hE0 := neg_1074_le_exponent f
  rcases roundsTo_cases hm hq with ⟨htop, hmin, hr⟩ | ⟨hsig, hf1, hlo, hhi, hr⟩
  · have hle := (lead_between hL1 hL2 hL1 htop).2
    refine ⟨exponent f, _, ?_, hr, .inl ⟨rfl, rfl⟩⟩
    -- below `2 ^ (E + 52)` only at the least exponent, where the maximum takes it
    by_cases hlow : (n : ℚ) / d < 2 ^ (exponent f + 52)
    · have := hmin hlow
      omega
    · have hge := (lead_between hL1 hL2 (not_lt.1 hlow) htop).1
      omega
  · have hL := lead_between hL1 hL2 hlo hhi
    have hE : exponent f = f.val - 1075 := by
      unfold exponent
      omega
    refine ⟨exponent f - 1, _, ?_, hr, .inr ⟨rfl, rfl, hsig, hf1⟩⟩
    omega

/-- **Every quotient of the rounding interval reads as the number**: `ofQuotient` rounds it to
the finite number whose interval it lies in. -/
theorem ofQuotient_of_roundsTo (neg : Bool) {f : Fin 2047} {fr : Fin (Nat.pow 2 52)} {n d : ℕ}
    (hn : 0 < n) (hd : 0 < d) (hm : 0 < significand f fr)
    (hq : RoundsTo f (significand f fr) ((n : ℚ) / d)) :
    ofQuotient neg n d = finite neg f fr := by
  have hfr : fr.val < 2 ^ 52 := fr.isLt
  have hm53 := significand_lt f fr
  obtain ⟨e, M, he, hround, hcases⟩ := roundsTo_exponent hn hd hm hq
  unfold ofQuotient
  rw [if_neg (Nat.pos_iff_ne_zero.1 hn)]
  dsimp only
  rw [he]
  rcases hs : scale2 n d (-e) with ⟨a, b⟩
  dsimp only
  have hb : 0 < b := by
    have := scale2_pos (n := n) hd (-e)
    rwa [hs] at this
  have hab : (a : ℚ) / b = n / d * 2 ^ (-e) := by rw [← scale2_div, hs]
  have hM : Round.halfEven a b = M :=
    (Round.halfEven_rounds a hb).unique (by rw [hab]; exact hround)
  rw [hM]
  have hcarry : (if M = Nat.pow 2 53 then (Nat.pow 2 52, e + 1) else (M, e)) =
      (significand f fr, exponent f) := by
    rcases hcases with ⟨rfl, rfl⟩ | ⟨rfl, rfl, hsig, -⟩
    · rw [if_neg (show significand f fr ≠ Nat.pow 2 53 from fun h => by
        change _ = 2 ^ 53 at h
        omega)]
    · rw [if_pos (show (2 : ℕ) ^ 53 = Nat.pow 2 53 from rfl), hsig, sub_add_cancel]
      rfl
  rw [hcarry]
  dsimp only
  have e52 : Nat.pow 2 52 = 2 ^ 52 := Nat.pow_eq
  rcases significand_cases f fr with ⟨hf0, hsig, -⟩ | ⟨hf1, hsig, hE⟩
  · have hlt : significand f fr < Nat.pow 2 52 := by omega
    rw [dif_pos hlt, finite.injEq]
    exact ⟨rfl, Fin.ext hf0.symm, Fin.ext hsig⟩
  · have hge : ¬ significand f fr < Nat.pow 2 52 := by omega
    have hfield : (exponent f + 1075).toNat = f.val := by rw [hE]; omega
    have hf : (exponent f + 1075).toNat < 2047 := by rw [hfield]; exact f.isLt
    have hfrac : significand f fr - Nat.pow 2 52 < Nat.pow 2 52 := by omega
    rw [dif_neg hge, dif_pos hf, dif_pos hfrac, finite.injEq]
    exact ⟨rfl, Fin.ext hfield,
      Fin.ext (show significand f fr - Nat.pow 2 52 = fr.val by omega)⟩

/-- Powers of two below powers of ten, by `2 ^ 3 < 10`. -/
theorem two_pow_lt_ten_pow {a b : ℕ} (h : a ≤ 3 * b) (hb : 0 < b) : (2 : ℚ) ^ a < 10 ^ b :=
  calc (2 : ℚ) ^ a ≤ 2 ^ (3 * b) := pow_le_pow_right₀ (by norm_num) h
    _ = 8 ^ b := by rw [pow_mul]; norm_num
    _ < 10 ^ b := pow_lt_pow_left₀ (by norm_num) (by norm_num) hb.ne'

theorem exponent_le (f : Fin 2047) : exponent f ≤ 971 := by
  have := f.isLt
  unfold exponent
  omega

/-- **Every decimal number of the rounding interval reads as the number**: far from the finite
range as it may look, its leading digit is within the bounds where `ofScientific` computes. -/
theorem ofScientific_of_roundsTo (neg : Bool) {f : Fin 2047} {fr : Fin (Nat.pow 2 52)} {c : ℕ}
    {k : ℤ} (hc : 0 < c) (hm : 0 < significand f fr)
    (hq : RoundsTo f (significand f fr) ((c : ℚ) * 10 ^ k)) :
    ofScientific neg c k = finite neg f fr := by
  have hE0 := neg_1074_le_exponent f
  have hE1 := exponent_le f
  obtain ⟨hdlo, hdhi⟩ := Round.decimalLength_zpow_bounds hc k
  have htop : (c : ℚ) * 10 ^ k < 2 ^ (1024 : ℤ) := by
    have h := (roundsTo_cases hm hq).elim (fun h => h.1) fun h => lt_trans h.2.2.2.1
      (zpow_lt_zpow_right₀ (by norm_num) (by omega))
    exact lt_of_lt_of_le h (zpow_le_zpow_right₀ (by norm_num) (by omega))
  have hbottom : (2 : ℚ) ^ (-1075 : ℤ) ≤ c * 10 ^ k := by
    have h := hq.bounds.1
    have hlq : 2 ≤ lowQuarters f (significand f fr) := by unfold lowQuarters; split_ifs <;> omega
    have hlq' : (2 : ℚ) ≤ lowQuarters f (significand f fr) := by exact_mod_cast hlq
    calc (2 : ℚ) ^ (-1075 : ℤ) = 2 * 2 ^ (-1076 : ℤ) := by
          rw [show (-1075 : ℤ) = 1 + -1076 by norm_num, zpow_add₀ (by norm_num), zpow_one]
      _ ≤ lowQuarters f (significand f fr) * 2 ^ (exponent f - 2) :=
        mul_le_mul hlq' (zpow_le_zpow_right₀ (by norm_num) (by omega)) (by positivity)
          (by positivity)
      _ ≤ c * 10 ^ k := h
  unfold ofScientific
  dsimp only
  rw [if_neg (Nat.pos_iff_ne_zero.1 hc)]
  rw [if_neg, if_neg]
  · obtain ⟨hd, hval⟩ : 0 < (Decimal.quotient c k).2 ∧
        ((Decimal.quotient c k).1 : ℚ) / (Decimal.quotient c k).2 = c * 10 ^ k :=
      ⟨Round.scale_pos Nat.one_pos k,
        by rw [Decimal.quotient, Round.scale_div, Nat.cast_one, div_one]⟩
    have hn : 0 < (Decimal.quotient c k).1 := by
      have : (0 : ℚ) < (Decimal.quotient c k).1 / (Decimal.quotient c k).2 := by
        rw [hval]
        positivity
      exact_mod_cast (div_pos_iff_of_pos_right (by exact_mod_cast hd)).1 this
    rw [← hval] at hq
    exact ofQuotient_of_roundsTo neg hn hd hm hq
  · intro hlead
    have : (10 : ℚ) ^ (k + Round.decimalLength c - 1 + 1) ≤ 10 ^ (-401 : ℤ) :=
      zpow_le_zpow_right₀ (by norm_num) (by omega)
    have hsmall : (10 : ℚ) ^ (-401 : ℤ) < 2 ^ (-1075 : ℤ) := by
      rw [zpow_neg, zpow_neg, inv_lt_inv₀ (by positivity) (by positivity), zpow_ofNat,
        zpow_ofNat]
      exact two_pow_lt_ten_pow (by norm_num) (by norm_num)
    exact lt_irrefl _ (lt_of_le_of_lt hbottom ((hdhi.trans_le this).trans hsmall))
  · intro hlead
    have : (10 : ℚ) ^ (400 : ℤ) ≤ 10 ^ (k + Round.decimalLength c - 1) :=
      zpow_le_zpow_right₀ (by norm_num) (by omega)
    have hbig : (2 : ℚ) ^ (1024 : ℤ) < 10 ^ (400 : ℤ) := by
      rw [zpow_ofNat, zpow_ofNat]
      exact two_pow_lt_ten_pow (by norm_num) (by norm_num)
    exact lt_irrefl _ (lt_of_le_of_lt (this.trans hdlo) (htop.trans hbig))

/-! ### Reading the text back -/

theorem underscoresBetweenDigits_of_not_mem {cs : List Char} (h : '_' ∉ cs) :
    underscoresBetweenDigits cs = true := by
  fun_induction underscoresBetweenDigits cs with
  | case1 a b rest ih => simp at h
  | case2 rest => simp at h
  | case3 c rest h1 h2 ih => exact ih (fun hm => h (List.mem_cons_of_mem c hm))
  | case4 => rfl

/-- A literal whose sign, if any, is read off before a digit, with no underscore, is read as the
binary64 number nearest to its digits, under that sign. -/
theorem readAscii_of_readSign {sign : List Char} {neg : Bool} {d : Char} (hd : d.isDigit = true)
    {rest : List Char} (hu : '_' ∉ d :: rest)
    (hsign : Decimal.readSign (sign ++ d :: rest) = (neg, d :: rest)) :
    readAscii (sign ++ d :: rest) =
      (Decimal.readFinite (d :: rest)).map fun (c, x) => ofScientific neg c x := by
  have hkeep : (d :: rest).filter (· ≠ '_') = d :: rest :=
    List.filter_eq_self.2 fun c hc => by
      have hne : c ≠ '_' := fun h => hu (h ▸ hc)
      simpa using hne
  rw [readAscii, hsign]
  dsimp only
  rw [underscoresBetweenDigits_of_not_mem hu, hkeep]
  simp [Text.toLower_of_isDigit hd, Text.ne_of_isDigit hd (l := 'i') rfl,
    Text.ne_of_isDigit hd (l := 'n') rfl]

/-- A literal of a sign or none, then a digit, and no underscore, is read as a finite number. -/
theorem readAscii_signed_digits (neg : Bool) {d : Char} (hd : d.isDigit = true)
    {rest : List Char} (hu : '_' ∉ d :: rest) :
    readAscii ((if neg then ['-'] else []) ++ d :: rest) =
      (Decimal.readFinite (d :: rest)).map fun (c, x) => ofScientific neg c x := by
  refine readAscii_of_readSign hd hu ?_
  cases neg
  · exact Decimal.readSign_of_isDigit hd rest
  · rfl

/-- **The scientific text reads as its digits**, under its sign. -/
theorem read_scientific (neg : Bool) {D : Char} {F : List Char} (hD : D.isDigit = true)
    (hF : ∀ f ∈ F, f.isDigit = true) (i : ℤ) :
    read (String.ofList ((if neg then ['-'] else []) ++
        ((if F = [] then [D] else D :: '.' :: F) ++ 'e' :: (Numeral.signed i).toList))) =
      .ok (ofScientific neg (Decimal.digitsValue (D :: F)) (i - F.length)) := by
  have hchars := Text.numeralChar_of_mem_scientific hD hF i
  have hall : ∀ c ∈ (if neg then ['-'] else []) ++
      ((if F = [] then [D] else D :: '.' :: F) ++ 'e' :: (Numeral.signed i).toList),
      c.toNat < 128 ∧ Integer.isAsciiBlank c = false := by
    intro c hc
    have hnum : Text.NumeralChar c := by
      rcases List.mem_append.1 hc with hc | hc
      · split_ifs at hc
        · exact Text.numeralChar_mark (.inr (.inr (List.mem_singleton.1 hc)))
        · cases hc
      · exact hchars c hc
    exact ⟨by have := hnum.2.1; omega, hnum.plain.2.1⟩
  obtain ⟨rest, hrest⟩ : ∃ rest, (if F = [] then [D] else D :: '.' :: F) ++
      'e' :: (Numeral.signed i).toList = D :: rest := by
    split_ifs <;> exact ⟨_, rfl⟩
  have hu : '_' ∉ D :: rest := fun h => by
    have := (hchars '_' (hrest ▸ h)).2.2
    exact this rfl
  rw [read, String.toList_ofList, Text.trimAsciiBlanks_map_asciiNumeral hall, hrest,
    readAscii_signed_digits neg hD hu, ← hrest, Decimal.readFinite_scientific hD hF]
  rfl

/-- A binary64 number whose significand is zero is a zero: both its fields are zero. -/
theorem eq_zero_of_significand {f : Fin 2047} {fr : Fin (Nat.pow 2 52)}
    (h0 : significand f fr = 0) : f = 0 ∧ fr = 0 := by
  rcases significand_cases f fr with ⟨hf, h, -⟩ | ⟨-, h, -⟩
  · exact ⟨Fin.ext hf, Fin.ext (by rw [← h, h0]; rfl)⟩
  · omega

/-- **The shortest scientific text of a finite number reads as the number**, under its sign; a
zero is written `0e0`. -/
theorem read_reprScientific (neg : Bool) (f : Fin 2047) (fr : Fin (Nat.pow 2 52)) :
    read ((if neg then "-" else "") ++
      Decimal.scientific (reprDecimal f fr).1 (reprDecimal f fr).2 none "e") =
      .ok (finite neg f fr) := by
  rw [← String.ofList_toList (s := _ ++ _), String.toList_append,
    show (if neg then "-" else "").toList = if neg then ['-'] else [] by cases neg <;> rfl]
  rcases Nat.eq_zero_or_pos (significand f fr) with h0 | hm
  · obtain ⟨hf, hfr⟩ := eq_zero_of_significand h0
    rw [(reprDecimal_roundsTo f fr).1 h0, Decimal.scientific_zero_none]
    have h := read_scientific neg (D := '0') (F := []) rfl (by simp) 0
    simp only [↓reduceIte] at h
    rw [show ("0" ++ "e" ++ "0").toList = ['0'] ++ 'e' :: (Numeral.signed 0).toList from rfl, h,
      hf, hfr]
    rfl
  · obtain ⟨hc, hq⟩ := (reprDecimal_roundsTo f fr).2 hm
    obtain ⟨D, F, t, hsplit, -, -, hlay⟩ := Decimal.scientific_none hc (reprDecimal f fr).2 "e"
    have hcval := (Decimal.chars_significant hc hsplit).1
    obtain ⟨hD, hF⟩ := Text.isDigit_of_significant hsplit
    have hlen :
        ((Numeral.chars 10 false (reprDecimal f fr).1).length : ℤ) = F.length + 1 + t := by
      rw [hsplit]
      simp
      omega
    rw [hlay, show "e".toList = ['e'] from rfl, List.append_assoc, List.singleton_append,
      read_scientific neg hD hF]
    congr 1
    have hpos : 0 < Decimal.digitsValue (D :: F) := by
      rcases Nat.eq_zero_or_pos (Decimal.digitsValue (D :: F)) with h | h
      · rw [h, zero_mul] at hcval
        omega
      · exact h
    refine ofScientific_of_roundsTo neg hpos hm ?_
    convert hq using 1
    rw [hlen, show (reprDecimal f fr).2 + (F.length + 1 + t) - 1 - F.length =
      t + (reprDecimal f fr).2 by omega, zpow_add₀ (by norm_num), zpow_natCast, hcval]
    push_cast
    ring

end Binary64

/-- A placeholder without a width writes the text of its rendering. -/
theorem Piece.render_slot_of_render {spec : Spec} {b : Bound} {p : Option ℕ} {o : ℕ}
    {r : Rendered} (h : b.render spec p o = .ok r) :
    (Piece.slot spec b none p o).render = .ok r.text := by
  simp only [Piece.render, h, bind, Except.bind, Rendered.padFault?, pure, Except.pure,
    Rendered.pad_none]

/-- Under `e` without a precision, a finite binary64 number renders as its sign and the
scientific layout of its shortest digits. -/
theorem Bound.render_float_lowerExp (neg : Bool) (f : Fin 2047) (fr : Fin (Nat.pow 2 52))
    (offset : ℕ) :
    ((Value.float (.finite neg f fr)).bind Option.none).render { conversion := .lowerExp } none
      offset = .ok ⟨if neg then "-" else "", "",
        Decimal.scientific (Binary64.reprDecimal f fr).1 (Binary64.reprDecimal f fr).2 none "e",
        true, true⟩ := by
  rw [Bound.render_float, if_pos (by decide)]
  rcases h : Binary64.reprDecimal f fr with ⟨c, k⟩
  simp [Rendered.ofBinary64, Rendered.marker?, Rendered.signOf, h, Except.mapError]

/-- **A finite binary64 number under `{:e}` reads back as itself**, its sign included. -/
theorem float_lowerExp_reads_back (neg : Bool) (f : Fin 2047) (fr : Fin (Nat.pow 2 52))
    (offset : ℕ) :
    ∃ s, (Piece.slot { conversion := .lowerExp }
        ((Value.float (.finite neg f fr)).bind Option.none) none none offset).render = .ok s ∧
      Binary64.read s = .ok (.finite neg f fr) := by
  refine ⟨_, Piece.render_slot_of_render (Bound.render_float_lowerExp neg f fr offset), ?_⟩
  simpa [Rendered.text] using Binary64.read_reprScientific neg f fr

/-! ### The exponent layouts -/

/-- **The scientific layouts keep the value.** Without a precision, a positive coefficient is
laid out as its significant digits, a point after the first when there are others, the marker,
and the power of ten of the first digit; zero as `0`, the marker and `0`. Every number of the
range of exponents reads back from its layout under `e` as a decimal number of the same value.
The exponent has a minus sign only when negative, no plus sign and no leading zero. With a
precision `p` the mantissa has `p` fraction digits and lies between `1` and `10`, or is zero,
and with the exponent it is the number rounded half to even to `p + 1` significant digits. So
a finite binary64 number under `{:e}` reads back as itself, and a nonzero integer under `{:e}`
keeps every significant digit. -/
theorem scientific_layouts_keep_value :
    (∀ (c : ℕ) (x : ℤ) (marker : String), 0 < c →
      ∃ D F t, Numeral.chars 10 false c = D :: F ++ List.replicate t '0' ∧
        D.isDigit = true ∧ D ≠ '0' ∧ (∀ d ∈ F, d.isDigit = true) ∧
        (∀ l ∈ (D :: F).getLast?, l ≠ '0') ∧
        (Decimal.scientific c x none marker).toList = (if F = [] then [D] else D :: '.' :: F) ++
          marker.toList ++ (Numeral.signed (x + (Numeral.chars 10 false c).length - 1)).toList) ∧
    (∀ (x : ℤ) (marker : String), Decimal.scientific 0 x none marker = "0" ++ marker ++ "0") ∧
    (∀ (c : ℕ) (x : ℤ), Decimal.inRange c x = true →
      ∃ c' x', Decimal.read (Decimal.scientific c x none "e") = .ok (.finite false c' x') ∧
        (c' : ℚ) * 10 ^ x' = c * 10 ^ x) ∧
    (∀ i : ℤ, ∃ ds, (Numeral.signed i).toList = (if i < 0 then ['-'] else []) ++ ds ∧
      (∀ d ∈ ds, d.isDigit = true) ∧ (i ≠ 0 → ∀ d ∈ ds.head?, d ≠ '0') ∧
      Decimal.readExponent (Numeral.signed i).toList = some i) ∧
    (∀ (c : ℕ) (x : ℤ) (p : ℕ) (marker : String), ∃ mant i M,
      (Decimal.scientific c x (some p) marker).toList =
        mant ++ marker.toList ++ (Numeral.signed i).toList ∧ Round.FixedNumeral M p mant ∧
      if c = 0 then M = 0 ∧ i = 0 else
        10 ^ p ≤ M ∧ M < 10 ^ (p + 1) ∧
          Round.RoundsToSignificant ((c : ℚ) * 10 ^ x) p ((M : ℚ) / 10 ^ p * 10 ^ i)) ∧
    (∀ (neg : Bool) (f : Fin 2047) (fr : Fin (Nat.pow 2 52)) (offset : ℕ), ∃ s,
      (Piece.slot { conversion := .lowerExp } ((Value.float (.finite neg f fr)).bind Option.none)
        none none offset).render = .ok s ∧ Binary64.read s = .ok (.finite neg f fr)) ∧
    (∀ n : ℤ, n ≠ 0 → ∀ offset : ℕ,
      ∃ D F t, Numeral.chars 10 false n.natAbs = D :: F ++ List.replicate t '0' ∧ D ≠ '0' ∧
        (∀ l ∈ (D :: F).getLast?, l ≠ '0') ∧
        ∃ r, ((Value.int n).bind Option.none).render { conversion := .lowerExp } none offset =
            .ok r ∧ r.sign = (if n < 0 then "-" else "") ∧
          r.body.toList = (if F = [] then [D] else D :: '.' :: F) ++
            'e' :: (Numeral.signed (F.length + t)).toList) := by
  refine ⟨fun c x marker hc => ?_, Decimal.scientific_zero_none,
    fun c x hr => Decimal.read_scientific_none hr, Decimal.signed_exponent_text,
    Decimal.scientific_some_rounds, float_lowerExp_reads_back,
    fun n hn offset => Bound.render_int_lowerExp hn offset⟩
  obtain ⟨D, F, t, hsplit, hD0, hlast, hlay⟩ := Decimal.scientific_none hc x marker
  obtain ⟨hD, hF⟩ := Text.isDigit_of_significant hsplit
  exact ⟨D, F, t, hsplit, hD, hD0, hF, hlast, hlay⟩

end BraceFormat
