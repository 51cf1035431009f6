import BraceFormat.Proofs.FixedPoint
/-!
# Scientific layouts of decimal numbers

The scientific layout of a magnitude `c · 10 ^ x` is a mantissa with one digit before the point,
a marker and the power of ten of that digit. Without a precision the mantissa keeps exactly the
significant digits of the coefficient, the trailing zeros dropped; with precision `p` it is the
coefficient rounded half to even to `p + 1` significant digits, with exactly `p` fraction digits,
and a rounding that carries into a new digit moves the power up (`9.99` at `p = 1` is `1.0e1`).
The exponent is written with `-` when negative, no `+` and no leading zeros.

Reading is the other half: the mantissa, `e` and the exponent read as a decimal number of the
same value, whenever the number lies in the range of exponents.

## Main results

* `Decimal.scientific_none`, `Decimal.read_scientific`: the layout without a precision, and its
  reading.
* `Decimal.scientific_some`, `Decimal.roundsToSignificant_of_digits`: the layout with a
  precision, rounded to significant digits (`Round.RoundsToSignificant`).
* `Bound.render_int_lowerExp`: an integer under `{:e}` keeps every significant digit.
-/

namespace BraceFormat

/-! ### Exponents and significant digits -/

namespace Numeral

/-- **The text of an exponent**: `-` for a negative one, then the decimal numeral of its size. -/
theorem toList_signed (i : ℤ) :
    (signed i).toList = (if i < 0 then ['-'] else []) ++ chars 10 false i.natAbs := by
  unfold signed
  split <;> simp [decimal, write, String.toList_append]

/-- The numeral of `n · 10 ^ t`, read as digits, is `n · 10 ^ t`: trailing zeros multiply. -/
theorem digitsValue_append_zeros (L : List Char) (t : ℕ) :
    Decimal.digitsValue (L ++ List.replicate t '0') = Decimal.digitsValue L * 10 ^ t := by
  induction t with
  | zero => simp
  | succ t ih =>
    rw [List.replicate_succ', ← List.append_assoc, Decimal.digitsValue, List.foldl_append,
      ← Decimal.digitsValue, ih]
    simp [pow_succ, Nat.mul_assoc]

end Numeral

namespace Text

/-- A text split before its trailing zeros: what is left does not end in `0`. -/
theorem rdropWhile_zero (L : List Char) :
    ∃ t, L = L.rdropWhile (· = '0') ++ List.replicate t '0' ∧
      ∀ l ∈ (L.rdropWhile (· = '0')).getLast?, l ≠ '0' := by
  refine ⟨(L.rtakeWhile (· = '0')).length, ?_, ?_⟩
  · conv_lhs => rw [← List.rdropWhile_append_rtakeWhile (p := (· = '0')) (l := L)]
    congr 1
    exact List.eq_replicate_iff.2 ⟨rfl, fun x hx => by simpa using List.mem_rtakeWhile_imp hx⟩
  · intro l hl
    have hne : L.rdropWhile (· = '0') ≠ [] := by
      rintro h
      simp [h] at hl
    have hlast := List.rdropWhile_last_not (· = '0') L hne
    rw [List.getLast?_eq_some_getLast hne, Option.mem_def, Option.some.injEq] at hl
    rw [← hl]
    simpa using hlast

/-- **The significant digits of a positive number**: its numeral without the trailing zeros,
which starts and ends with a digit other than `0`. -/
theorem significant_chars {c : ℕ} (hc : 0 < c) :
    ∃ D F t, Numeral.chars 10 false c = D :: F ++ List.replicate t '0' ∧
      (Numeral.chars 10 false c).rdropWhile (· = '0') = D :: F ∧ D ≠ '0' ∧
      ∀ l ∈ (D :: F).getLast?, l ≠ '0' := by
  obtain ⟨t, hsplit, hlast⟩ := rdropWhile_zero (Numeral.chars 10 false c)
  have hhead := Numeral.head_chars_ne_zero hc
  cases hkept : (Numeral.chars 10 false c).rdropWhile (· = '0') with
  | nil =>
    rw [hkept, List.nil_append] at hsplit
    have hne := Numeral.chars_ne_nil c
    rw [hsplit] at hhead hne
    cases t with
    | zero => exact absurd rfl hne
    | succ t => exact absurd rfl (hhead '0' (by simp [List.replicate_succ]))
  | cons D F =>
    rw [hkept] at hsplit hlast
    refine ⟨D, F, t, hsplit, rfl, ?_, hlast⟩
    rw [hsplit] at hhead
    exact hhead D (by simp)

/-- The significant digits are digits. -/
theorem isDigit_of_significant {c : ℕ} {D : Char} {F : List Char} {t : ℕ}
    (hsplit : Numeral.chars 10 false c = D :: F ++ List.replicate t '0') :
    D.isDigit = true ∧ ∀ d ∈ F, d.isDigit = true := by
  have hdig : ∀ d ∈ D :: F, d.isDigit = true := fun d hd =>
    Numeral.isDigit_of_mem_chars (hsplit ▸ List.mem_append_left _ hd)
  exact ⟨hdig D List.mem_cons_self, fun d hd => hdig d (List.mem_cons_of_mem D hd)⟩

/-! ### The characters of a numeral -/

/-- A digit is none of the other characters. -/
theorem ne_of_isDigit {d l : Char} (hd : d.isDigit = true) (hl : l.isDigit = false) : d ≠ l := by
  rintro rfl
  rw [hd] at hl
  exact Bool.noConfusion hl

/-- A digit is its own lower case. -/
theorem toLower_of_isDigit {d : Char} (hd : d.isDigit = true) : d.toLower = d := by
  have hr : 48 ≤ d.toNat ∧ d.toNat ≤ 57 := Char.isDigit_iff_toNat.1 hd
  refine Char.toLower_eq_of_not_isUpper ?_
  simp [Char.isUpper, UInt32.le_iff_toNat_le]
  omega

/-- A character numerals are written with here: visible ASCII other than the underscore. -/
def NumeralChar (c : Char) : Prop :=
  33 ≤ c.toNat ∧ c.toNat < 127 ∧ c ≠ '_'

theorem numeralChar_of_isDigit {c : Char} (h : c.isDigit = true) : NumeralChar c := by
  have hr : 48 ≤ c.toNat ∧ c.toNat ≤ 57 := Char.isDigit_iff_toNat.1 h
  refine ⟨by omega, by omega, fun hc => ?_⟩
  rw [hc] at hr
  exact absurd hr (by decide)

theorem numeralChar_mark {c : Char} (h : c = '.' ∨ c = 'e' ∨ c = '-') : NumeralChar c := by
  rcases h with rfl | rfl | rfl <;> exact ⟨by decide, by decide, by decide⟩

/-- A numeral character is no blank of either kind, and reading keeps it as it is. -/
theorem NumeralChar.plain {c : Char} (h : NumeralChar c) :
    isBlank c = false ∧ Integer.isAsciiBlank c = false ∧ asciiNumeral c = c := by
  obtain ⟨h33, h127, -⟩ := h
  have hne : ∀ d : Char, d.toNat < 33 → c ≠ d := fun d hd hc => by rw [hc] at h33; omega
  refine ⟨?_, ?_, asciiNumeral_of_lt (by omega)⟩
  · -- the visible ASCII characters lie between the second interval of blanks and the third
    simp only [isBlank, blankTable, RangeTable.contains_cons]
    rw [if_neg (by omega), if_neg (by omega), if_neg (by omega), if_neg (by omega),
      if_pos (by omega)]
  · simp [Integer.isAsciiBlank, hne ' ' (by decide), hne '\t' (by decide), hne '\n' (by decide),
      hne '\x0b' (by decide), hne '\x0c' (by decide), hne '\r' (by decide)]

theorem numeralChar_of_mem_chars {n : ℕ} {c : Char} (h : c ∈ Numeral.chars 10 false n) :
    NumeralChar c :=
  numeralChar_of_isDigit (Numeral.isDigit_of_mem_chars h)

theorem numeralChar_of_mem_signed {i : ℤ} {c : Char} (h : c ∈ (Numeral.signed i).toList) :
    NumeralChar c := by
  rw [Numeral.toList_signed, List.mem_append] at h
  rcases h with h | h
  · split_ifs at h
    · exact numeralChar_mark (.inr (.inr (List.mem_singleton.1 h)))
    · cases h
  · exact numeralChar_of_mem_chars h

/-- The scientific text of digits `D :: F` and an exponent is written with numeral characters. -/
theorem numeralChar_of_mem_scientific {D : Char} {F : List Char} (hD : D.isDigit = true)
    (hF : ∀ f ∈ F, f.isDigit = true) (i : ℤ) :
    ∀ c ∈ (if F = [] then [D] else D :: '.' :: F) ++ 'e' :: (Numeral.signed i).toList,
      NumeralChar c := by
  intro c hc
  have hmant : ∀ c ∈ (if F = [] then [D] else D :: '.' :: F), NumeralChar c := by
    intro c hc
    split_ifs at hc
    · rw [List.mem_singleton.1 hc]
      exact numeralChar_of_isDigit hD
    · rcases List.mem_cons.1 hc with rfl | hc
      · exact numeralChar_of_isDigit hD
      rcases List.mem_cons.1 hc with rfl | hc
      · exact numeralChar_mark (.inl rfl)
      · exact numeralChar_of_isDigit (hF c hc)
  rcases List.mem_append.1 hc with hc | hc
  · exact hmant c hc
  rcases List.mem_cons.1 hc with rfl | hc
  · exact numeralChar_mark (.inr (.inl rfl))
  · exact numeralChar_of_mem_signed hc

end Text

/-! ### Rounding to significant digits -/

namespace Round

theorem div_le_halfEven (n d : ℕ) : n / d ≤ halfEven n d := by
  unfold halfEven
  split_ifs <;> omega

theorem halfEven_le (n d : ℕ) : halfEven n d ≤ n / d + 1 := by
  unfold halfEven
  split_ifs <;> omega

/-- A positive number has `decimalLength` digits: it lies between `10 ^ (len - 1)` and
`10 ^ len`. -/
theorem decimalLength_bounds {c : ℕ} (hc : 0 < c) :
    1 ≤ decimalLength c ∧ 10 ^ (decimalLength c - 1) ≤ c ∧ c < 10 ^ decimalLength c := by
  have hne := Numeral.chars_ne_nil c
  have hpos : 1 ≤ decimalLength c := List.length_pos_iff.2 hne
  refine ⟨hpos, ?_, (Numeral.length_chars_le_iff hpos).1 (Nat.le_refl _)⟩
  rcases Nat.eq_zero_or_pos (decimalLength c - 1) with h | h
  · rw [h, Nat.pow_zero]
    exact hc
  · have hlong : ¬ decimalLength c ≤ decimalLength c - 1 := by omega
    exact Nat.not_lt.1 fun hlt => hlong ((Numeral.length_chars_le_iff h).2 hlt)

/-- The leading power of ten of `c · 10 ^ x` is `x + decimalLength c - 1`. -/
theorem decimalLength_zpow_bounds {c : ℕ} (hc : 0 < c) (x : ℤ) :
    (10 : ℚ) ^ (x + decimalLength c - 1) ≤ c * 10 ^ x ∧
      (c : ℚ) * 10 ^ x < 10 ^ (x + decimalLength c - 1 + 1) := by
  obtain ⟨hlen1, hlo, hhi⟩ := decimalLength_bounds hc
  have hx : (0 : ℚ) < 10 ^ x := zpow_pos (by norm_num) x
  constructor
  · rw [show x + decimalLength c - 1 = ((decimalLength c - 1 : ℕ) : ℤ) + x by omega,
      zpow_add₀ (by norm_num), zpow_natCast]
    exact mul_le_mul_of_nonneg_right (by exact_mod_cast hlo) hx.le
  · rw [sub_add_cancel, zpow_add₀ (by norm_num), zpow_natCast, mul_comm ((10 : ℚ) ^ x)]
    exact mul_lt_mul_of_pos_right (by exact_mod_cast hhi) hx

/-- `r` is `t` rounded half to even to `p + 1` significant digits: with
`10 ^ e ≤ t < 10 ^ (e + 1)`, `r` is the integer nearest to `t / 10 ^ (e - p)`, a tie going to
the even one, times `10 ^ (e - p)`. A carry makes `r` the power `10 ^ (e + 1)`. -/
def RoundsToSignificant (t : ℚ) (p : ℕ) (r : ℚ) : Prop :=
  ∃ e : ℤ, 10 ^ e ≤ t ∧ t < 10 ^ (e + 1) ∧
    ∃ N : ℕ, RoundsHalfEven (t / 10 ^ (e - p)) N ∧ r = N * 10 ^ (e - p)

/-- The leading power of ten of a positive number is determined. -/
theorem zpow_lead_unique {t : ℚ} {e e' : ℤ} (h : 10 ^ e ≤ t) (h' : t < 10 ^ (e + 1))
    (g : 10 ^ e' ≤ t) (g' : t < 10 ^ (e' + 1)) : e = e' := by
  by_contra hne
  rcases lt_or_gt_of_ne hne with hlt | hlt
  · have := zpow_le_zpow_right₀ (by norm_num : (1 : ℚ) ≤ 10) (show e + 1 ≤ e' by omega)
    linarith
  · have := zpow_le_zpow_right₀ (by norm_num : (1 : ℚ) ≤ 10) (show e' + 1 ≤ e by omega)
    linarith

/-- **The rounding to significant digits is determined.** -/
theorem RoundsToSignificant.unique {t : ℚ} {p : ℕ} {r r' : ℚ} (h : RoundsToSignificant t p r)
    (h' : RoundsToSignificant t p r') : r = r' := by
  obtain ⟨e, hlo, hhi, N, hN, rfl⟩ := h
  obtain ⟨e', hlo', hhi', N', hN', rfl⟩ := h'
  obtain rfl := zpow_lead_unique hlo hhi hlo' hhi'
  rw [hN.unique hN']

/-- **A mantissa of `p + 1` digits** with a point after the first is the numeral of `M / 10 ^ p`
with exactly `p` fraction digits. -/
theorem fixedNumeral_pointAfterFirst {M p : ℕ} (hlo : 10 ^ p ≤ M) (hhi : M < 10 ^ (p + 1)) :
    FixedNumeral M p (if p = 0 then Numeral.chars 10 false M else
      (Numeral.chars 10 false M).take 1 ++ '.' :: (Numeral.chars 10 false M).drop 1) := by
  have hexp : ∀ m, Text.Expansion 10 false (Numeral.chars 10 false m) m :=
    Text.expansion_chars (by omega) (by omega) false
  have hlen : (Numeral.chars 10 false M).length = p + 1 := by
    have hle := (Numeral.length_chars_le_iff (Nat.succ_pos p)).2 hhi
    rcases Nat.eq_zero_or_pos p with rfl | hp
    · exact Nat.le_antisymm hle (List.length_pos_iff.2 (Numeral.chars_ne_nil M))
    · have hgt : ¬ (Numeral.chars 10 false M).length ≤ p := fun h =>
        Nat.not_lt.2 hlo ((Numeral.length_chars_le_iff hp).1 h)
      omega
  split_ifs with hp
  · subst hp
    exact ⟨Numeral.chars 10 false M, [], by simp, by simpa using hexp M, rfl,
      by simp [Text.digitsIn, Nat.mod_one]⟩
  · obtain ⟨fp, hsplit, hfl, hfv⟩ := Numeral.chars_split (N := M) (p := p) (by omega)
    have hone : (Numeral.chars 10 false (M / 10 ^ p)).length = 1 := by
      have h := congrArg List.length hsplit
      rw [List.length_append, hfl, hlen] at h
      omega
    refine ⟨Numeral.chars 10 false (M / 10 ^ p), fp, ?_, hexp _, hfl, hfv⟩
    rw [if_neg hp, hsplit, ← hone, List.take_left, List.drop_left]

end Round

namespace Decimal

/-! ### The layouts -/

/-- **Rounding to `p + 1` significant digits.** The digits `m · 10 ^ z` that `roundSignificant`
gives number exactly `p + 1`, and with the carry they are the rounding half to even of the
coefficient scaled to `p + 1` digits before the point. -/
theorem roundSignificant_spec {c : ℕ} (hc : 0 < c) (p : ℕ) :
    ∃ m z carry, roundSignificant c p = (m, z, carry) ∧ 10 ^ p ≤ m * 10 ^ z ∧
      m * 10 ^ z < 10 ^ (p + 1) ∧ (p = 0 → z = 0) ∧
      Round.RoundsHalfEven ((c : ℚ) * 10 ^ ((p : ℤ) + 1 - Round.decimalLength c))
        (m * 10 ^ z * 10 ^ carry) := by
  obtain ⟨hlen1, hlo, hhi⟩ := Round.decimalLength_bounds hc
  unfold roundSignificant
  dsimp only
  by_cases hshort : Round.decimalLength c ≤ p + 1
  · rw [if_pos hshort]
    refine ⟨c, p + 1 - Round.decimalLength c, 0, rfl, ?_, ?_, fun hp => by omega, ?_⟩
    · calc 10 ^ p = 10 ^ (Round.decimalLength c - 1) * 10 ^ (p + 1 - Round.decimalLength c) := by
            rw [← Nat.pow_add]
            congr 1
            omega
        _ ≤ c * 10 ^ (p + 1 - Round.decimalLength c) := Nat.mul_le_mul_right _ hlo
    · calc c * 10 ^ (p + 1 - Round.decimalLength c)
          < 10 ^ Round.decimalLength c * 10 ^ (p + 1 - Round.decimalLength c) :=
            Nat.mul_lt_mul_of_pos_right hhi (Nat.pow_pos (by omega))
        _ = 10 ^ (p + 1) := by
            rw [← Nat.pow_add]
            congr 1
            omega
    · have hexp : ((p : ℤ) + 1 - Round.decimalLength c) =
          ((p + 1 - Round.decimalLength c : ℕ) : ℤ) := by
        omega
      rw [hexp, zpow_natCast, pow_zero, Nat.mul_one]
      exact_mod_cast Round.roundsHalfEven_natCast (c * 10 ^ (p + 1 - Round.decimalLength c))
  rw [if_neg hshort]
  obtain ⟨k, hk⟩ : ∃ k, Round.decimalLength c = p + 1 + k :=
    ⟨_, (Nat.add_sub_of_le (by omega)).symm⟩
  have hsub : Round.decimalLength c - (p + 1) = k := by omega
  have hscale :
      (c : ℚ) * 10 ^ ((p : ℤ) + 1 - Round.decimalLength c) = (c : ℚ) / (10 ^ k : ℕ) := by
    rw [hk, show ((p : ℤ) + 1 - ((p + 1 + k : ℕ) : ℤ)) = -(k : ℤ) by push_cast; ring,
      zpow_neg, zpow_natCast, ← div_eq_mul_inv]
    push_cast
    rfl
  have hround := Round.halfEven_rounds c (Nat.pow_pos (by omega : 0 < 10) (n := k))
  have hlow : 10 ^ p ≤ c / 10 ^ k := by
    rw [Nat.le_div_iff_mul_le (Nat.pow_pos (by omega)), ← Nat.pow_add]
    calc 10 ^ (p + k) = 10 ^ (Round.decimalLength c - 1) := by congr 1; omega
      _ ≤ c := hlo
  have hhigh : c / 10 ^ k < 10 ^ (p + 1) := by
    rw [Nat.div_lt_iff_lt_mul (Nat.pow_pos (by omega)), ← Nat.pow_add, ← hk]
    exact hhi
  have hbounds := Round.div_le_halfEven c (10 ^ k)
  have hbounds' := Round.halfEven_le c (10 ^ k)
  rw [hsub, hscale]
  simp only [Nat.pow_eq]
  split_ifs with hcarry
  · refine ⟨1, p, 1, rfl, by simp, by simp [Nat.pow_lt_pow_right], fun hp => hp, ?_⟩
    rw [Nat.one_mul, Nat.pow_one, ← Nat.pow_succ, ← hcarry]
    exact hround
  · refine ⟨_, 0, 0, rfl, ?_, ?_, fun _ => rfl, ?_⟩
    · rw [Nat.pow_zero, Nat.mul_one]
      exact Nat.le_trans hlow hbounds
    · rw [Nat.pow_zero, Nat.mul_one]
      omega
    · simpa using hround


/-- **The scientific layout without a precision** keeps the significant digits of the coefficient:
the first one, then a point and the others when there are others, the marker, and the power of
ten of the first digit. -/
theorem scientific_none {c : ℕ} (hc : 0 < c) (x : ℤ) (marker : String) :
    ∃ D F t, Numeral.chars 10 false c = D :: F ++ List.replicate t '0' ∧ D ≠ '0' ∧
      (∀ l ∈ (D :: F).getLast?, l ≠ '0') ∧
      (scientific c x none marker).toList = (if F = [] then [D] else D :: '.' :: F) ++
        marker.toList ++ (Numeral.signed (x + (Numeral.chars 10 false c).length - 1)).toList := by
  obtain ⟨D, F, t, hsplit, hsig, hD, hlast⟩ := Text.significant_chars hc
  refine ⟨D, F, t, hsplit, hD, hlast, ?_⟩
  unfold scientific
  rw [if_neg (Nat.pos_iff_ne_zero.1 hc)]
  dsimp only
  rw [show ((Numeral.chars 10 false c).reverse.dropWhile (· = '0')).reverse = D :: F from hsig]
  cases F with
  | nil => simp [String.toList_append]
  | cons f F => simp [String.toList_append]

/-- **The scientific layout with a precision**: the `p + 1` rounded digits `M` with a point after
the first (none when `p` is zero), the marker, and the power of ten of the first digit, one
higher after a carry. -/
theorem scientific_some {c : ℕ} (hc : 0 < c) (x : ℤ) (p : ℕ) (marker : String) :
    ∃ M carry : ℕ, 10 ^ p ≤ M ∧ M < 10 ^ (p + 1) ∧
      Round.RoundsHalfEven ((c : ℚ) * 10 ^ ((p : ℤ) + 1 - Round.decimalLength c))
        (M * 10 ^ carry) ∧
      (scientific c x (some p) marker).toList =
        (if p = 0 then Numeral.chars 10 false M else
          (Numeral.chars 10 false M).take 1 ++ '.' :: (Numeral.chars 10 false M).drop 1) ++
          marker.toList ++ (Numeral.signed (x + Round.decimalLength c - 1 + carry)).toList := by
  obtain ⟨m, z, carry, hrs, hlo, hhi, hz, hround⟩ := roundSignificant_spec hc p
  have hm : 0 < m := by
    rcases Nat.eq_zero_or_pos m with rfl | hm
    · rw [Nat.zero_mul] at hlo
      exact absurd hlo (Nat.not_le.2 (Nat.pow_pos (by omega)))
    · exact hm
  refine ⟨m * 10 ^ z, carry, hlo, hhi, hround, ?_⟩
  unfold scientific
  rw [if_neg (Nat.pos_iff_ne_zero.1 hc)]
  dsimp only
  rw [hrs]
  dsimp only
  rw [Numeral.chars_mul_ten_pow hm]
  obtain ⟨d, ds, hcons⟩ := List.exists_cons_of_ne_nil (Numeral.chars_ne_nil m)
  split_ifs with hp
  · rw [hz hp]
    simp [String.toList_append]
  · rw [hcons]
    simp [String.toList_append, Text.run_toList]

/-- The rounded digits and the power of the scientific layout stand for the coefficient's value
rounded half to even to `p + 1` significant digits. -/
theorem roundsToSignificant_of_digits {c : ℕ} (hc : 0 < c) (x : ℤ) (p : ℕ) {M carry : ℕ}
    (hround : Round.RoundsHalfEven ((c : ℚ) * 10 ^ ((p : ℤ) + 1 - Round.decimalLength c))
      (M * 10 ^ carry)) :
    Round.RoundsToSignificant ((c : ℚ) * 10 ^ x) p
      ((M : ℚ) / 10 ^ p * 10 ^ (x + Round.decimalLength c - 1 + carry)) := by
  have h10 : (10 : ℚ) ≠ 0 := by norm_num
  obtain ⟨hlo, hhi⟩ := Round.decimalLength_zpow_bounds hc x
  refine ⟨x + Round.decimalLength c - 1, hlo, hhi, M * 10 ^ carry, ?_, ?_⟩
  · convert hround using 1
    rw [div_eq_mul_inv, ← zpow_neg, mul_assoc, ← zpow_add₀ h10]
    ring_nf
  · push_cast
    rw [div_eq_mul_inv, ← zpow_natCast, ← zpow_natCast (10 : ℚ) carry, ← zpow_neg,
      mul_assoc, mul_assoc, ← zpow_add₀ h10, ← zpow_add₀ h10]
    ring_nf

/-! ### Reading the layout back -/

/-- A run of digits, after a sign or none, reads as an exponent. -/
theorem readExponent_digits {ds : List Char} (hne : ds ≠ [])
    (hds : ∀ d ∈ ds, d.isDigit = true) :
    readExponent ds = some (digitsValue ds : ℤ) ∧
      readExponent ('-' :: ds) = some (-(digitsValue ds : ℤ)) := by
  have hall : (!ds.isEmpty && ds.all Char.isDigit) = true := by
    simpa [List.all_eq_true, hne] using hds
  obtain ⟨d, rest, rfl⟩ := List.exists_cons_of_ne_nil hne
  have hd := hds d List.mem_cons_self
  have hm := Text.ne_of_isDigit hd (l := '-') rfl
  have hp := Text.ne_of_isDigit hd (l := '+') rfl
  constructor
  · unfold readExponent
    split
    rename_i neg r h
    split at h
    · exact absurd (List.cons.inj ‹_›).1 hm
    · exact absurd (List.cons.inj ‹_›).1 hp
    · simp only [Prod.mk.injEq] at h
      obtain ⟨rfl, rfl⟩ := h
      simp only [hall, if_true, Bool.false_eq_true, if_false]
  · unfold readExponent
    simp only [hall, if_true]

/-- The exponent text reads back as the exponent. -/
theorem readExponent_signed (i : ℤ) : readExponent (Numeral.signed i).toList = some i := by
  have hds : ∀ d ∈ Numeral.chars 10 false i.natAbs, d.isDigit = true :=
    fun d hd => Numeral.isDigit_of_mem_chars hd
  have hval : digitsValue (Numeral.chars 10 false i.natAbs) = i.natAbs :=
    Numeral.digitsValue_chars i.natAbs
  obtain ⟨hpos, hneg⟩ := readExponent_digits (Numeral.chars_ne_nil i.natAbs) hds
  rw [Numeral.toList_signed]
  split_ifs with hi
  · rw [List.singleton_append, hneg, hval]
    congr 1
    omega
  · rw [List.nil_append, hpos, hval]
    congr 1
    omega

/-- **The exponent text is the plain decimal of the exponent**: a minus sign for a negative one
and never a plus sign, then digits with no leading zero but for zero itself. -/
theorem signed_exponent_text (i : ℤ) :
    ∃ ds, (Numeral.signed i).toList = (if i < 0 then ['-'] else []) ++ ds ∧
      (∀ d ∈ ds, d.isDigit = true) ∧ (i ≠ 0 → ∀ d ∈ ds.head?, d ≠ '0') ∧
      readExponent (Numeral.signed i).toList = some i :=
  ⟨_, Numeral.toList_signed i, fun _ hd => Numeral.isDigit_of_mem_chars hd,
    fun hi => Numeral.head_chars_ne_zero (Int.natAbs_pos.2 hi), readExponent_signed i⟩

/-- A mantissa with one digit before its point, then `e` and an exponent, reads as the mantissa's
digits, the exponent lowered by the digits after the point. -/
theorem readFinite_mantissa {D : Char} {F : List Char} (hD : D.isDigit = true)
    (hF : ∀ f ∈ F, f.isDigit = true) (E : List Char) :
    readFinite ((if F = [] then [D] else D :: '.' :: F) ++ 'e' :: E) =
      (readExponent E).map fun i => (digitsValue (D :: F), i - (F.length : ℤ)) := by
  have he : ('e').isDigit = false := by decide
  have hdot : ('.').isDigit = false := by decide
  unfold readFinite
  by_cases hF0 : F = []
  · subst hF0
    simp [hD, he]
  · have hstop : ∀ c ∈ ('e' :: E).head?, c.isDigit = false := by simp [he]
    obtain ⟨htake, hdrop⟩ := Spec.takeWhile_dropWhile_append hF hstop
    simp [hF0, hD, hdot, htake, hdrop]

/-- **The scientific layout reads as its digits**: the mantissa's digits as the coefficient, and
the exponent less the fraction digits as the exponent. -/
theorem readFinite_scientific {D : Char} {F : List Char} (hD : D.isDigit = true)
    (hF : ∀ f ∈ F, f.isDigit = true) (i : ℤ) :
    readFinite ((if F = [] then [D] else D :: '.' :: F) ++ 'e' :: (Numeral.signed i).toList) =
      some (digitsValue (D :: F), i - F.length) := by
  rw [readFinite_mantissa hD hF, readExponent_signed i]
  rfl

/-- A text of numeral characters is read as it stands. -/
theorem numeralChars_ofList {P : List Char} (h : ∀ c ∈ P, Text.NumeralChar c) :
    numeralChars (String.ofList P) = P := by
  have hblank : ∀ c ∈ P, Text.isBlank c = false := fun c hc => (h c hc).plain.1
  have hrev : ∀ c ∈ P.reverse, Text.isBlank c = false :=
    fun c hc => hblank c (List.mem_reverse.1 hc)
  have hkeep : P.filter (· ≠ '_') = P :=
    List.filter_eq_self.2 fun c hc => by simpa using (h c hc).2.2
  rw [numeralChars, String.toList_ofList, trimBlanks, Text.dropWhile_of_forall_false hblank,
    Text.dropWhile_of_forall_false hrev, List.reverse_reverse, hkeep]
  conv_rhs => rw [← List.map_id P]
  exact List.map_congr_left fun c hc => (h c hc).plain.2.2

/-- A digit is no sign. -/
theorem readSign_of_isDigit {d : Char} (hd : d.isDigit = true) (rest : List Char) :
    readSign (d :: rest) = (false, d :: rest) := by
  have hm := Text.ne_of_isDigit hd (l := '-') rfl
  have hp := Text.ne_of_isDigit hd (l := '+') rfl
  unfold readSign
  split
  · exact absurd (List.cons.inj ‹_›).1 hm
  · exact absurd (List.cons.inj ‹_›).1 hp
  · rfl

/-- A numeral whose sign, if any, is read off before a digit is read as a finite number of that
sign. -/
theorem readAscii_of_readSign {sign : List Char} {neg : Bool} {d : Char} (hd : d.isDigit = true)
    {rest : List Char} (hsign : readSign (sign ++ d :: rest) = (neg, d :: rest)) :
    readAscii (sign ++ d :: rest) =
      (readFinite (d :: rest)).map fun (c, x) => finite neg c x := by
  have hlow := Text.toLower_of_isDigit hd
  rw [readAscii, hsign]
  simp [hlow, Text.ne_of_isDigit hd (l := 'i') rfl, Text.ne_of_isDigit hd (l := 'n') rfl,
    Text.ne_of_isDigit hd (l := 's') rfl]

/-- A numeral that starts with a digit is read as a finite number without a sign. -/
theorem readAscii_of_isDigit {d : Char} (hd : d.isDigit = true) (rest : List Char) :
    readAscii (d :: rest) = (readFinite (d :: rest)).map fun (c, x) => finite false c x :=
  @readAscii_of_readSign [] false d hd rest (readSign_of_isDigit hd rest)

/-- The digits left of a numeral's trailing zeros are the numeral of what they stand for. -/
theorem chars_significant {c : ℕ} (hc : 0 < c) {D : Char} {F : List Char} {t : ℕ}
    (hsplit : Numeral.chars 10 false c = D :: F ++ List.replicate t '0') :
    c = digitsValue (D :: F) * 10 ^ t ∧
      Numeral.chars 10 false (digitsValue (D :: F)) = D :: F := by
  have hc' : c = digitsValue (D :: F) * 10 ^ t := by
    have h := Numeral.digitsValue_chars c
    rw [hsplit] at h
    rw [← Numeral.digitsValue_append_zeros]
    exact h.symm
  have hpos : 0 < digitsValue (D :: F) := by
    rcases Nat.eq_zero_or_pos (digitsValue (D :: F)) with h | h
    · rw [h, Nat.zero_mul] at hc'
      omega
    · exact h
  have happ : Numeral.chars 10 false (digitsValue (D :: F)) ++ List.replicate t '0' =
      D :: F ++ List.replicate t '0' := by
    rw [← Numeral.chars_mul_ten_pow hpos, ← hc', hsplit]
  exact ⟨hc', List.append_cancel_right happ⟩

/-- **The scientific layout reads back**: its mantissa's digits, `e` and its exponent read as a
decimal number of the same value, `D.F · 10 ^ power`, whenever the number is in the range of
exponents. -/
theorem read_scientific {c : ℕ} (hc : 0 < c) {x : ℤ} (hr : inRange c x = true) {D : Char}
    {F : List Char} {t : ℕ} (hsplit : Numeral.chars 10 false c = D :: F ++ List.replicate t '0') :
    read (String.ofList ((if F = [] then [D] else D :: '.' :: F) ++
        'e' :: (Numeral.signed (x + (Numeral.chars 10 false c).length - 1)).toList)) =
      .ok (finite false (digitsValue (D :: F)) (x + t)) := by
  obtain ⟨-, hsig⟩ := chars_significant hc hsplit
  obtain ⟨hD, hF⟩ := Text.isDigit_of_significant hsplit
  have hlen : (Numeral.chars 10 false c).length = F.length + 1 + t := by
    rw [hsplit]
    simp only [List.length_append, List.length_cons, List.length_replicate]
  have hexp : x + (Numeral.chars 10 false c).length - 1 - F.length = x + t := by
    rw [hlen]
    push_cast
    ring
  have hhead : ∃ rest, (if F = [] then [D] else D :: '.' :: F) ++
      'e' :: (Numeral.signed (x + (Numeral.chars 10 false c).length - 1)).toList = D :: rest := by
    split_ifs <;> exact ⟨_, rfl⟩
  obtain ⟨rest, hrest⟩ := hhead
  have hrange : inRange (digitsValue (D :: F)) (x + t) = true := by
    have hr' : x + ((Numeral.chars 10 false c).length : ℤ) - 1 ≤ maxAdjusted ∧
        minExponent ≤ x := by
      simpa [inRange, Round.decimalLength] using hr
    rw [hlen] at hr'
    simp only [inRange, Round.decimalLength, hsig, List.length_cons, Bool.and_eq_true,
      decide_eq_true_eq]
    push_cast at hr' ⊢
    constructor <;> omega
  rw [read, numeralChars_ofList (Text.numeralChar_of_mem_scientific hD hF _), hrest,
    readAscii_of_isDigit hD, ← hrest, readFinite_scientific hD hF, hexp]
  simp [hrange]

/-! ### Zero, and the faults -/

/-- Zero's scientific layout without a precision: `0`, the marker and the exponent `0`. -/
theorem scientific_zero_none (x : ℤ) (marker : String) :
    scientific 0 x none marker = "0" ++ marker ++ "0" := by
  simp [scientific]

/-- **Zero's scientific layout with a precision**: the numeral of zero with `p` fraction digits,
the marker and the exponent `0`. -/
theorem scientific_zero_some (x : ℤ) (p : ℕ) (marker : String) :
    ∃ mant, (scientific 0 x (some p) marker).toList = mant ++ marker.toList ++ ['0'] ∧
      Round.FixedNumeral 0 p mant := by
  refine ⟨'0' :: (if p = 0 then [] else '.' :: List.replicate p '0'), ?_,
    ['0'], List.replicate p '0', rfl, ?_, List.length_replicate, ?_⟩
  · split_ifs with hp <;> simp [scientific, hp, String.toList_append, Text.run_toList]
  · rw [Nat.zero_div]
    exact Text.expansion_chars (B := 10) (by omega) (by omega) false 0
  · have h := Text.digitsIn_zeros (by omega : 0 < 10) p []
    rw [List.append_nil] at h
    rw [h, Nat.zero_mod]
    rfl

/-- A precision whose digits fit in the memory leaves the scientific layout free of faults. -/
theorem scientificFault?_of_lt {c p : ℕ} (h : p + 1 < memoryLimit) :
    scientificFault? c (some p) = none := by
  have hmem : memoryLimit = 2147483648 := rfl
  have hidx : indexLimit = 9223372036854775808 := rfl
  have hmax : maxPrecision = 999999999999999999 := rfl
  simp only [scientificFault?]
  split_ifs with hc hi hm hm'
  · exact Fault.ofRun?_of_lt (by omega)
  · omega
  · omega
  · omega
  · rfl

/-! ### Every coefficient -/

/-- **The layout without a precision reads back as the number** it lays out, zero included, for
every number within the range of exponents. -/
theorem read_scientific_none {c : ℕ} {x : ℤ} (hr : inRange c x = true) :
    ∃ c' x', read (scientific c x none "e") = .ok (finite false c' x') ∧
      (c' : ℚ) * 10 ^ x' = c * 10 ^ x := by
  rcases Nat.eq_zero_or_pos c with rfl | hc
  · refine ⟨0, 0, ?_, by simp⟩
    rw [scientific_zero_none]
    decide +kernel
  · obtain ⟨D, F, t, hsplit, -, -, hlay⟩ := scientific_none hc x "e"
    refine ⟨digitsValue (D :: F), x + t, ?_, ?_⟩
    · rw [← String.ofList_toList (s := scientific c x none "e"), hlay,
        show "e".toList = ['e'] from rfl, List.append_assoc, List.singleton_append]
      exact read_scientific hc hr hsplit
    · rw [(chars_significant hc hsplit).1, zpow_add₀ (by norm_num), zpow_natCast]
      push_cast
      ring

/-- **The layout with a precision rounds to significant digits**: a mantissa of `p` fraction
digits between `1` and `10`, the marker and the exponent, the mantissa times the power of ten
being the number rounded half to even to `p + 1` significant digits; zero is laid out with
the exponent `0`. -/
theorem scientific_some_rounds (c : ℕ) (x : ℤ) (p : ℕ) (marker : String) :
    ∃ mant i M, (scientific c x (some p) marker).toList =
        mant ++ marker.toList ++ (Numeral.signed i).toList ∧ Round.FixedNumeral M p mant ∧
      if c = 0 then M = 0 ∧ i = 0 else
        10 ^ p ≤ M ∧ M < 10 ^ (p + 1) ∧
          Round.RoundsToSignificant ((c : ℚ) * 10 ^ x) p ((M : ℚ) / 10 ^ p * 10 ^ i) := by
  rcases Nat.eq_zero_or_pos c with rfl | hc
  · obtain ⟨mant, hlay, hnum⟩ := scientific_zero_some x p marker
    exact ⟨mant, 0, 0, hlay, hnum, by simp⟩
  · obtain ⟨M, carry, hlo, hhi, hround, hlay⟩ := scientific_some hc x p marker
    refine ⟨_, _, M, hlay, Round.fixedNumeral_pointAfterFirst hlo hhi, ?_⟩
    rw [if_neg (Nat.pos_iff_ne_zero.1 hc)]
    exact ⟨hlo, hhi, roundsToSignificant_of_digits hc x p hround⟩

-- the rounding of `9.99` to two significant digits carries into the power of ten
example : scientific 999 (-2) (some 1) "e" = "1.0e1" := by decide +kernel

end Decimal

namespace Bound

/-- A raw integer is rendered by its own layout under every conversion. -/
theorem render_int (n : ℤ) (spec : Spec) (precision : Option ℕ) (offset : ℕ) :
    ((Value.int n).bind Option.none).render spec precision offset =
      (Rendered.ofInt n spec precision).mapError .fault := by
  unfold render
  cases spec.conversion <;> simp [Value.bind, Value.ownCaps, kind, number, Value.number,
    Value.classify, Kind.natural, Caps.has, Caps.all, Conversion.capability, Kind.isNumeric,
    bind, Except.bind, Except.mapError]

/-- **An integer under `{:e}` keeps every significant digit**: its sign, then the digits of its
magnitude without the trailing zeros, a point after the first when there are others, `e`, and
the power of ten of the first digit. -/
theorem render_int_lowerExp {n : ℤ} (hn : n ≠ 0) (offset : ℕ) :
    ∃ D F t, Numeral.chars 10 false n.natAbs = D :: F ++ List.replicate t '0' ∧ D ≠ '0' ∧
      (∀ l ∈ (D :: F).getLast?, l ≠ '0') ∧
      ∃ r, ((Value.int n).bind Option.none).render { conversion := .lowerExp } none offset =
          .ok r ∧ r.sign = (if n < 0 then "-" else "") ∧
        r.body.toList = (if F = [] then [D] else D :: '.' :: F) ++
          'e' :: (Numeral.signed (F.length + t)).toList := by
  obtain ⟨D, F, t, hsplit, hD, hlast, hbody⟩ :=
    Decimal.scientific_none (Int.natAbs_pos.2 hn) 0 "e"
  have hlen : ((Numeral.chars 10 false n.natAbs).length : ℤ) = F.length + 1 + t := by
    rw [hsplit]
    simp only [List.length_append, List.length_cons, List.length_replicate]
    push_cast
    ring
  refine ⟨D, F, t, hsplit, hD, hlast, ⟨Rendered.signOf (n < 0) { conversion := .lowerExp }, "",
    Decimal.scientific n.natAbs 0 none "e", true, true⟩, ?_, ?_, ?_⟩
  · rw [render_int]
    rfl
  · simp [Rendered.signOf]
  · rw [hbody, hlen, show (0 : ℤ) + (F.length + 1 + t) - 1 = F.length + t by ring]
    simp

end Bound

end BraceFormat
