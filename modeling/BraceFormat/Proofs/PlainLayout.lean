import BraceFormat.Proofs.ShortestDigits
/-!
# Numbers written out in full

Under display and debug without a precision a number is written out in full, never with an
exponent. A decimal number `c · 10 ^ x` is its coefficient's digits, followed by `x` zeros when
the exponent is positive and with a point before its last `-x` digits when it is negative, so
`2.50` keeps its trailing zero and `1E+16` becomes `10000000000000000`. A binary64 number is
written out the same way from the decimal number its repr text reads as: its shortest digits,
with one zero after the point when its value is integral and repr writes it without exponent
(`1.0`, `1000000000000000.0`), and with none when repr takes an exponent (`10000000000000000`).

The plain layout is the fixed layout with as many fraction digits as the exponent asks for
(`Decimal.plain_eq_layoutFixed`). So it is the numeral of `c · 10 ^ x` with `(-x).toNat` fraction
digits (`Decimal.plain_fixedNumeral`), and a numeral with a point reads back as its digits and the
count of its fraction digits (`Decimal.readFinite_fixedNumeral`). For a binary64 number the value
read back is that of its shortest digits, which lies in its rounding interval, and reading a
binary64 literal takes every number of that interval back to the binary64 number.

## Main results

* `Decimal.plain_fixedNumeral`: the plain layout is the numeral of the number, without exponent.
* `Decimal.readFinite_fixedNumeral`: a numeral with a fixed number of fraction digits reads back.
* `Binary64.readFinite_repr`: the repr text of a binary64 magnitude read as a decimal literal.
* `Binary64.read_signed_plain_repr`: the shortest digits written out, under a sign, read back as
  the binary64 number.
* `written_out_numbers_read_back`: under `{}` and `{:?}`, a binary64 number is written out from
  its repr digits and reads back as itself, and a decimal number is written out and reads back as
  a decimal number of the same value, with the same digits when its exponent is not positive.
-/

namespace BraceFormat

/-! ### Runs of decimal digits -/

namespace Decimal

/-- Folding digits onto an accumulator shifts the accumulator past them. -/
theorem foldl_digits_acc : ∀ (ds : List Char) (acc : ℕ),
    ds.foldl (fun a d => a * 10 + (d.toNat - 48)) acc = acc * 10 ^ ds.length + digitsValue ds
  | [], acc => by simp [digitsValue]
  | d :: ds, acc => by
    have h₁ := foldl_digits_acc ds (acc * 10 + (d.toNat - 48))
    have h₂ := foldl_digits_acc ds (0 * 10 + (d.toNat - 48))
    show _ = acc * 10 ^ (d :: ds).length + (d :: ds).foldl _ 0
    rw [List.foldl_cons, List.foldl_cons, h₁, h₂, List.length_cons, pow_succ]
    ring

theorem digitsValue_append (ds es : List Char) :
    digitsValue (ds ++ es) = digitsValue ds * 10 ^ es.length + digitsValue es := by
  rw [digitsValue, List.foldl_append, foldl_digits_acc]
  rfl

end Decimal

/-- A character with a value below ten is a decimal digit, of its own value. -/
theorem Text.baseDigitValue?_lt_ten {c : Char} {d : ℕ} (hv : Text.baseDigitValue? c = some d)
    (hd : d < 10) : c.isDigit = true ∧ d = c.toNat - 48 := by
  unfold Text.baseDigitValue? at hv
  split_ifs at hv with hdig hlow hup
  · exact ⟨hdig, (Option.some.inj hv).symm⟩
  · simp [Char.isLower, UInt32.le_iff_toNat_le] at hlow
    cases hv
    omega
  · simp [Char.isUpper, UInt32.le_iff_toNat_le] at hup
    cases hv
    omega

/-- **Read in base ten, a numeral is a run of decimal digits**, folded into the accumulator. -/
theorem Text.digitsIn_ten : ∀ {ds : List Char} {acc m : ℕ}, Text.digitsIn 10 ds acc = some m →
    (∀ c ∈ ds, c.isDigit = true) ∧ ds.foldl (fun a d => a * 10 + (d.toNat - 48)) acc = m
  | [], acc, m, h => ⟨fun _ hc => absurd hc List.not_mem_nil, Option.some.inj h⟩
  | c :: cs, acc, m, h => by
    rw [Text.digitsIn] at h
    rcases hv : Text.baseDigitValue? c with _ | d
    · rw [hv] at h
      cases h
    rw [hv] at h
    dsimp only at h
    split_ifs at h with hd
    · obtain ⟨hc, rfl⟩ := Text.baseDigitValue?_lt_ten hv hd
      obtain ⟨hall, hfold⟩ := Text.digitsIn_ten h
      exact ⟨List.forall_mem_cons.2 ⟨hc, hall⟩, hfold⟩

/-! ### Numerals with a point -/

/-- **The characters of a numeral with a fixed number of fraction digits**: ASCII digits, a point
before the last `p` of them when `p` is positive, and all of them together spell the number. -/
theorem Round.FixedNumeral.digits {N p : ℕ} {t : List Char} (h : Round.FixedNumeral N p t) :
    ∃ ip fp, t = ip ++ (if p = 0 then [] else '.' :: fp) ∧ ip ≠ [] ∧
      (∀ c ∈ ip, c.isDigit = true) ∧ (∀ c ∈ fp, c.isDigit = true) ∧ fp.length = p ∧
      Decimal.digitsValue (ip ++ fp) = N := by
  obtain ⟨ip, fp, rfl, hexp, hfl, hfv⟩ := h
  obtain ⟨hip, hipv⟩ := Text.digitsIn_ten hexp.value
  obtain ⟨hfp, hfpv⟩ := Text.digitsIn_ten hfv
  refine ⟨ip, fp, rfl, hexp.nonempty, hip, hfp, hfl, ?_⟩
  rw [Decimal.digitsValue_append, Decimal.digitsValue, Decimal.digitsValue, hipv, hfpv, hfl]
  exact Nat.div_add_mod' N (10 ^ p)

namespace Decimal

/-- **Digits without a point read as themselves**, with the exponent `0`. -/
theorem readFinite_digits {ip : List Char} (hne : ip ≠ []) (hip : ∀ c ∈ ip, c.isDigit = true) :
    readFinite ip = some (digitsValue ip, 0) := by
  have hwhole := @Spec.takeWhile_dropWhile_append _ _ [] hip (by simp)
  rw [List.append_nil] at hwhole
  unfold readFinite
  simp [hwhole.1, hwhole.2, List.isEmpty_eq_false_iff.2 hne]

/-- **Digits with a point read as all their digits**, the exponent counting those after the
point. -/
theorem readFinite_point {ip fp : List Char} (hne : ip ≠ []) (hip : ∀ c ∈ ip, c.isDigit = true)
    (hfp : ∀ c ∈ fp, c.isDigit = true) :
    readFinite (ip ++ '.' :: fp) = some (digitsValue (ip ++ fp), -(fp.length : ℤ)) := by
  have hdot : ('.').isDigit = false := by decide
  have hwhole := @Spec.takeWhile_dropWhile_append _ _ ('.' :: fp) hip (by simp [hdot])
  have hfrac := @Spec.takeWhile_dropWhile_append _ _ [] hfp (by simp)
  rw [List.append_nil] at hfrac
  unfold readFinite
  simp [hwhole.1, hwhole.2, hfrac.1, hfrac.2, List.isEmpty_eq_false_iff.2 hne]

/-- **A numeral with `p` fraction digits reads back** as the number its digits spell, with the
exponent `-p`. -/
theorem readFinite_fixedNumeral {N p : ℕ} {t : List Char} (h : Round.FixedNumeral N p t) :
    readFinite t = some (N, -(p : ℤ)) := by
  obtain ⟨ip, fp, rfl, hne, hip, hfp, hfl, hval⟩ := h.digits
  by_cases hp : p = 0
  · subst hp
    obtain rfl : fp = [] := List.length_eq_zero_iff.1 hfl
    rw [List.append_nil] at hval
    simp only [if_true, List.append_nil, readFinite_digits hne hip, hval, Nat.cast_zero, neg_zero]
  · rw [if_neg hp, readFinite_point hne hip hfp, hval, hfl]

/-- An exponent with a plus sign reads as its digits. -/
theorem readExponent_plus {ds : List Char} (hne : ds ≠ []) (hds : ∀ d ∈ ds, d.isDigit = true) :
    readExponent ('+' :: ds) = some (digitsValue ds : ℤ) := by
  have hall : (!ds.isEmpty && ds.all Char.isDigit) = true := by
    simpa [List.all_eq_true, hne] using hds
  unfold readExponent
  simp only [hall, if_true]
  rfl

/-- A leading zero adds nothing to the value of digits. -/
theorem digitsValue_zero_cons (ds : List Char) : digitsValue ('0' :: ds) = digitsValue ds := by
  rw [show '0' :: ds = ['0'] ++ ds from rfl, digitsValue_append,
    show digitsValue ['0'] = 0 from rfl, Nat.zero_mul, Nat.zero_add]

theorem digitsValue_zeros (n : ℕ) : digitsValue (List.replicate n '0') = 0 := by
  induction n with
  | zero => rfl
  | succ n ih => rw [List.replicate_succ, digitsValue_zero_cons, ih]

theorem digitsValue_zeros_append (n : ℕ) (ds : List Char) :
    digitsValue (List.replicate n '0' ++ ds) = digitsValue ds := by
  induction n with
  | zero => rfl
  | succ n ih => rw [List.replicate_succ, List.cons_append, digitsValue_zero_cons, ih]

/-! ### The plain layout -/

/-- **The plain layout is a fixed layout**: the coefficient with the zeros of a positive exponent,
or with as many fraction digits as a negative exponent asks for. -/
theorem plain_eq_layoutFixed (c : ℕ) (x : ℤ) :
    plain c x = Round.layoutFixed c x.toNat (-x).toNat := by
  rw [← String.toList_inj]
  unfold plain Round.layoutFixed
  rcases lt_trichotomy x 0 with hx | rfl | hx
  · have hxp : decide (x > 0) = false := by simp; omega
    have hp : (-x).toNat ≠ 0 := by omega
    have hz : (if c = 0 then 0 else x.toNat) = 0 := by split_ifs <;> omega
    simp only [hxp, Bool.and_false, Bool.false_eq_true, if_false, hz, hp, not_le.2 hx,
      Nat.add_zero, Nat.le_zero]
    split_ifs with hlead hlen hlen
    · simp [String.toList_append]
      omega
    · omega
    · omega
    · have hk : ((Numeral.chars 10 false c).length + x).toNat =
          (Numeral.chars 10 false c).length - (-x).toNat := by omega
      simp [String.toList_append, hk]
  · cases c <;> simp [String.toList_append]
  · by_cases hc : c = 0
    · subst hc
      simp [hx, hx.le, String.toList_append]
    · simp [hc, hx.le, String.toList_append]

/-- **The plain layout is the numeral of the number** `c · 10 ^ x`, with `(-x).toNat` fraction
digits and no exponent. -/
theorem plain_fixedNumeral (c : ℕ) (x : ℤ) :
    Round.FixedNumeral (c * 10 ^ x.toNat) (-x).toNat (plain c x).toList := by
  rw [plain_eq_layoutFixed, Round.layoutFixed_shift]
  exact Round.fixedNumeral_layoutFixed _ _

/-- The plain layout reads back as the coefficient shifted by a positive exponent, and with the
exponent itself when it is not positive. -/
theorem readFinite_plain (c : ℕ) (x : ℤ) :
    readFinite (plain c x).toList = some (c * 10 ^ x.toNat, min x 0) := by
  rw [readFinite_fixedNumeral (plain_fixedNumeral c x)]
  congr 2
  omega

/-- The plain layout keeps the value: the coefficient shifted by a positive exponent, at the
exponent itself when it is not positive, is `c · 10 ^ x`. -/
theorem plain_value (c : ℕ) (x : ℤ) :
    ((c * 10 ^ x.toNat : ℕ) : ℚ) * 10 ^ (min x 0) = c * 10 ^ x := by
  by_cases hx : 0 ≤ x
  · rw [min_eq_right hx, zpow_zero, mul_one, Nat.cast_mul, Nat.cast_pow, ← zpow_natCast,
      Int.toNat_of_nonneg hx, Nat.cast_ofNat]
  · rw [min_eq_left (by omega), show x.toNat = 0 by omega, pow_zero, mul_one]

/-- The number the plain layout reads back as is in the range of exponents when the number laid
out is: the leading digit stays where it was. -/
theorem inRange_plain {c : ℕ} {x : ℤ} (hr : inRange c x = true) :
    inRange (c * 10 ^ x.toNat) (min x 0) = true := by
  by_cases hx : 0 ≤ x
  · rw [min_eq_right hx]
    have hr' : x + (Round.decimalLength c : ℤ) - 1 ≤ maxAdjusted ∧ minExponent ≤ x := by
      simpa [inRange] using hr
    have hmin : minExponent ≤ 0 := by decide
    rcases Nat.eq_zero_or_pos c with rfl | hc
    · simp [inRange, hmin, Round.decimalLength, Numeral.chars, maxAdjusted]
    · have hlen : Round.decimalLength (c * 10 ^ x.toNat) = Round.decimalLength c + x.toNat := by
        simp [Round.decimalLength, Numeral.chars_mul_ten_pow hc]
      simp only [inRange, hlen, Bool.and_eq_true, decide_eq_true_eq]
      constructor <;> omega
  · rwa [min_eq_left (by omega), show x.toNat = 0 by omega, pow_zero, Nat.mul_one]

/-- The characters of the plain layout: a digit first, then digits and at most a point. -/
theorem plain_chars (c : ℕ) (x : ℤ) :
    ∃ d rest, (plain c x).toList = d :: rest ∧ d.isDigit = true ∧
      ∀ e ∈ rest, e.isDigit = true ∨ e = '.' := by
  obtain ⟨ip, fp, ht, hne, hip, hfp, -, -⟩ := (plain_fixedNumeral c x).digits
  obtain ⟨d, ip', rfl⟩ := List.exists_cons_of_ne_nil hne
  refine ⟨d, ip' ++ (if (-x).toNat = 0 then [] else '.' :: fp), ht, hip d List.mem_cons_self,
    fun e he => ?_⟩
  rcases List.mem_append.1 he with he | he
  · exact .inl (hip e (List.mem_cons_of_mem d he))
  · split_ifs at he
    · cases he
    · rcases List.mem_cons.1 he with rfl | he
      · exact .inr rfl
      · exact .inl (hfp e he)

end Decimal

/-! ### The repr text of a binary64 number -/

namespace Binary64

/-- The exponent of the repr text, a sign and at least two digits, reads back. -/
theorem readExponent_repr (power : ℤ) :
    Decimal.readExponent ((if power < 0 then '-' else '+') ::
        (if (Numeral.chars 10 false power.natAbs).length < 2 then
          '0' :: Numeral.chars 10 false power.natAbs
        else Numeral.chars 10 false power.natAbs)) = some power := by
  have hchars : ∀ d ∈ Numeral.chars 10 false power.natAbs, d.isDigit = true :=
    fun d hd => Numeral.isDigit_of_mem_chars hd
  have hv : Decimal.digitsValue (Numeral.chars 10 false power.natAbs) = power.natAbs :=
    Numeral.digitsValue_chars power.natAbs
  have key : ∀ ds : List Char, (∀ d ∈ ds, d.isDigit = true) → ds ≠ [] →
      Decimal.digitsValue ds = power.natAbs →
      Decimal.readExponent ((if power < 0 then '-' else '+') :: ds) = some power := by
    intro ds hds hne hval
    split_ifs with hp
    · rw [(Decimal.readExponent_digits hne hds).2, hval]
      congr 1
      omega
    · rw [Decimal.readExponent_plus hne hds, hval]
      congr 1
      omega
  -- the digits are padded with a leading zero to two, which adds nothing to their value
  by_cases h2 : (Numeral.chars 10 false power.natAbs).length < 2
  · rw [if_pos h2]
    exact key _ (List.forall_mem_cons.2 ⟨by decide, hchars⟩) (List.cons_ne_nil _ _)
      (by rw [Decimal.digitsValue_zero_cons, hv])
  · rw [if_neg h2]
    exact key _ hchars (Numeral.chars_ne_nil _) hv

theorem isDigit_of_mem_zeros {n : ℕ} {d : Char} (hd : d ∈ List.replicate n '0') :
    d.isDigit = true := by
  rw [List.eq_of_mem_replicate hd]
  rfl

theorem isDigit_of_mem_zero {d : Char} (hd : d ∈ ['0']) : d.isDigit = true := by
  rw [List.mem_singleton.1 hd]
  rfl

section Layouts

variable {ds : List Char} (hds : ∀ d ∈ ds, d.isDigit = true)
include hds

/-- `0.`, zeros, then digits read as the digits, every digit after the point counted in the
exponent. -/
theorem readFinite_leadingZeros (z : ℕ) :
    Decimal.readFinite ('0' :: '.' :: List.replicate z '0' ++ ds) =
      some (Decimal.digitsValue ds, -((z + ds.length : ℕ) : ℤ)) := by
  have h := @Decimal.readFinite_point ['0'] (List.replicate z '0' ++ ds) (List.cons_ne_nil _ _)
    (fun _ => isDigit_of_mem_zero) (fun d hd => (List.mem_append.1 hd).elim
      (fun hd => isDigit_of_mem_zeros hd) (hds d))
  rw [Decimal.digitsValue_append, Decimal.digitsValue_zeros_append,
    show Decimal.digitsValue ['0'] = 0 from rfl, Nat.zero_mul, Nat.zero_add, List.length_append,
    List.length_replicate] at h
  exact h

/-- Digits with a point among them read as the digits, those after the point counted in the
exponent. -/
theorem readFinite_pointAmong {n : ℕ} (hn : 0 < n) (hnl : n < ds.length) :
    Decimal.readFinite (ds.take n ++ '.' :: ds.drop n) =
      some (Decimal.digitsValue ds, -((ds.length - n : ℕ) : ℤ)) := by
  have h := @Decimal.readFinite_point (ds.take n) (ds.drop n)
    (by rw [← List.length_pos_iff, List.length_take]; omega)
    (fun d hd => hds d (List.mem_of_mem_take hd)) (fun d hd => hds d (List.mem_of_mem_drop hd))
  rwa [List.take_append_drop, List.length_drop] at h

/-- Digits, zeros, then `.0` read as the digits shifted past the zeros and the last zero, with
the exponent `-1`. -/
theorem readFinite_trailingZeros (hne : ds ≠ []) (z : ℕ) :
    Decimal.readFinite (ds ++ List.replicate z '0' ++ ['.', '0']) =
      some (Decimal.digitsValue ds * 10 ^ (z + 1), -1) := by
  have h := @Decimal.readFinite_point (ds ++ List.replicate z '0') ['0'] (by simp [hne])
    (fun d hd => (List.mem_append.1 hd).elim (hds d) (fun hd => isDigit_of_mem_zeros hd))
    (fun _ => isDigit_of_mem_zero)
  rw [Decimal.digitsValue_append, Decimal.digitsValue_append, Decimal.digitsValue_zeros,
    show Decimal.digitsValue ['0'] = 0 from rfl, List.length_replicate,
    List.length_singleton] at h
  rw [List.append_assoc, show ['.', '0'] = '.' :: ['0'] from rfl, ← List.append_assoc, h]
  simp [pow_succ, Nat.mul_assoc]

end Layouts

/-- **The repr layout, read as a decimal literal**, gives the digits and their power of ten, one
place further with one more zero when the text ends in `.0`. -/
theorem readFinite_reprLayout (c : ℕ) (k : ℤ) :
    Decimal.readFinite (reprLayout (Numeral.chars 10 false c)
        (k + (Numeral.chars 10 false c).length)).toList =
      some (if -4 < k + Round.decimalLength c ∧ k + Round.decimalLength c ≤ 16 ∧
          Round.decimalLength c ≤ k + Round.decimalLength c then
        (c * 10 ^ (k + Round.decimalLength c - Round.decimalLength c + 1).toNat, -1)
      else (c, k)) := by
  have hds : ∀ d ∈ Numeral.chars 10 false c, d.isDigit = true :=
    fun d hd => Numeral.isDigit_of_mem_chars hd
  have hval : Decimal.digitsValue (Numeral.chars 10 false c) = c := Numeral.digitsValue_chars c
  have hne := Numeral.chars_ne_nil c
  have hlen : Round.decimalLength c = (Numeral.chars 10 false c).length := rfl
  have hpos : 0 < (Numeral.chars 10 false c).length := List.length_pos_iff.2 hne
  rw [hlen]
  generalize Numeral.chars 10 false c = ds at hds hval hne hpos ⊢
  generalize hP : k + (ds.length : ℤ) = P
  unfold reprLayout
  by_cases hA : -4 < P ∧ P ≤ 16
  · rw [if_pos (by simpa using hA)]
    by_cases hlead : P ≤ 0
    · rw [if_pos hlead, if_neg (show ¬(-4 < P ∧ P ≤ 16 ∧ (ds.length : ℤ) ≤ P) by omega),
        String.toList_ofList, readFinite_leadingZeros hds, hval]
      congr 2
      omega
    rw [if_neg hlead]
    by_cases hin : P.toNat < ds.length
    · rw [if_pos hin, if_neg (show ¬(-4 < P ∧ P ≤ 16 ∧ (ds.length : ℤ) ≤ P) by omega),
        String.toList_ofList, readFinite_pointAmong hds (by omega) hin, hval]
      congr 2
      omega
    · rw [if_neg hin, if_pos (show -4 < P ∧ P ≤ 16 ∧ (ds.length : ℤ) ≤ P by omega),
        String.toList_ofList, readFinite_trailingZeros hds hne, hval]
      have hexp : (P - ds.length + 1).toNat = P.toNat - ds.length + 1 := by omega
      rw [hexp]
  · rw [if_neg (by simpa using hA), if_neg (show ¬(-4 < P ∧ P ≤ 16 ∧ (ds.length : ℤ) ≤ P) by omega),
      String.toList_ofList]
    subst hP
    obtain ⟨D, F, rfl⟩ := List.exists_cons_of_ne_nil hne
    have hD : D.isDigit = true := hds D List.mem_cons_self
    have hF : ∀ f ∈ F, f.isDigit = true := fun f hf => hds f (List.mem_cons_of_mem D hf)
    have key : ∀ E, Decimal.readExponent E = some (k + (D :: F).length - 1) →
        Decimal.readFinite ((if F = [] then [D] else D :: '.' :: F) ++ 'e' :: E) = some (c, k) := by
      intro E hE
      rw [Decimal.readFinite_mantissa hD hF, hE, Option.map_some, hval]
      congr 2
      simp only [List.length_cons]
      omega
    cases F <;> exact key _ (readExponent_repr _)

/-- **The repr text of a finite number's magnitude, read as a decimal literal**, is the decimal
number `reprDecimal` stands for. -/
theorem readFinite_repr (f : Fin 2047) (fr : Fin (Nat.pow 2 52)) :
    Decimal.readFinite (repr (.finite false f fr)).toList = some (reprDecimal f fr) := by
  rw [repr, reprDecimal]
  generalize shortest f fr = ck
  obtain ⟨c, k⟩ := ck
  dsimp only
  by_cases hc : c = 0
  · rw [if_pos hc, if_pos hc]
    rfl
  · rw [if_neg hc, if_neg hc, String.toList_append, if_neg Bool.false_ne_true,
      show ("" : String).toList = [] from rfl, List.nil_append, readFinite_reprLayout]
    simp only [Round.decimalLength, Nat.pow_eq, Bool.and_eq_true, and_assoc]
    exact congrArg some (if_congr ⟨fun h => ⟨decide_eq_true h.1, decide_eq_true h.2.1,
      decide_eq_true h.2.2⟩, fun h => ⟨of_decide_eq_true h.1, of_decide_eq_true h.2.1,
      of_decide_eq_true h.2.2⟩⟩ rfl rfl)

end Binary64

/-! ### Reading a signed text -/

namespace Rendered

/-- The sign of a rendering is written with numeral characters. -/
theorem numeralChar_of_mem_signOf {neg : Bool} {spec : Spec} {e : Char}
    (he : e ∈ (signOf neg spec).toList) : Text.NumeralChar e := by
  rw [signOf_toList] at he
  split_ifs at he
  · rw [List.mem_singleton.1 he]
    exact Text.numeralChar_mark (.inr (.inr rfl))
  · rw [List.mem_singleton.1 he]
    exact ⟨by decide, by decide, by decide⟩
  · cases he

end Rendered

/-- **The sign of a rendering reads back**: before a digit, reading takes it off and finds the
number negative exactly when the sign is `-`. -/
theorem Decimal.readSign_signOf (neg : Bool) (spec : Spec) {d : Char} (hd : d.isDigit = true)
    (rest : List Char) :
    Decimal.readSign ((Rendered.signOf neg spec).toList ++ d :: rest) = (neg, d :: rest) := by
  rw [Rendered.signOf_toList]
  cases neg
  · cases spec.plus
    · exact Decimal.readSign_of_isDigit hd rest
    · rfl
  · rfl

/-- A signed numeral that starts with a digit is read as a finite decimal number of that sign. -/
theorem Decimal.readAscii_signed (neg : Bool) (spec : Spec) {d : Char} (hd : d.isDigit = true)
    (rest : List Char) :
    Decimal.readAscii ((Rendered.signOf neg spec).toList ++ d :: rest) =
      (Decimal.readFinite (d :: rest)).map fun (c, x) => .finite neg c x :=
  Decimal.readAscii_of_readSign hd (Decimal.readSign_signOf neg spec hd rest)

/-- A signed literal that starts with a digit and has no underscore is read as the binary64
number nearest to its digits, under its sign. -/
theorem Binary64.readAscii_signed (neg : Bool) (spec : Spec) {d : Char} (hd : d.isDigit = true)
    {rest : List Char} (hu : '_' ∉ d :: rest) :
    Binary64.readAscii ((Rendered.signOf neg spec).toList ++ d :: rest) =
      (Decimal.readFinite (d :: rest)).map fun (c, x) => Binary64.ofScientific neg c x :=
  Binary64.readAscii_of_readSign hd hu (Decimal.readSign_signOf neg spec hd rest)

/-- The characters of a signed plain layout are numeral characters. -/
theorem Decimal.numeralChar_of_signed_plain {neg : Bool} {spec : Spec} {c : ℕ} {x : ℤ}
    {e : Char} (he : e ∈ (Rendered.signOf neg spec).toList ++ (Decimal.plain c x).toList) :
    Text.NumeralChar e ∧ e ≠ '_' := by
  obtain ⟨d, rest, hpl, hd, hrest⟩ := Decimal.plain_chars c x
  have hnum : Text.NumeralChar e := by
    rw [hpl] at he
    rcases List.mem_append.1 he with he | he
    · exact Rendered.numeralChar_of_mem_signOf he
    · rcases List.mem_cons.1 he with rfl | he
      · exact Text.numeralChar_of_isDigit hd
      · rcases hrest e he with h | rfl
        · exact Text.numeralChar_of_isDigit h
        · exact Text.numeralChar_mark (.inl rfl)
  exact ⟨hnum, hnum.2.2⟩

/-- **A signed plain layout reads back as a decimal number** of its sign: the coefficient shifted
by a positive exponent, and the exponent itself when it is not positive. -/
theorem Decimal.read_signed_plain (neg : Bool) (spec : Spec) {c : ℕ} {x : ℤ}
    (hr : Decimal.inRange c x = true) :
    Decimal.read (Rendered.signOf neg spec ++ Decimal.plain c x) =
      .ok (.finite neg (c * 10 ^ x.toNat) (min x 0)) := by
  obtain ⟨d, rest, hpl, hd, -⟩ := Decimal.plain_chars c x
  have hall := fun e (he : e ∈ (Rendered.signOf neg spec).toList ++ d :: rest) =>
    (Decimal.numeralChar_of_signed_plain (hpl ▸ he)).1
  rw [Decimal.read, ← String.ofList_toList (s := _ ++ _), String.toList_append, hpl,
    Decimal.numeralChars_ofList hall, Decimal.readAscii_signed neg spec hd, ← hpl,
    Decimal.readFinite_plain]
  simp [Decimal.inRange_plain hr]

/-- **The shortest digits written out read back as the binary64 number**, under its sign: their
value lies in its rounding interval. -/
theorem Binary64.read_signed_plain_repr (neg : Bool) (spec : Spec) (f : Fin 2047)
    (fr : Fin (Nat.pow 2 52)) :
    Binary64.read (Rendered.signOf neg spec ++
        Decimal.plain (Binary64.reprDecimal f fr).1 (Binary64.reprDecimal f fr).2) =
      .ok (.finite neg f fr) := by
  obtain ⟨d, rest, hpl, hd, -⟩ :=
    Decimal.plain_chars (Binary64.reprDecimal f fr).1 (Binary64.reprDecimal f fr).2
  have hchar := fun e (he : e ∈ (Rendered.signOf neg spec).toList ++ d :: rest) =>
    Decimal.numeralChar_of_signed_plain (hpl ▸ he)
  have hall : ∀ e ∈ (Rendered.signOf neg spec).toList ++ d :: rest,
      e.toNat < 128 ∧ Integer.isAsciiBlank e = false := fun e he =>
    ⟨by have := (hchar e he).1.2.1; omega, (hchar e he).1.plain.2.1⟩
  have hu : '_' ∉ d :: rest := fun h =>
    (hchar '_' (List.mem_append_right _ h)).2 rfl
  rw [Binary64.read, ← String.ofList_toList (s := _ ++ _), String.toList_append, hpl,
    String.toList_ofList, Text.trimAsciiBlanks_map_asciiNumeral hall,
    Binary64.readAscii_signed neg spec hd hu, ← hpl, Decimal.readFinite_plain, Option.map_some]
  dsimp only
  congr 1
  rcases Nat.eq_zero_or_pos (Binary64.significand f fr) with h0 | hm
  · obtain ⟨rfl, rfl⟩ := Binary64.eq_zero_of_significand h0
    rw [(Binary64.reprDecimal_roundsTo 0 0).1 h0]
    rfl
  · obtain ⟨hc, hq⟩ := (Binary64.reprDecimal_roundsTo f fr).2 hm
    refine Binary64.ofScientific_of_roundsTo neg (Nat.mul_pos hc (Nat.pow_pos (by norm_num : 0 < 10))) hm ?_
    rwa [Decimal.plain_value]


/-! ### Rendering without a precision -/

/-- Display and debug have no exponent marker and are among the conversions of a float. -/
theorem Conversion.plain_of_display_or_debug {conv : Conversion}
    (hconv : conv = .display ∨ conv = .debug) :
    Rendered.marker? conv = none ∧ Kind.float.natural.has conv.capability = true := by
  rcases hconv with rfl | rfl <;> exact ⟨rfl, by decide⟩

/-- Under display or debug without a precision, a finite binary64 number renders as its sign and
its shortest digits written out. -/
theorem Bound.render_float_plain {spec : Spec}
    (hconv : spec.conversion = .display ∨ spec.conversion = .debug) (neg : Bool) (f : Fin 2047)
    (fr : Fin (Nat.pow 2 52)) (offset : ℕ) :
    ((Value.float (.finite neg f fr)).bind Option.none).render spec none offset =
      .ok ⟨Rendered.signOf neg spec, "",
        Decimal.plain (Binary64.reprDecimal f fr).1 (Binary64.reprDecimal f fr).2, true, true⟩ := by
  obtain ⟨hm, hcap⟩ := Conversion.plain_of_display_or_debug hconv
  rw [Bound.render_float, if_pos hcap]
  rcases h : Binary64.reprDecimal f fr with ⟨c, k⟩
  simp [Rendered.ofBinary64, hm, h, Except.mapError]

/-- Under display or debug without a precision, a finite decimal number renders as its sign and
its plain layout, unless that layout does not fit in the memory. -/
theorem Bound.render_decimal_plain {spec : Spec}
    (hconv : spec.conversion = .display ∨ spec.conversion = .debug) (neg : Bool) (c : ℕ) (x : ℤ)
    (offset : ℕ) :
    ((Value.decimal (.finite neg c x)).bind Option.none).render spec none offset =
      if memoryLimit ≤ Decimal.plainLength c x then .error (.fault .outOfMemory)
      else .ok ⟨Rendered.signOf neg spec, "", Decimal.plain c x, true, true⟩ := by
  obtain ⟨hm, hcap⟩ := Conversion.plain_of_display_or_debug hconv
  rw [Bound.render_decimal, if_pos hcap]
  by_cases hlim : memoryLimit ≤ Decimal.plainLength c x <;>
    simp [Rendered.ofDecimal, hm, Rendered.checked, Decimal.plainFault?, hlim, Except.mapError]

/-- Without a width a placeholder's text is its unpadded rendering. -/
theorem Piece.render_slot_unpadded (spec : Spec) (b : Bound) (p : Option ℕ) (o : ℕ) :
    (Piece.slot spec b none p o).render = Rendered.text <$> b.render spec p o := by
  rcases h : b.render spec p o with e | r
  · simp [Piece.render, h, bind, Except.bind, Functor.map, Except.map]
  · simp [Piece.render_slot_of_render h, Functor.map, Except.map]

/-- **Numbers written out in full read back.** Under `{}` or `{:?}`, without a width or a
precision:

* a finite binary64 number, negative zeros and subnormal numbers included, is written as its
  sign and the digits of its repr text laid out with no exponent; the text reads back as the
  number itself, its sign included;
* a finite decimal number is written as its sign and its digits laid out with no exponent,
  whenever that text fits in the memory; the text reads back as a decimal number of the same
  sign and value, which keeps the coefficient and the exponent when the exponent is not
  positive and writes the digits of a positive exponent out. -/
theorem written_out_numbers_read_back {spec : Spec}
    (hconv : spec.conversion = .display ∨ spec.conversion = .debug) (offset : ℕ) :
    (∀ (neg : Bool) (f : Fin 2047) (fr : Fin (Nat.pow 2 52)),
      ∃ c k, Decimal.readFinite (Binary64.repr (.finite false f fr)).toList = some (c, k) ∧
        (Piece.slot spec ((Value.float (.finite neg f fr)).bind Option.none) none none
          offset).render = .ok (Rendered.signOf neg spec ++ Decimal.plain c k) ∧
        Round.FixedNumeral (c * 10 ^ k.toNat) (-k).toNat (Decimal.plain c k).toList ∧
        Binary64.read (Rendered.signOf neg spec ++ Decimal.plain c k) =
          .ok (.finite neg f fr)) ∧
    (∀ (neg : Bool) (c : ℕ) (x : ℤ), Decimal.inRange c x = true →
      ((∃ s, (Piece.slot spec ((Value.decimal (.finite neg c x)).bind Option.none) none none
          offset).render = .ok s) ↔ Decimal.plainLength c x < memoryLimit) ∧
      ∀ s, (Piece.slot spec ((Value.decimal (.finite neg c x)).bind Option.none) none none
          offset).render = .ok s →
        s = Rendered.signOf neg spec ++ Decimal.plain c x ∧
        Round.FixedNumeral (c * 10 ^ x.toNat) (-x).toNat (Decimal.plain c x).toList ∧
        Decimal.read s = .ok (.finite neg (c * 10 ^ x.toNat) (min x 0)) ∧
        ((c * 10 ^ x.toNat : ℕ) : ℚ) * 10 ^ (min x 0) = c * 10 ^ x) := by
  refine ⟨fun neg f fr => ?_, fun neg c x hr => ?_⟩
  · refine ⟨(Binary64.reprDecimal f fr).1, (Binary64.reprDecimal f fr).2,
      Binary64.readFinite_repr f fr, ?_, Decimal.plain_fixedNumeral _ _,
      Binary64.read_signed_plain_repr neg spec f fr⟩
    rw [Piece.render_slot_of_render (Bound.render_float_plain hconv neg f fr offset),
      Rendered.text, String.append_empty]
  · rw [Piece.render_slot_unpadded, Bound.render_decimal_plain hconv]
    by_cases hlim : memoryLimit ≤ Decimal.plainLength c x
    · simp [hlim, Functor.map, Except.map]
    · refine ⟨⟨fun _ => Nat.not_le.1 hlim, fun _ => by simp [hlim, Functor.map, Except.map]⟩,
        fun s hs => ?_⟩
      have hs : s = Rendered.signOf neg spec ++ Decimal.plain c x := by
        simpa [hlim, Functor.map, Except.map, Rendered.text, eq_comm] using hs
      subst hs
      exact ⟨rfl, Decimal.plain_fixedNumeral c x, Decimal.read_signed_plain neg spec hr,
        Decimal.plain_value c x⟩

/-- The decimal number `1E+16` is written out as seventeen digits under `{}`, and reads back as
that many digits. -/
theorem decimal_one_e_sixteen_written_out :
    (({ conversion := .display } : Spec).conversion = .display ∨
        ({ conversion := .display } : Spec).conversion = .debug) ∧
      (Piece.slot { conversion := .display } ((Value.decimal (.finite false 1 16)).bind Option.none)
          none none 0).render = .ok "10000000000000000" ∧
      Decimal.read "10000000000000000" = .ok (.finite false (10 ^ 16) 0) := by
  obtain ⟨-, hdec⟩ := @written_out_numbers_read_back { conversion := .display } (.inl rfl) 0
  obtain ⟨hiff, hspec⟩ := hdec false 1 16 (by decide +kernel)
  obtain ⟨s, hs⟩ := hiff.2 (by decide +kernel)
  obtain ⟨rfl, -, hread, -⟩ := hspec s hs
  have htext : Rendered.signOf false { conversion := .display } ++ Decimal.plain 1 16 =
      "10000000000000000" := by decide +kernel
  rw [htext] at hs hread
  exact ⟨.inl rfl, hs, by simpa using hread⟩

example : Decimal.plain 250 (-2) = "2.50" := by decide +kernel
example : Decimal.plain 5 (-324) = "0." ++ String.ofList (List.replicate 323 '0') ++ "5" := by
  decide +kernel

end BraceFormat
