import BraceFormat.Render.Engine
import BraceFormat.Proofs.Numerals
import BraceFormat.Proofs.SpecText
import BraceFormat.Proofs.FirstFailure
/-!
# Integers in binary, octal and hexadecimal

An integer under `b`, `o`, `x` or `X` is written as its sign, the base prefix under the alternate
flag, and the digits of its magnitude in the base, lower case but for `X`; padding then puts
spaces around that text, or zeros between the prefix and the digits under the zero flag. Read
back in the base with the spaces stripped, the text gives the integer again, whatever its size,
its sign and the flags. The text is always made but for a width of `memoryLimit` characters or
more, whose padding cannot be made.

`Text.readInBase` is that reading: ASCII blanks at the ends, a sign, the prefix of the base in
either case with one underscore after it, and digits of the base with single underscores between
them. The proof takes the layout apart: padding gives the text a fixed shape
(`Rendered.pad_toList`), stripping the spaces leaves the unpadded text with the zeros in it
(`Rendered.strip_pad`), and the digits of a numeral read back as its number
(`Text.digitsIn_chars`), leading zeros adding nothing.

## Main definitions

* `Text.baseDigitValue?`, `Text.digitsIn`, `Text.readInBase`: reading an integer in a base.
* `Text.strip`: a text without a character at either end.
* `BaseConversion`: the four base conversions with their base, letter case and prefix.
* `Text.Expansion`: the expansion of a number in a base.

## Main results

* `Text.expansion_chars`: a numeral in a base is the expansion of its number.
* `Text.readInBase_layout`: the unpadded text of an integer reads back as it.
* `Rendered.pad_toList`, `Rendered.strip_pad`: the shape of a padded rendering.
* `Rendered.memoryLimit_le_of_padFault?`: padding fails only from `memoryLimit` on.
* `base_rendering_reads_back`: the text of an integer under a base conversion reads back as it.
-/

namespace BraceFormat

/-! ### The four base conversions -/

/-- A base conversion with its base, whether its letters are upper case, and its prefix. The
prefix is lower case for upper-case hexadecimal too. -/
inductive BaseConversion : Conversion → Nat → Bool → List Char → Prop
  | binary : BaseConversion .binary 2 false ['0', 'b']
  | octal : BaseConversion .octal 8 false ['0', 'o']
  | lowerHex : BaseConversion .lowerHex 16 false ['0', 'x']
  | upperHex : BaseConversion .upperHex 16 true ['0', 'x']

namespace Numeral

variable {b : Nat}

theorem lt_of_mem_lowDigits (hb : 2 ≤ b) : ∀ {n d : Nat}, d ∈ lowDigits b n → d < b
  | n, d, h => by
    rcases Nat.eq_zero_or_pos n with rfl | hn
    · simp at h
    · rw [lowDigits_of_pos hb hn, List.mem_cons] at h
      rcases h with rfl | h
      · exact Nat.mod_lt _ (by omega)
      · have : n / b < n := Nat.div_lt_self hn (by omega)
        exact lt_of_mem_lowDigits hb h

/-- The digits of `n`, most significant first, fold back into `n`. -/
theorem foldl_lowDigits (hb : 2 ≤ b) : ∀ n : Nat,
    (lowDigits b n).reverse.foldl (fun acc d => acc * b + d) 0 = n
  | n => by
    rcases Nat.eq_zero_or_pos n with rfl | hn
    · simp
    · have : n / b < n := Nat.div_lt_self hn (by omega)
      rw [lowDigits_of_pos hb hn, List.reverse_cons, List.foldl_append, foldl_lowDigits hb (n / b),
        List.foldl_cons, List.foldl_nil, Nat.div_add_mod']

/-- The most significant digit of a positive number is not zero. -/
theorem getLast?_lowDigits_ne_zero (hb : 2 ≤ b) :
    ∀ {n : Nat}, 0 < n → ∀ d ∈ (lowDigits b n).getLast?, d ≠ 0
  | n, hn, d, hd => by
    rw [lowDigits_of_pos hb hn] at hd
    rcases Nat.eq_zero_or_pos (n / b) with h0 | hpos
    · rw [h0, lowDigits_zero, List.getLast?_singleton, Option.mem_def, Option.some.injEq] at hd
      have hlt : n < b := (Nat.div_eq_zero_iff_lt (by omega)).1 h0
      rw [← hd, Nat.mod_eq_of_lt hlt]
      omega
    · have : n / b < n := Nat.div_lt_self hn (by omega)
      rw [lowDigits_of_pos hb hpos, List.getLast?_cons_cons, ← lowDigits_of_pos hb hpos] at hd
      exact getLast?_lowDigits_ne_zero hb hpos d hd

end Numeral

namespace Text

/-! ### Reading an integer in a base -/

/-- The value of an ASCII digit in the bases up to 36: `0`–`9`, then the letters of either
case. -/
def baseDigitValue? (c : Char) : Option Nat :=
  if c.isDigit then some (c.toNat - 48)
  else if c.isLower then some (c.toNat - 87)
  else if c.isUpper then some (c.toNat - 55)
  else none

/-- Digits of a base folded into an accumulator; `none` at a character that is no digit of the
base. -/
def digitsIn (base : Nat) : List Char → Nat → Option Nat
  | [], acc => some acc
  | c :: cs, acc =>
    match baseDigitValue? c with
    | some d => if d < base then digitsIn base cs (acc * base + d) else none
    | none => none

/-- The letter after the `0` of a base's prefix: `0b`, `0o`, `0x`. -/
def prefixLetter? : Nat → Option Char
  | 2 => some 'b'
  | 8 => some 'o'
  | 16 => some 'x'
  | _ => none

/-- What the text after the sign holds of digits: the base's prefix in either case is dropped,
with one underscore after it. -/
def afterPrefix (base : Nat) (cs : List Char) : List Char :=
  match prefixLetter? base, cs with
  | some p, '0' :: c :: rest =>
    if c.toLower = p then
      match rest with
      | '_' :: r => r
      | r => r
    else cs
  | _, _ => cs

/-- An integer read in a base from 2 to 36. The text is first brought to ASCII
(`Text.asciiNumeral`) and the ASCII blanks at its ends dropped; then come an optional sign, the
base's prefix in either case for bases 2, 8 and 16, and at least one digit of the base, single
underscores allowed between digits. -/
def readInBase (base : Nat) (cs : List Char) : Option Int :=
  let (neg, cs) := Decimal.readSign (Binary64.trimAsciiBlanks (cs.map asciiNumeral))
  let body := afterPrefix base cs
  if !body.isEmpty && Integer.joined body then
    (digitsIn base (body.filter (· ≠ '_')) 0).map fun n => if neg then -(n : Int) else n
  else none

/-- A text without the character `c` at either end. -/
def strip (c : Char) (cs : List Char) : List Char :=
  ((cs.dropWhile (· = c)).reverse.dropWhile (· = c)).reverse

/-! ### Numerals read back -/

theorem baseDigitValue?_digitChar : ∀ upper : Bool, ∀ d < 36,
    baseDigitValue? (Numeral.digitChar upper d) = some d := by
  decide

theorem digitsIn_map_digitChar {base : Nat} (hbase : base ≤ 36) (upper : Bool) :
    ∀ (ds : List Nat) (acc : Nat), (∀ d ∈ ds, d < base) →
      digitsIn base (ds.map (Numeral.digitChar upper)) acc =
        some (ds.foldl (fun acc d => acc * base + d) acc)
  | [], _, _ => rfl
  | d :: ds, acc, h => by
    have hd : d < base := h d List.mem_cons_self
    simp only [List.map_cons, digitsIn, baseDigitValue?_digitChar upper d (by omega), if_pos hd,
      List.foldl_cons]
    exact digitsIn_map_digitChar hbase upper ds _ fun x hx => h x (List.mem_cons_of_mem d hx)

/-- **A numeral in a base reads back as its number.** -/
theorem digitsIn_chars {base : Nat} (h2 : 2 ≤ base) (h36 : base ≤ 36) (upper : Bool) (n : Nat) :
    digitsIn base (Numeral.chars base upper n) 0 = some n := by
  rcases Nat.eq_zero_or_pos n with rfl | hn
  · have hzero : baseDigitValue? '0' = some 0 := by decide
    simp [Numeral.chars, digitsIn, hzero]
    omega
  · rw [Numeral.chars, if_neg (Nat.pos_iff_ne_zero.1 hn),
      digitsIn_map_digitChar h36 upper _ _ fun d hd =>
        Numeral.lt_of_mem_lowDigits h2 (List.mem_reverse.1 hd),
      Numeral.foldl_lowDigits h2]

/-- Leading zeros add nothing. -/
theorem digitsIn_zeros {base : Nat} (hbase : 0 < base) (z : Nat) (cs : List Char) :
    digitsIn base (List.replicate z '0' ++ cs) 0 = digitsIn base cs 0 := by
  induction z with
  | zero => rfl
  | succ z ih =>
    have hzero : baseDigitValue? '0' = some 0 := by decide
    simp only [List.replicate_succ, List.cons_append, digitsIn, hzero, if_pos hbase, Nat.zero_mul,
      Nat.zero_add, ih]

/-- A text without underscores has its underscores between digits. -/
theorem joined_of_no_underscore : ∀ {cs : List Char}, '_' ∉ cs → Integer.joined cs = true
  | [], _ => by simp [Integer.joined]
  | [c], h => by
    have hc : c ≠ '_' := fun he => h (he ▸ List.mem_singleton_self c)
    rw [Integer.joined.eq_def]
    split <;> simp_all
  | c :: d :: rest, h => by
    have hd : d ≠ '_' := fun he => h (he ▸ List.mem_cons_of_mem c List.mem_cons_self)
    have hc : c ≠ '_' := fun he => h (he ▸ List.mem_cons_self)
    have ih := @joined_of_no_underscore (d :: rest) fun hm => h (List.mem_cons_of_mem c hm)
    rw [Integer.joined.eq_def]
    split <;> simp_all

/-- The expansion of `m` in base `B`: digits of the base that read as `m`, letters in upper case
when `upper` is set and in lower case otherwise, and no leading zero but the one digit of zero. -/
structure Expansion (B : Nat) (upper : Bool) (ds : List Char) (m : Nat) : Prop where
  value : digitsIn B ds 0 = some m
  letters : ∀ c ∈ ds, c.isDigit = true ∨ (if upper then c.isUpper else c.isLower) = true
  nonempty : ds ≠ []
  leading : ds = ['0'] ∨ ∀ c ∈ ds.head?, c ≠ '0'

/-- What every digit character is: ASCII, no blank, no underscore and no sign, a decimal digit or
a letter of the asked case. -/
theorem digitChar_plain : ∀ upper : Bool, ∀ d < 36,
    (Numeral.digitChar upper d).toNat < 128 ∧ Integer.isAsciiBlank (Numeral.digitChar upper d) = false ∧
      Numeral.digitChar upper d ≠ ' ' ∧ Numeral.digitChar upper d ≠ '_' ∧
      Numeral.digitChar upper d ≠ '-' ∧ Numeral.digitChar upper d ≠ '+' ∧
      ((Numeral.digitChar upper d).isDigit = true ∨
        (if upper then (Numeral.digitChar upper d).isUpper
          else (Numeral.digitChar upper d).isLower) = true) := by
  decide

theorem mem_chars {B : Nat} (hB : 2 ≤ B) {upper : Bool} {m : Nat} {c : Char}
    (h : c ∈ Numeral.chars B upper m) : ∃ d < B, c = Numeral.digitChar upper d := by
  unfold Numeral.chars at h
  split at h
  · rw [List.mem_singleton] at h
    exact ⟨0, by omega, h⟩
  · obtain ⟨d, hd, rfl⟩ := List.mem_map.1 h
    exact ⟨d, Numeral.lt_of_mem_lowDigits hB (List.mem_reverse.1 hd), rfl⟩

/-- Only zero is written with a leading `0`, in any base. -/
theorem head_chars_ne_zero {B : Nat} (hB : 2 ≤ B) (h36 : B ≤ 36) (upper : Bool) {m : Nat}
    (hm : 0 < m) :
    ∀ c ∈ (Numeral.chars B upper m).head?, c ≠ '0' := by
  intro c hc
  rw [Numeral.chars, if_neg (Nat.pos_iff_ne_zero.1 hm), List.head?_map, List.head?_reverse,
    Option.mem_def, Option.map_eq_some_iff] at hc
  obtain ⟨d, hd, rfl⟩ := hc
  have hlt : d < B := Numeral.lt_of_mem_lowDigits hB (List.mem_of_getLast? hd)
  have hdigit : ∀ d < 36, 0 < d → Numeral.digitChar upper d ≠ '0' := by
    cases upper <;> decide
  exact hdigit d (by omega) (Nat.pos_of_ne_zero (Numeral.getLast?_lowDigits_ne_zero hB hm d hd))

/-- **A numeral is the expansion of its number.** -/
theorem expansion_chars {B : Nat} (hB : 2 ≤ B) (h36 : B ≤ 36) (upper : Bool) (m : Nat) :
    Expansion B upper (Numeral.chars B upper m) m where
  value := digitsIn_chars hB h36 upper m
  letters c hc := by
    obtain ⟨d, hd, rfl⟩ := mem_chars hB hc
    exact (digitChar_plain upper d (by omega)).2.2.2.2.2.2
  nonempty := by
    unfold Numeral.chars
    split
    · exact List.cons_ne_nil _ _
    · rw [Numeral.lowDigits_of_pos hB (Nat.pos_of_ne_zero ‹_›)]
      simp
  leading := by
    rcases Nat.eq_zero_or_pos m with rfl | hm
    · exact .inl rfl
    · exact .inr (head_chars_ne_zero hB h36 upper hm)

/-! ### Reading the unpadded text back -/

theorem dropWhile_of_forall_false {p : Char → Bool} :
    ∀ {cs : List Char}, (∀ c ∈ cs, p c = false) → cs.dropWhile p = cs
  | [], _ => rfl
  | c :: _, h => List.dropWhile_cons_of_neg (by simp [h c List.mem_cons_self])

/-- A text of ASCII characters without blanks is read as it stands. -/
theorem trimAsciiBlanks_map_asciiNumeral {cs : List Char}
    (h : ∀ c ∈ cs, c.toNat < 128 ∧ Integer.isAsciiBlank c = false) :
    Binary64.trimAsciiBlanks (cs.map asciiNumeral) = cs := by
  have hmap : cs.map asciiNumeral = cs := by
    conv_rhs => rw [← List.map_id cs]
    exact List.map_congr_left fun c hc => asciiNumeral_of_lt (h c hc).1
  rw [hmap, Binary64.trimAsciiBlanks, dropWhile_of_forall_false fun c hc => (h c hc).2,
    dropWhile_of_forall_false fun c hc => (h c (List.mem_reverse.1 hc)).2, List.reverse_reverse]

end Text

/-- The prefix letter of a base conversion, which no digit of the base spells in either case. -/
theorem BaseConversion.prefixLetter {c : Conversion} {B : Nat} {upper : Bool} {pre : List Char}
    (hc : BaseConversion c B upper pre) :
    ∃ p, pre = ['0', p] ∧ Text.prefixLetter? B = some p ∧ p.toLower = p ∧
      ∀ d < B, (Numeral.digitChar upper d).toLower ≠ p := by
  cases hc <;> exact ⟨_, rfl, rfl, rfl, by decide⟩

theorem BaseConversion.base_bounds {c : Conversion} {B : Nat} {upper : Bool} {pre : List Char}
    (hc : BaseConversion c B upper pre) : 2 ≤ B ∧ B ≤ 36 := by
  cases hc <;> decide

/-- The characters of a base prefix are plain ASCII: no blank and no space. -/
theorem BaseConversion.prefix_plain {c : Conversion} {B : Nat} {upper : Bool} {pre : List Char}
    (hc : BaseConversion c B upper pre) :
    ∀ q ∈ pre, q.toNat < 128 ∧ Integer.isAsciiBlank q = false ∧ q ≠ ' ' := by
  intro q hq
  cases hc <;> simp only [List.mem_cons, List.not_mem_nil, or_false] at hq <;>
    rcases hq with rfl | rfl <;> decide

namespace Text

/-- Digits of the base are left whole: they never start with the base's prefix. -/
theorem afterPrefix_of_digits {B : Nat} {upper : Bool} {p : Char} (hp : prefixLetter? B = some p)
    (hnot : ∀ d < B, (Numeral.digitChar upper d).toLower ≠ p) {cs : List Char}
    (hcs : ∀ c ∈ cs, ∃ d < B, c = Numeral.digitChar upper d) : afterPrefix B cs = cs := by
  unfold afterPrefix
  split
  · rename_i q x rest hq
    rw [hp, Option.some.injEq] at hq
    subst hq
    obtain ⟨d, hd, hx⟩ := hcs x (List.mem_cons_of_mem _ List.mem_cons_self)
    rw [if_neg (hx ▸ hnot d hd)]
  · rfl

/-- **A signed run of digits reads back.** A sign, the prefix of a base conversion if written,
and digits of the base read as the number the digits spell, with the sign. -/
theorem readInBase_digits {c : Conversion} {B : Nat} {upper : Bool} {pre : List Char}
    (hc : BaseConversion c B upper pre) {neg : Bool} {sign : List Char}
    (hsign : sign = ['-'] ∧ neg = true ∨ sign = ['+'] ∧ neg = false ∨ sign = [] ∧ neg = false)
    (alt : Bool) {body : List Char} (hdigits : ∀ x ∈ body, ∃ d < B, x = Numeral.digitChar upper d)
    (hne : body ≠ []) {m : Nat} (hvalue : digitsIn B body 0 = some m) :
    readInBase B (sign ++ ((if alt then pre else []) ++ body)) =
      some (if neg then -(m : Int) else m) := by
  have h36 := hc.base_bounds.2
  have hpAscii := hc.prefix_plain
  obtain ⟨p, rfl, hp, hlower, hnot⟩ := hc.prefixLetter
  have hplain : ∀ x ∈ body,
      x.toNat < 128 ∧ Integer.isAsciiBlank x = false ∧ x ≠ '_' ∧ x ≠ '-' ∧ x ≠ '+' := by
    intro x hx
    obtain ⟨d, hd, rfl⟩ := hdigits x hx
    have h := digitChar_plain upper d (by omega)
    exact ⟨h.1, h.2.1, h.2.2.2.1, h.2.2.2.2.1, h.2.2.2.2.2.1⟩
  have hunder : '_' ∉ body := fun hm => (hplain '_' hm).2.2.1 rfl
  obtain ⟨x, rest, rfl⟩ := List.exists_cons_of_ne_nil hne
  have hx := hplain x List.mem_cons_self
  have hafter : afterPrefix B ((if alt then ['0', p] else []) ++ x :: rest) = x :: rest := by
    cases alt with
    | true =>
      simp only [if_true, List.cons_append, List.nil_append, afterPrefix, hp, hlower]
      split
      · rename_i r he
        exact absurd (List.cons.inj he).1 hx.2.2.1
      · rfl
    | false => exact afterPrefix_of_digits hp hnot hdigits
  have hascii : ∀ y ∈ sign ++ ((if alt then ['0', p] else []) ++ x :: rest),
      y.toNat < 128 ∧ Integer.isAsciiBlank y = false := by
    intro y hy
    rcases List.mem_append.1 hy with hy | hy
    · rcases hsign with ⟨rfl, -⟩ | ⟨rfl, -⟩ | ⟨rfl, -⟩ <;> simp only [List.mem_singleton,
        List.not_mem_nil] at hy <;> first | exact absurd hy id | (subst hy; decide)
    · rcases List.mem_append.1 hy with hy | hy
      · split at hy
        · exact ⟨(hpAscii y hy).1, (hpAscii y hy).2.1⟩
        · exact absurd hy List.not_mem_nil
      · exact ⟨(hplain y hy).1, (hplain y hy).2.1⟩
  have hsignRead : Decimal.readSign (sign ++ ((if alt then ['0', p] else []) ++ x :: rest)) =
      (neg, (if alt then ['0', p] else []) ++ x :: rest) := by
    rcases hsign with ⟨rfl, rfl⟩ | ⟨rfl, rfl⟩ | ⟨rfl, rfl⟩
    · rfl
    · rfl
    · cases alt with
      | true => rfl
      | false =>
        rw [List.nil_append, Decimal.readSign]
        · intro r h
          exact hx.2.2.2.1 (List.cons.inj h).1
        · intro r h
          exact hx.2.2.2.2 (List.cons.inj h).1
  have hfilter : (x :: rest).filter (· ≠ '_') = x :: rest :=
    List.filter_eq_self.2 fun y hy => decide_eq_true fun he => hunder (he ▸ hy)
  rw [readInBase, trimAsciiBlanks_map_asciiNumeral hascii, hsignRead]
  simp only [hafter, hfilter, hvalue, joined_of_no_underscore hunder,
    List.isEmpty_cons, Bool.not_false, Bool.true_and, if_true]
  rfl

/-- **The unpadded text reads back.** A sign, the prefix of a base conversion if any, zeros, and
the numeral of `m` in the base read as `m` with the sign. -/
theorem readInBase_layout {c : Conversion} {B : Nat} {upper : Bool} {pre : List Char}
    (hc : BaseConversion c B upper pre) {neg : Bool} {sign : List Char}
    (hsign : sign = ['-'] ∧ neg = true ∨ sign = ['+'] ∧ neg = false ∨ sign = [] ∧ neg = false)
    (alt : Bool) (z m : Nat) :
    readInBase B (sign ++ (if alt then pre else []) ++ List.replicate z '0' ++
      Numeral.chars B upper m) = some (if neg then -(m : Int) else m) := by
  obtain ⟨hB, h36⟩ := hc.base_bounds
  have hdigits : ∀ x ∈ List.replicate z '0' ++ Numeral.chars B upper m,
      ∃ d < B, x = Numeral.digitChar upper d := by
    intro x hx
    rcases List.mem_append.1 hx with hx | hx
    · exact ⟨0, by omega, List.eq_of_mem_replicate hx⟩
    · exact mem_chars hB hx
  have hne : List.replicate z '0' ++ Numeral.chars B upper m ≠ [] :=
    List.append_ne_nil_of_right_ne_nil _ (expansion_chars hB h36 upper m).nonempty
  have hvalue : digitsIn B (List.replicate z '0' ++ Numeral.chars B upper m) 0 = some m := by
    rw [digitsIn_zeros (by omega), digitsIn_chars hB h36]
  simpa only [List.append_assoc] using readInBase_digits hc hsign alt hdigits hne hvalue

/-- **Stripping a padded text.** A text without the character `c`, padded with runs of `c` on
either side, is what stripping `c` leaves. -/
theorem strip_pad {c : Char} {X : List Char} (hX : ∀ x ∈ X, x ≠ c) (hne : X ≠ []) (a b : Nat) :
    strip c (List.replicate a c ++ X ++ List.replicate b c) = X := by
  have hrun : ∀ k, ∀ x ∈ List.replicate k c, decide (x = c) = true := fun k x hx => by
    simp [List.eq_of_mem_replicate hx]
  obtain ⟨x, X', rfl⟩ := List.exists_cons_of_ne_nil hne
  have hfront : (List.replicate a c ++ (x :: X') ++ List.replicate b c).dropWhile (· = c) =
      x :: X' ++ List.replicate b c := by
    rw [List.append_assoc]
    exact (Spec.takeWhile_dropWhile_append (hrun a) (by simpa using hX x List.mem_cons_self)).2
  obtain ⟨y, Y, hy⟩ := List.exists_cons_of_ne_nil (List.reverse_ne_nil_iff.2 hne)
  have hyX : y ∈ x :: X' := List.mem_reverse.1 (hy ▸ List.mem_cons_self)
  have hback : (x :: X' ++ List.replicate b c).reverse.dropWhile (· = c) = (x :: X').reverse := by
    rw [List.reverse_append, List.reverse_replicate, hy]
    exact (Spec.takeWhile_dropWhile_append (hrun b) (by simpa using hX y hyX)).2
  rw [strip, hfront, hback, List.reverse_reverse]

end Text

/-! ### Padding -/

theorem Fault.memoryLimit_le_of_ofRun? {n : Nat} {f : Fault} (h : Fault.ofRun? n = some f) :
    memoryLimit ≤ n := by
  by_contra hn
  rw [Fault.ofRun?_of_lt (Nat.lt_of_not_le hn)] at h
  cases h

namespace Rendered

/-- **The shape of a padded rendering.** Padding puts runs of spaces before and after the text,
or zeros between its prefix and its body, the zeros only for a finite number under the zero
flag. -/
theorem pad_toList (r : Rendered) (width : Option Nat) (align : Option Align) (zeroPad : Bool) :
    ∃ a z c, (r.pad width align zeroPad).toList = List.replicate a ' ' ++
        (r.sign.toList ++ r.basePrefix.toList ++ List.replicate z '0' ++ r.body.toList) ++
          List.replicate c ' ' ∧ (z = 0 ∨ (zeroPad && r.numeric && r.finite) = true) := by
  have htext : r.text.toList = List.replicate 0 ' ' ++
      (r.sign.toList ++ r.basePrefix.toList ++ List.replicate 0 '0' ++ r.body.toList) ++
        List.replicate 0 ' ' := by
    simp [text, String.toList_append]
  unfold pad
  cases width with
  | none => exact ⟨0, 0, 0, htext, .inl rfl⟩
  | some w =>
    dsimp only
    split
    · exact ⟨0, 0, 0, htext, .inl rfl⟩
    split
    · rename_i hz
      exact ⟨0, w - r.text.length, 0, by simp [fill, String.toList_append], .inr hz⟩
    split
    · exact ⟨0, 0, w - r.text.length, by simp [fill, text, String.toList_append], .inl rfl⟩
    · exact ⟨w - r.text.length, 0, 0, by simp [fill, text, String.toList_append], .inl rfl⟩
    · exact ⟨(w - r.text.length) / 2, 0, w - r.text.length - (w - r.text.length) / 2,
        by simp [fill, text, String.toList_append], .inl rfl⟩

/-- **Padding fails only past the memory.** A padding that cannot be made asks for a width of
`memoryLimit` characters or more. -/
theorem memoryLimit_le_of_padFault? {r : Rendered} {width : Option Nat} {align : Option Align}
    {zeroPad : Bool} {f : Fault} (hf : r.padFault? width align zeroPad = some f) :
    ∃ w, width = some w ∧ memoryLimit ≤ w := by
  unfold padFault? at hf
  split at hf
  · cases hf
  rename_i w
  refine ⟨w, rfl, ?_⟩
  dsimp only at hf
  by_cases hw : w ≤ r.text.length
  · rw [if_pos hw] at hf
    cases hf
  rw [if_neg hw] at hf
  suffices ∃ n ≤ w - r.text.length, Fault.ofRun? n = some f by
    obtain ⟨n, hn, hrun⟩ := this
    have := Fault.memoryLimit_le_of_ofRun? hrun
    omega
  split at hf
  · exact ⟨_, le_rfl, hf⟩
  split at hf
  · split at hf
    · cases hf
      exact ⟨_, Nat.div_le_self _ _, ‹_›⟩
    · exact ⟨_, Nat.sub_le _ _, hf⟩
  all_goals exact ⟨_, le_rfl, hf⟩

/-- **Stripping the spaces of a padded rendering** leaves its text with the zero fill, when the
text has no space and its body is not empty. -/
theorem strip_pad (r : Rendered) (hspace : ∀ x ∈ r.text.toList, x ≠ ' ') (hbody : r.body ≠ "")
    (width : Option Nat) (align : Option Align) (zeroPad : Bool) :
    ∃ z, Text.strip ' ' (r.pad width align zeroPad).toList =
        r.sign.toList ++ r.basePrefix.toList ++ List.replicate z '0' ++ r.body.toList ∧
      (z = 0 ∨ (zeroPad && r.numeric && r.finite) = true) := by
  obtain ⟨a, z, c, hpad, hz⟩ := r.pad_toList width align zeroPad
  have htext : r.text.toList = r.sign.toList ++ r.basePrefix.toList ++ r.body.toList := by
    simp [text, String.toList_append]
  refine ⟨z, ?_, hz⟩
  rw [hpad, Text.strip_pad _ _ a c]
  · intro x hx
    simp only [List.mem_append] at hx
    rcases hx with ((hx | hx) | hx) | hx
    · exact hspace x (by simp [htext, hx])
    · exact hspace x (by simp [htext, hx])
    · rw [List.eq_of_mem_replicate hx]
      decide
    · exact hspace x (by simp [htext, hx])
  · exact List.append_ne_nil_of_right_ne_nil _ fun h => hbody (String.toList_eq_nil_iff.1 h)

theorem signOf_toList (neg : Bool) (spec : Spec) :
    (signOf neg spec).toList = if neg then ['-'] else if spec.plus then ['+'] else [] := by
  cases neg <;> cases h : spec.plus <;> simp [signOf, h]

end Rendered

/-! ### Integers under a base conversion -/

/-- The rendering of an integer under a base conversion: its sign, the prefix under the
alternate flag, and the numeral of its magnitude. -/
theorem Bound.render_base {spec : Spec} {B : Nat} {upper : Bool} {pre : List Char}
    (hc : BaseConversion spec.conversion B upper pre) {b : Bound} {n : Int}
    (hcap : b.caps.has spec.conversion.capability = true) (hnum : b.number = .ok (some (.int n)))
    (precision : Option Nat) (offset : Nat) :
    b.render spec precision offset = .ok ⟨Rendered.signOf (n < 0) spec,
      if spec.alternate then String.ofList pre else "", Numeral.write B upper n.natAbs, true,
        true⟩ := by
  unfold Bound.render Rendered.ofInt
  generalize spec.conversion = conv at hc hcap ⊢
  cases hc <;> simp [hcap, hnum, Except.mapError, bind, Except.bind]

/-- The sign of an integer, read back with its magnitude, is the integer. -/
theorem signed_natAbs (n : Int) : (if decide (n < 0) then -(n.natAbs : Int) else n.natAbs) = n := by
  by_cases hn : n < 0
  · rw [if_pos (decide_eq_true hn), Int.ofNat_natAbs_of_nonpos (by omega), Int.neg_neg]
  · rw [if_neg (by simpa using hn), Int.natAbs_of_nonneg (by omega)]

/-- **An integer under a base conversion reads back.** Whatever its size and sign, and whatever
the flags, the alignment and the width, the text of an integer under `b`, `o`, `x` or `X`,
stripped of its spaces, is its sign, the prefix under the alternate flag, zeros under the zero
flag only, and the expansion of its magnitude in the base; read in the base, it is the integer
again. The one way the text is not made is a width of `memoryLimit` characters or more, whose
padding cannot be made. -/
theorem base_rendering_reads_back {spec : Spec} {B : Nat} {upper : Bool} {pre : List Char}
    (hc : BaseConversion spec.conversion B upper pre) {b : Bound} {n : Int}
    (hcap : b.caps.has spec.conversion.capability = true) (hnum : b.number = .ok (some (.int n)))
    (width precision : Option Nat) (offset : Nat) :
    (∃ out, (Piece.slot spec b width precision offset).render = .ok out ∧
      Text.readInBase B (Text.strip ' ' out.toList) = some n ∧
      ∃ z ds, Text.strip ' ' out.toList =
          (if n < 0 then ['-'] else if spec.plus then ['+'] else []) ++
            (if spec.alternate then pre else []) ++ List.replicate z '0' ++ ds ∧
        Text.Expansion B upper ds n.natAbs ∧ (z = 0 ∨ spec.zeroPad = true)) ∨
    ∃ w f, width = some w ∧ memoryLimit ≤ w ∧
      (Piece.slot spec b width precision offset).render = .error (.fault f) := by
  obtain ⟨hB, h36⟩ := hc.base_bounds
  obtain ⟨r, hr, hsign, hpre, hdigits, hnumeric, hfinite⟩ : ∃ r : Rendered,
      b.render spec precision offset = .ok r ∧
      r.sign.toList = (if n < 0 then ['-'] else if spec.plus then ['+'] else []) ∧
      r.basePrefix.toList = (if spec.alternate then pre else []) ∧
      r.body.toList = Numeral.chars B upper n.natAbs ∧ r.numeric = true ∧ r.finite = true := by
    refine ⟨_, Bound.render_base hc hcap hnum precision offset, ?_, ?_, String.toList_ofList,
      rfl, rfl⟩
    · rw [Rendered.signOf_toList]
      simp only [decide_eq_true_eq]
    · split <;> simp
  have hexp := Text.expansion_chars hB h36 upper n.natAbs
  simp only [Piece.render, hr, bind, Except.bind]
  split
  · rename_i f hf
    obtain ⟨w, rfl, hw⟩ := Rendered.memoryLimit_le_of_padFault? hf
    exact .inr ⟨w, f, rfl, hw, rfl⟩
  left
  have hspace : ∀ x ∈ r.text.toList, x ≠ ' ' := by
    intro x hx
    simp only [Rendered.text, String.toList_append, List.mem_append, hsign, hpre, hdigits] at hx
    rcases hx with (hx | hx) | hx
    · split at hx
      · rw [List.mem_singleton.1 hx]
        decide
      · split at hx
        · rw [List.mem_singleton.1 hx]
          decide
        · exact absurd hx List.not_mem_nil
    · split at hx
      · exact (hc.prefix_plain x hx).2.2
      · exact absurd hx List.not_mem_nil
    · obtain ⟨d, hd, rfl⟩ := Text.mem_chars hB hx
      exact (Text.digitChar_plain upper d (by omega)).2.2.1
  have hbody : r.body ≠ "" := fun h => hexp.nonempty (by rw [← hdigits, h]; rfl)
  obtain ⟨z, hstrip, hz⟩ := r.strip_pad hspace hbody width spec.align spec.zeroPad
  rw [hsign, hpre, hdigits] at hstrip
  rw [hnumeric, hfinite, Bool.and_true, Bool.and_true] at hz
  refine ⟨_, rfl, ?_, z, _, hstrip, hexp, hz⟩
  have hsgn : (if n < 0 then ['-'] else if spec.plus then ['+'] else []) = ['-'] ∧
        decide (n < 0) = true ∨
      (if n < 0 then ['-'] else if spec.plus then ['+'] else []) = ['+'] ∧
        decide (n < 0) = false ∨
      (if n < 0 then ['-'] else if spec.plus then ['+'] else []) = [] ∧
        decide (n < 0) = false := by
    by_cases hn : n < 0
    · simp [hn]
    · cases spec.plus <;> simp [hn]
  rw [hstrip, Text.readInBase_layout hc hsgn spec.alternate z n.natAbs, signed_natAbs]

/-- `-5` under `{:+#010b}` is `-0b0000101`, which reads back as `-5`. -/
theorem minus_five_in_binary_reads_back :
    BaseConversion Conversion.binary 2 false ['0', 'b'] ∧
      ((Value.int (-5)).bind Option.none).caps.has Conversion.binary.capability = true ∧
      ((Value.int (-5)).bind Option.none).number = .ok (some (.int (-5))) ∧
      ∃ out, (Piece.slot
          { plus := true, alternate := true, zeroPad := true, conversion := .binary }
          ((Value.int (-5)).bind Option.none) (some 10) Option.none 0).render = .ok out ∧
        Text.readInBase 2 (Text.strip ' ' out.toList) = some (-5) := by
  refine ⟨.binary, rfl, rfl, ?_⟩
  refine ((base_rendering_reads_back .binary rfl rfl (some 10) Option.none 0).resolve_right
    ?_).imp fun out h => ⟨h.1, h.2.1⟩
  rintro ⟨w, f, hw, hle, -⟩
  cases hw
  exact absurd hle (by decide)

/-- An object whose number is the integer `5` but which declares no capability is refused under
`{:b}`: the text of its number is never made. -/
theorem indexed_object_without_binary_is_refused :
    ((Value.object { index := some 5 } Option.none).bind Option.none).number =
        .ok (some (.int 5)) ∧
      formatValue (.text "\x7b:b\x7d") {} [.object { index := some 5 } Option.none] [] =
        .error (.format (.unsupported .binary .object 0)) := by
  have hread : Template.read "\x7b:b\x7d" =
      .ok ⟨[.placeholder { conversion := .binary } 0]⟩ := by
    decide +kernel
  refine ⟨rfl, ?_⟩
  show formatText _ _ _ _ = _
  rw [formatText_of_read hread]
  rfl

end BraceFormat
