/-!
# Numerals in a base

The digits of a natural number in a base of at least two, and its numeral: the digits written
most significant first with `0`–`9` and then letters, lower or upper case. Zero is written `0`;
no other numeral starts with `0`.

## Main definitions

* `Numeral.lowDigits`: the digits, least significant first, none for zero.
* `Numeral.digitChar`: the character of one digit.
* `Numeral.write`, `Numeral.decimal`, `Numeral.signed`: numerals as text.

## Main results

* `Numeral.lowDigits_zero`, `Numeral.lowDigits_of_pos`: the digit recursion.
-/

namespace BraceFormat.Numeral

/-- The digits of `n` in base `b`, least significant first; zero has no digits, and so does every
number in a base below two. -/
def lowDigits (b n : Nat) : List Nat :=
  if h : 2 ≤ b ∧ 0 < n then
    have : n / b < n := Nat.div_lt_self h.2 (by omega)
    n % b :: lowDigits b (n / b)
  else []
termination_by n

@[simp]
theorem lowDigits_zero (b : Nat) : lowDigits b 0 = [] := by
  rw [lowDigits]; simp

theorem lowDigits_of_pos {b n : Nat} (hb : 2 ≤ b) (hn : 0 < n) :
    lowDigits b n = n % b :: lowDigits b (n / b) := by
  rw [lowDigits, dif_pos ⟨hb, hn⟩]

/-- The character of a digit below 36: `0`–`9`, then `a`–`z`, or `A`–`Z` when `upper` is set. -/
def digitChar (upper : Bool) (d : Nat) : Char :=
  if d < 10 then Char.ofNat (48 + d) else if upper then Char.ofNat (55 + d) else Char.ofNat (87 + d)

/-- The numeral of `n` in base `b` as characters, most significant digit first; `0` for zero. -/
def chars (b : Nat) (upper : Bool) (n : Nat) : List Char :=
  if n = 0 then ['0'] else (lowDigits b n).reverse.map (digitChar upper)

/-- The numeral of `n` in base `b`. -/
def write (b : Nat) (upper : Bool) (n : Nat) : String :=
  String.ofList (chars b upper n)

/-- The decimal numeral of `n`. -/
def decimal (n : Nat) : String :=
  write 10 false n

/-- The decimal numeral of an integer, with `-` before a negative one. -/
def signed (i : Int) : String :=
  if i < 0 then "-" ++ decimal i.natAbs else decimal i.natAbs

end BraceFormat.Numeral
