import BraceFormat.Number.Binary64
/-!
# Formatting configuration

Strict mode requires every argument to be used; a count limit bounds every width and
precision; a traced call records its template's text before anything else, which matters only
for a template that is not text (`formatValue`). A negative count limit is refused.

The settings are given loosely and coerced. A switch is a boolean, the integer or binary64
number `0` or `1` (a negative zero is `0`), or one of the texts `0`, `off`, `f`, `false`, `n`,
`no` and `1`, `on`, `t`, `true`, `y`, `yes` in any case of ASCII letters, with nothing around
them. A count limit is absent, an integer, a boolean counting as `0` or `1`, a binary64 number
with an integral value of magnitude below `2 ^ 63`, or text holding a decimal integer: white
space around it, a sign, ASCII digits with underscores only between two digits, and possibly a
point with at least one zero and nothing else after it; at most `digitLimit` digits after the
leading zeros. Leading zeros of the text are dropped before the sign is looked for, so `0-0`
reads as `-0`, and text of zeros alone reads as `0`. Anything else is refused.

## Main definitions

* `Config`: the settings of a call.
* `Config.make?`: settings from their values, refusing a negative limit.
* `Setting`: a setting as given, and its coercions `Setting.toSwitch?`, `Setting.toLimit?`.
* `Config.read?`: settings from what was given.
-/

namespace BraceFormat

/-- The settings of a formatting call. -/
structure Config where
  /-- Whether every positional and named argument must be used. -/
  requireAll : Bool := false
  /-- The largest width or precision allowed, if any. -/
  maxCount : Option Nat := none
  /-- Whether calls are traced, recording the template's text first. -/
  traceCalls : Bool := true
  deriving DecidableEq, Repr, Inhabited

/-- Settings from their values: `none` when the count limit is negative. -/
def Config.make? (requireAll : Bool) (maxCount : Option Int) (traceCalls : Bool) :
    Option Config :=
  match maxCount with
  | none => some { requireAll, traceCalls }
  | some m => if m < 0 then none else some { requireAll, maxCount := some m.toNat, traceCalls }

/-- A setting as given, before coercion. -/
inductive Setting where
  /-- Not given at all. -/
  | absent
  /-- The absent value. -/
  | null
  | bool (b : Bool)
  | int (i : Int)
  | real (x : Binary64)
  | text (s : String)
  /-- Any other value. -/
  | other
  deriving DecidableEq, Repr, Inhabited

namespace Setting

/-- The texts of a switch that is off. -/
def offTexts : List String := ["0", "off", "f", "false", "n", "no"]

/-- The texts of a switch that is on. -/
def onTexts : List String := ["1", "on", "t", "true", "y", "yes"]

/-- The binary64 number one. -/
def one : Binary64 := .finite false ⟨1023, by decide⟩ ⟨0, by decide⟩

/-- A switch, or the default when it is absent. -/
def toSwitch? (default : Bool) : Setting → Option Bool
  | absent => some default
  | bool b => some b
  | int 0 => some false
  | int 1 => some true
  | real (.finite _ 0 0) => some false
  | real x => if x = one then some true else none
  | text s =>
    if offTexts.contains s.toLower then some false
    else if onTexts.contains s.toLower then some true
    else none
  | _ => none

/-- The characters with the Unicode property `White_Space`. -/
def isWhiteSpace (c : Char) : Bool :=
  (9 ≤ c.toNat && c.toNat ≤ 13) || c.toNat = 32 || c.toNat = 0x85 || c.toNat = 0xA0 ||
    c.toNat = 0x1680 || (0x2000 ≤ c.toNat && c.toNat ≤ 0x200A) || c.toNat = 0x2028 ||
    c.toNat = 0x2029 || c.toNat = 0x202F || c.toNat = 0x205F || c.toNat = 0x3000

/-- Text without the white space at both ends. -/
def trimWhiteSpace (cs : List Char) : List Char :=
  ((cs.dropWhile isWhiteSpace).reverse.dropWhile isWhiteSpace).reverse

/-- Reads an optional sign and at least one ASCII digit, nothing else, with at most `digitLimit`
digits after the leading zeros. -/
def readSigned (cs : List Char) : Option Int :=
  let (neg, ds) := match cs with
    | '-' :: r => (true, r)
    | '+' :: r => (false, r)
    | r => (false, r)
  if !ds.isEmpty && ds.all Char.isDigit && (ds.dropWhile (· = '0')).length ≤ digitLimit then
    let n : Int := ds.foldl (fun acc d => acc * 10 + (d.toNat - 48)) 0
    some (if neg then -n else n)
  else none

/-- Text without its leading zeros, or `0` when it is nothing but zeros; text that does not
start with a zero is kept. Whatever follows the zeros is kept too, a sign included. -/
def dropLeadingZeros (cs : List Char) : List Char :=
  match cs with
  | '0' :: _ =>
    match cs.dropWhile (· = '0') with
    | [] => ['0']
    | rest => rest
  | _ => cs

/-- Reads the text of a count limit: trimmed, its underscores dropped when each stands between two
digits, its leading zeros dropped, then a signed integer, or one followed by a point and zeros. -/
def readLimitText (s : String) : Option Int :=
  let cs := trimWhiteSpace s.toList
  if !Binary64.underscoresBetweenDigits cs then none
  else
    let cs := dropLeadingZeros (cs.filter (· ≠ '_'))
    match cs.span (· ≠ '.') with
    | (whole, []) => readSigned whole
    | (whole, '.' :: zeros) =>
      if !zeros.isEmpty && zeros.all (· = '0') then readSigned whole else none
    | _ => none

/-- The integer value of a binary64 number, when it is integral and of magnitude below
`2 ^ 63`. -/
def integralValue? : Binary64 → Option Int
  | .finite neg f x =>
    let m := Binary64.significand f x
    let e := Binary64.exponent f
    let mag? : Option Nat :=
      if 0 ≤ e then some (m * Nat.pow 2 e.toNat)
      else if m % Nat.pow 2 (-e).toNat = 0 then some (m / Nat.pow 2 (-e).toNat) else none
    match mag? with
    | some n => if n < Nat.pow 2 63 then some (if neg then -(n : Int) else n) else none
    | none => none
  | _ => none

/-- A count limit: `none` inside for no limit, `none` outside when the setting is refused. -/
def toLimit? : Setting → Option (Option Int)
  | absent => some none
  | null => some none
  | bool b => some (some (if b then 1 else 0))
  | int i => some (some i)
  | real x => (integralValue? x).map some
  | text s => (readLimitText s).map some
  | other => none

end Setting

/-- Settings from what was given: each coerced, then the limit checked. -/
def Config.read? (requireAll maxCount traceCalls : Setting) : Option Config := do
  let r ← requireAll.toSwitch? false
  let m ← maxCount.toLimit?
  let t ← traceCalls.toSwitch? true
  Config.make? r m t

end BraceFormat
