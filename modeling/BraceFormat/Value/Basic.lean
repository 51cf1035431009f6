import BraceFormat.Number.Fraction
import BraceFormat.Spec.Basic
/-!
# Argument values

The values a template is formatted with: integers of any size, binary64 numbers, decimal
numbers, fractions, text, booleans, the absent value, lists, tuples, dictionaries in insertion
order, byte strings, caller-defined objects, and values already bound with a narrowed set of
capabilities.

A value's kind decides how it is rendered: integers and the three kinds of real numbers are
numeric, text and booleans have their own kinds, and everything else is an object. A
capability is the permission to be written with a family of conversions; each kind has its
natural set.

A caller-defined object carries its display and debug texts and, optionally, a number of its
own, an integer index and a binary64 value. A formattable object declares its capabilities and
may echo the placeholder it is rendered for after its texts; a plain one has the natural set of
an object.

## Main definitions

* `Capability`, `Caps`: capabilities and sets of them.
* `Kind`: the kinds of values.
* `ObjectInfo`, `Value`: caller-defined objects and the values.
* `Value.classify`: the kind a value binds as.
* `Value.sameKey`, `Value.keyFault?`, `Value.dictOf`: dictionary keys and dictionaries.
-/

namespace BraceFormat

/-- The permission to write a value with a family of conversions. -/
inductive Capability where
  | display
  | debug
  | binary
  | octal
  | hex
  | exponential
  deriving DecidableEq, Repr, Inhabited

/-- The name of a capability. -/
def Capability.name : Capability → String
  | .display => "display"
  | .debug => "debug"
  | .binary => "binary"
  | .octal => "octal"
  | .hex => "hex"
  | .exponential => "exponential"

/-- The capability with a given name, if there is one. -/
def Capability.ofName? (s : String) : Option Capability :=
  [Capability.display, .debug, .binary, .octal, .hex, .exponential].find? (·.name == s)

/-- The capability a conversion needs. -/
def Conversion.capability : Conversion → Capability
  | .display => .display
  | .debug => .debug
  | .binary => .binary
  | .octal => .octal
  | .lowerHex => .hex
  | .upperHex => .hex
  | .lowerExp => .exponential
  | .upperExp => .exponential

/-- A set of capabilities. -/
structure Caps where
  display : Bool := false
  debug : Bool := false
  binary : Bool := false
  octal : Bool := false
  hex : Bool := false
  exponential : Bool := false
  deriving DecidableEq, Repr, Inhabited

namespace Caps

/-- Whether the set holds a capability. -/
def has (s : Caps) : Capability → Bool
  | .display => s.display
  | .debug => s.debug
  | .binary => s.binary
  | .octal => s.octal
  | .hex => s.hex
  | .exponential => s.exponential

/-- The capabilities two sets share. -/
def inter (s t : Caps) : Caps where
  display := s.display && t.display
  debug := s.debug && t.debug
  binary := s.binary && t.binary
  octal := s.octal && t.octal
  hex := s.hex && t.hex
  exponential := s.exponential && t.exponential

@[simp]
theorem has_inter (s t : Caps) (c : Capability) : (s.inter t).has c = (s.has c && t.has c) := by
  cases c <;> rfl

/-- Adds a capability to a set. -/
def insert (s : Caps) : Capability → Caps
  | .display => { s with display := true }
  | .debug => { s with debug := true }
  | .binary => { s with binary := true }
  | .octal => { s with octal := true }
  | .hex => { s with hex := true }
  | .exponential => { s with exponential := true }

/-- The set of the listed capabilities. -/
def ofList (cs : List Capability) : Caps :=
  cs.foldl insert {}

/-- The names of the capabilities in the set, sorted. -/
def names (s : Caps) : List String :=
  [(s.binary, "binary"), (s.debug, "debug"), (s.display, "display"),
    (s.exponential, "exponential"), (s.hex, "hex"), (s.octal, "octal")].filterMap
    fun (b, n) => if b then some n else none

/-- All six capabilities. -/
def all : Caps := ⟨true, true, true, true, true, true⟩

/-- Display and debug. -/
def texts : Caps := { display := true, debug := true }

end Caps

/-- What a value is, for rendering. -/
inductive Kind where
  | integer
  | float
  | text
  | boolean
  | object
  deriving DecidableEq, Repr, Inhabited

namespace Kind

/-- The name of a kind. -/
def name : Kind → String
  | integer => "integer"
  | float => "float"
  | text => "text"
  | boolean => "boolean"
  | object => "object"

/-- The capabilities a kind has by nature. -/
def natural : Kind → Caps
  | integer => Caps.all
  | float => { display := true, debug := true, exponential := true }
  | text => Caps.texts
  | boolean => Caps.texts
  | object => Caps.texts

/-- Whether values of the kind are numbers, which take signs and zero padding. -/
def isNumeric : Kind → Bool
  | integer => true
  | float => true
  | _ => false

end Kind

/-- What a caller-defined object provides, apart from its own number. -/
structure ObjectInfo where
  /-- Whether it declares its capabilities and renders itself. -/
  formattable : Bool := true
  /-- The declared capabilities. -/
  caps : Caps := {}
  /-- The display text, also its standard text. -/
  display : String := ""
  /-- The debug text, also its literal form. -/
  debug : String := ""
  /-- Whether its rendered texts end with `|` and the placeholder. -/
  echoSpec : Bool := false
  /-- Its integer index, if it has one. -/
  index : Option Int := none
  /-- Its binary64 value, if it has one. -/
  real : Option Binary64 := none
  deriving DecidableEq, Repr, Inhabited

/-- An argument value. -/
inductive Value where
  | int (i : Int)
  | float (x : Binary64)
  | decimal (d : Decimal)
  | fraction (q : Fraction)
  | text (s : String)
  | bool (b : Bool)
  | none
  | list (items : List Value)
  | tuple (items : List Value)
  | dict (entries : List (Value × Value))
  | bytes (data : List UInt8)
  /-- A caller-defined object, with the value its own number is asked from, if any. -/
  | object (o : ObjectInfo) (number : Option Value)
  /-- A value bound with a set of capabilities. -/
  | bound (raw : Value) (caps : Caps)
  deriving Repr, Inhabited

namespace Value

/-- The kind a value binds as by itself: booleans, integers, real numbers and text have their
own kinds, and everything else is an object. -/
def classify : Value → Kind
  | bool _ => .boolean
  | int _ => .integer
  | float _ | decimal _ | fraction _ => .float
  | text _ => .text
  | _ => .object

/-- The name of a value's type, as type errors report it; caller-defined objects are of the class
`Obj`. -/
def typeName : Value → String
  | int _ => "int"
  | float _ => "float"
  | decimal _ => "Decimal"
  | fraction _ => "Fraction"
  | text _ => "str"
  | bool _ => "bool"
  | none => "NoneType"
  | list _ => "list"
  | tuple _ => "tuple"
  | dict _ => "dict"
  | bytes _ => "bytes"
  | object _ _ => "Obj"
  | bound _ _ => "BoundValue"

/-- The exact value of a number, for comparing numbers of different types. -/
inductive Exact where
  | finite (neg : Bool) (num den : Nat)
  | infinite (neg : Bool)
  | nan
  deriving DecidableEq, Repr

/-- Whether two exact values are equal: zeros of either sign are, a NaN equals nothing. -/
def Exact.same : Exact → Exact → Bool
  | .finite n₁ a b, .finite n₂ c d => a * d == c * b && (a == 0 || n₁ == n₂)
  | .infinite n₁, .infinite n₂ => n₁ == n₂
  | _, _ => false

/-- The exact value of a number value: booleans count as `0` and `1`. -/
def exactValue? : Value → Option Exact
  | bool b => some (.finite false (if b then 1 else 0) 1)
  | int i => some (.finite (i < 0) i.natAbs 1)
  | float (.finite neg f x) =>
    let m := Binary64.significand f x
    let e := Binary64.exponent f
    some (if 0 ≤ e then .finite neg (m * Nat.pow 2 e.toNat) 1 else .finite neg m (Nat.pow 2 (-e).toNat))
  | float (.infinite neg) => some (.infinite neg)
  | float .nan => some .nan
  | decimal (.finite neg c x) =>
    some (if 0 ≤ x then .finite neg (c * Nat.pow 10 x.toNat) 1 else .finite neg c (Nat.pow 10 (-x).toNat))
  | decimal (.infinite neg) => some (.infinite neg)
  | decimal (.nan _ _ _) => some .nan
  | fraction q => some (.finite (q.num < 0) q.num.natAbs q.den)
  | _ => Option.none

mutual

/-- Whether two values are the same dictionary key: numbers by exact value, text, byte strings,
the absent value and tuples by content; other values are only ever themselves. -/
def sameKey : Value → Value → Bool
  | .text a, .text b => a == b
  | bytes a, bytes b => a == b
  | none, none => true
  | tuple xs, tuple ys => sameKeys xs ys
  | a, b =>
    match a.exactValue?, b.exactValue? with
    | some x, some y => x.same y
    | _, _ => false

/-- Whether two lists of values are the same keys item by item. -/
def sameKeys : List Value → List Value → Bool
  | [], [] => true
  | x :: xs, y :: ys => sameKey x y && sameKeys xs ys
  | _, _ => false

end

/-- Adds an entry to a dictionary: a key that is the same as an earlier one replaces that entry's
value and keeps its place. -/
def insertEntry (k v : Value) : List (Value × Value) → List (Value × Value)
  | [] => [(k, v)]
  | (k', v') :: rest => if sameKey k' k then (k', v) :: rest else (k', v') :: insertEntry k v rest

mutual

/-- Why a value cannot be a dictionary key, if it cannot: lists and dictionaries have no hash,
nor has a signalling NaN, and a tuple or a bound value has one when its items, or its raw value,
have one. The items of a tuple are hashed in order, so the first item without a hash decides. -/
def keyFault? : Value → Option Fault
  | list _ => some (.unhashable "list")
  | dict _ => some (.unhashable "dict")
  | decimal (.nan _ true _) => some .signalingKey
  | tuple xs => keysFault? xs
  | bound raw _ => keyFault? raw
  | _ => Option.none

/-- Why one of a list of values cannot be a dictionary key: the first that cannot. -/
def keysFault? : List Value → Option Fault
  | [] => Option.none
  | x :: xs =>
    match keyFault? x with
    | some f => some f
    | Option.none => keysFault? xs

end

/-- Adds an entry to the entries of a dictionary under construction; the key must have a hash. -/
def addEntry (acc : List (Value × Value)) (e : Value × Value) :
    Except Fault (List (Value × Value)) :=
  match keyFault? e.1 with
  | some f => .error f
  | Option.none => .ok (insertEntry e.1 e.2 acc)

/-- The dictionary of a list of entries, built in order; the first key without a hash ends it. -/
def dictOf (entries : List (Value × Value)) : Except Fault Value :=
  dict <$> entries.foldlM addEntry []

end Value

end BraceFormat
