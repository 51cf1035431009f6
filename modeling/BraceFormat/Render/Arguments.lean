import BraceFormat.Value.Bound
import BraceFormat.Error
/-!
# Arguments and their resolution

The arguments of a call are a list of positional values and a table of named values, all bound
when the call starts. Selectors are resolved against them in template order. One cursor serves
the implicit selectors: it starts at zero and moves by one each time an implicit selector is
resolved, and only then; positions and names never move it. Each resolution records what it
used, for the strict check at the end.

A width or precision is a literal count, or the count of the argument it names; an argument
whose number is not a non-negative integer is refused, and so is any count above the limit.
Taking an argument's number may fail, and so may showing a refused value in the message; either
fault ends the call in place of the refusal.

## Main definitions

* `Arguments`: the bound arguments of a call.
* `Usage`: the cursor and the arguments used so far.
* `Arguments.resolve`, `Arguments.resolveCount`: resolution of selectors and counts.
* `Arguments.unusedPositions`, `Arguments.unusedNames`: what strict mode reports.
-/

namespace BraceFormat

/-- The bound arguments of a call. -/
structure Arguments where
  positional : List Bound
  named : List (String × Bound)
  deriving Repr

/-- The resolution state: the implicit cursor and the arguments used so far. -/
structure Usage where
  cursor : Nat := 0
  positions : List Nat := []
  names : List String := []
  deriving DecidableEq, Repr, Inhabited

namespace Arguments

/-- Binds every positional and named value. -/
def ofValues (positional : List Value) (named : List (String × Value)) : Arguments where
  positional := positional.map (·.bind none)
  named := named.map fun (n, v) => (n, v.bind none)

/-- Resolves a selector for the placeholder at `offset`. -/
def resolve (args : Arguments) (u : Usage) (s : Selector) (offset : Nat) :
    Except CallError (Bound × Usage) :=
  match s with
  | .next =>
    match args.positional[u.cursor]? with
    | some b => .ok (b, { u with cursor := u.cursor + 1, positions := u.cursor :: u.positions })
    | none => .error (.format (.exhausted u.cursor offset))
  | .index i =>
    match args.positional[i]? with
    | some b => .ok (b, { u with positions := i :: u.positions })
    | none => .error (.format (.missing s offset))
  | .name n =>
    match args.named.lookup n with
    | some b => .ok (b, { u with names := n :: u.names })
    | none => .error (.format (.missing s offset))

/-- Resolves a width or precision for the placeholder at `offset`, checking it against the
limit. -/
def resolveCount (args : Arguments) (limit : Option Nat) (u : Usage) (c : Option Count)
    (offset : Nat) : Except CallError (Option Nat × Usage) :=
  let check (src : Option Selector) (n : Nat) (u : Usage) : Except CallError (Option Nat × Usage) :=
    match limit with
    | some m =>
      if m < n then .error (.refusedCount src (.int n) (.tooLarge m) offset) else .ok (some n, u)
    | none => .ok (some n, u)
  match c with
  | none => .ok (none, u)
  | some (.literal n) => check none n u
  | some (.given s) => do
    let (b, u) ← args.resolve u s offset
    match ← b.count?.mapError CallError.fault with
    | some n => check (some s) n u
    | none => .error (.refusedCount (some s) b.raw .notCount offset)

/-- The positions no selector used, ascending. -/
def unusedPositions (args : Arguments) (u : Usage) : List Nat :=
  (List.range args.positional.length).filter fun i => !u.positions.contains i

/-- The names no selector used, sorted by code point, each once. -/
def unusedNames (args : Arguments) (u : Usage) : List String :=
  (args.named.map Prod.fst).foldl
    (fun acc n => if u.names.contains n then acc else insertName n acc) []

end Arguments

end BraceFormat
