import BraceFormat.Value.Literal
import BraceFormat.Text.Blank
/-!
# Pretty layout of containers

The pretty layout writes a value within a line width of forty characters. A value whose literal
form fits in the room left on its line is written as that form. A list, tuple or dictionary that
does not fit is written with one item per line, each item indented one place past the opening
bracket and laid out in turn with the room left after it: one character for the comma of an
item that is not the last, and the closing brackets of all enclosing containers for the last.
A dictionary entry's value is laid out after its key and `: `.

Text that does not fit is cut after its line breaks, and a line that still does not fit is cut
into runs of non-blank characters with the blanks after them, runs being joined while their
literal form fits; each piece is then written as a literal of its own, one per line. A byte
string longer than four bytes is cut into groups of four bytes in the same way. Other values are
always written as their literal forms.

## Main definitions

* `Pretty.width`: the line width.
* `Pretty.text`, `Pretty.bytes`: the layout of text and byte strings.
* `Value.pretty`: the layout of a value at an indentation with room kept at the end.
* `Value.prettyLayout`: the layout of a value on its own.
-/

namespace BraceFormat

namespace Pretty

/-- The line width of the pretty layout. -/
def width : Nat := 40

/-- A line break followed by `n` spaces. -/
def newline (n : Nat) : String :=
  "\n" ++ String.ofList (List.replicate n ' ')

/-- Joins the runs of one line into pieces: a run is added to the current piece while the
literal form of the piece stays within `room`, the room of the last run of the text being
`lastRoom`. -/
def joinRuns (room lastRoom : Int) (final : Bool) (cur : List Char) :
    List (List Char) → List String
  | [] => if cur.isEmpty then [] else [Text.Quoted.text (String.ofList cur)]
  | part :: rest =>
    let limit := if rest.isEmpty && final then lastRoom else room
    let candidate := cur ++ part
    if ((Text.Quoted.text (String.ofList candidate)).length : Int) > limit then
      (if cur.isEmpty then [] else [Text.Quoted.text (String.ofList cur)]) ++
        joinRuns room lastRoom final part rest
    else joinRuns room lastRoom final candidate rest

/-- The pieces of text at indentation `indent` with `allowance` characters kept after the last
one: each line whose literal form fits is one piece, the others are cut into runs. -/
def textPieces (indent allowance : Int) : List (List Char) → List String
  | [] => []
  | line :: rest =>
    let room := (width : Int) - indent
    let lineRoom := if rest.isEmpty then room - allowance else room
    let shown := Text.Quoted.text (String.ofList line)
    if (shown.length : Int) ≤ lineRoom then shown :: textPieces indent allowance rest
    else joinRuns room (room - allowance) rest.isEmpty [] (Text.blankRuns line) ++
      textPieces indent allowance rest

/-- The pretty layout of text at indentation `indent`, with `allowance` characters kept after
it; at the outermost level the pieces are put between parentheses. -/
def text (s : String) (indent allowance : Nat) (outer : Bool) : String :=
  if s.isEmpty then Text.Quoted.text s
  else
    let indent := if outer then indent + 1 else indent
    let allowance := if outer then allowance + 1 else allowance
    match textPieces indent allowance (Text.lines s.toList) with
    | [one] => one
    | pieces =>
      let body := (newline indent).intercalate pieces
      if outer then "(" ++ body ++ ")" else body

/-- Cuts bytes into groups of four. -/
def groupsOfFour : List UInt8 → List (List UInt8)
  | a :: b :: c :: d :: rest => [a, b, c, d] :: groupsOfFour rest
  | [] => []
  | rest => [rest]

/-- Joins groups of bytes into pieces while their literal form stays within `room`; the room of
the group at index `last` is `room - allowance`. -/
def joinGroups (room : Int) (allowance : Int) (last : Nat) (i : Nat) (cur : List UInt8) :
    List (List UInt8) → List String
  | [] => if cur.isEmpty then [] else [Text.Quoted.bytes cur]
  | part :: rest =>
    let room := if i = last then room - allowance else room
    let candidate := cur ++ part
    if ((Text.Quoted.bytes candidate).length : Int) > room then
      (if cur.isEmpty then [] else [Text.Quoted.bytes cur]) ++
        joinGroups room allowance last (i + 4) part rest
    else joinGroups room allowance last (i + 4) candidate rest

/-- The pretty layout of a byte string at indentation `indent` with `allowance` characters
kept after it. The room shrinks by the allowance at the group that starts at the last multiple
of four below the length, so not at all when the length is a multiple of four. -/
def bytes (bs : List UInt8) (indent allowance : Nat) (outer : Bool) : String :=
  if bs.length ≤ 4 then Text.Quoted.bytes bs
  else
    let indent := if outer then indent + 1 else indent
    let allowance := if outer then allowance + 1 else allowance
    let pieces := joinGroups ((width : Int) - indent) allowance (bs.length / 4 * 4) 0 []
      (groupsOfFour bs)
    let body := (newline indent).intercalate pieces
    if outer then "(" ++ body ++ ")" else body

end Pretty

namespace Value

/-- Whether a value's literal form fits in the room left at `indent` with `allowance`. -/
def fits (v : Value) (indent allowance : Nat) : Bool :=
  v.literal.length + indent + allowance ≤ Pretty.width

mutual

/-- The pretty layout of a value at indentation `indent`, with `allowance` characters kept after
it on its last line, at nesting depth `level`. -/
def pretty (indent allowance level : Nat) : Value → String
  | v@(list xs) =>
    if fits v indent allowance then v.literal
    else "[" ++ prettyItems (indent + 1) (allowance + 1) (level + 1) xs ++ "]"
  | v@(tuple xs) =>
    if fits v indent allowance then v.literal
    else
      let close := if xs.length = 1 then ",)" else ")"
      "(" ++ prettyItems (indent + 1) (allowance + close.length) (level + 1) xs ++ close
  | v@(dict es) =>
    if fits v indent allowance then v.literal
    else "\x7b" ++ prettyEntries (indent + 1) (allowance + 1) (level + 1) es ++ "\x7d"
  | v@(.text s) =>
    if fits v indent allowance then v.literal else Pretty.text s indent allowance (level = 0)
  | v@(bytes bs) =>
    if fits v indent allowance then v.literal else Pretty.bytes bs indent allowance (level = 0)
  | v => v.literal

/-- The items of a list or tuple, one per line at indentation `indent`. -/
def prettyItems (indent allowance level : Nat) : List Value → String
  | [] => ""
  | [x] => pretty indent allowance level x
  | x :: rest =>
    pretty indent 1 level x ++ "," ++ Pretty.newline indent ++
      prettyItems indent allowance level rest

/-- The entries of a dictionary, one per line at indentation `indent`, each value laid out
after its key. -/
def prettyEntries (indent allowance level : Nat) : List (Value × Value) → String
  | [] => ""
  | [(k, v)] =>
    let key := k.literal
    key ++ ": " ++ pretty (indent + key.length + 2) allowance level v
  | (k, v) :: rest =>
    let key := k.literal
    key ++ ": " ++ pretty (indent + key.length + 2) 1 level v ++ "," ++ Pretty.newline indent ++
      prettyEntries indent allowance level rest

end

/-- The pretty layout of a value on its own. -/
def prettyLayout (v : Value) : String :=
  pretty 0 0 0 v

end Value

end BraceFormat
