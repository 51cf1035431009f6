import BraceFormat.Text.RangeTable
/-!
# Blanks and line breaks

The blank characters are those with the Unicode property `White_Space` together with the
information separators `U+001C` to `U+001F`; the line breaks are the characters that end a line of
text: line feed, carriage return, the vertical tab and form feed, the separators `U+001C` to
`U+001E`, next line `U+0085` and the line and paragraph separators. A carriage return directly
followed by a line feed ends one line, not two.

The pretty layout of long text cuts it at line breaks first, and then into runs of non-blank
characters each followed by its blanks; both cuts keep every character.

## Main definitions

* `isBlank`, `isLineBreak`: the character tests.
* `lines`: text cut after each line break, the breaks kept.
* `blankRuns`: text cut into runs of non-blank characters with the blanks after them.
-/

namespace BraceFormat.Text

/-- Code points of the blank characters. -/
def blankTable : RangeTable :=
  [(0x9, 0xD), (0x1C, 0x20), (0x85, 0x85), (0xA0, 0xA0), (0x1680, 0x1680), (0x2000, 0x200A),
    (0x2028, 0x2029), (0x202F, 0x202F), (0x205F, 0x205F), (0x3000, 0x3000)]

/-- Whether a character is blank. -/
def isBlank (c : Char) : Bool :=
  blankTable.contains c.toNat

/-- Whether a character ends a line. -/
def isLineBreak (c : Char) : Bool :=
  c == '\n' || c == '\r' || c == '\x0b' || c == '\x0c' || c == '\x1c' || c == '\x1d' ||
    c == '\x1e' || c == '\x85' || c == '\u2028' || c == '\u2029'

/-- Cuts text after each line break, with `cur` the reversed start of the current line. -/
def linesFrom (cur : List Char) : List Char → List (List Char)
  | [] => if cur.isEmpty then [] else [cur.reverse]
  | '\r' :: '\n' :: rest => ('\n' :: '\r' :: cur).reverse :: linesFrom [] rest
  | c :: rest =>
    if isLineBreak c then (c :: cur).reverse :: linesFrom [] rest else linesFrom (c :: cur) rest

/-- Text cut after each line break, each line keeping its break; empty text has no lines. -/
def lines (s : List Char) : List (List Char) :=
  linesFrom [] s

/-- Cuts text into runs, with `cur` the reversed current run and `inBlanks` whether it has
reached its blanks. -/
def blankRunsFrom (cur : List Char) (inBlanks : Bool) : List Char → List (List Char)
  | [] => if cur.isEmpty then [] else [cur.reverse]
  | c :: rest =>
    if isBlank c then blankRunsFrom (c :: cur) true rest
    else if inBlanks then cur.reverse :: blankRunsFrom [c] false rest
    else blankRunsFrom (c :: cur) false rest

/-- Text cut into its runs: each run is a stretch of non-blank characters followed by all the
blanks after it. Joining the runs gives the text back. -/
def blankRuns (s : List Char) : List (List Char) :=
  blankRunsFrom [] false s

end BraceFormat.Text
