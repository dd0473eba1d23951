import ServiceShapes.Text.Blank
import ServiceShapes.Text.Lines

/-!
# Indentation

* `indent n s` puts `n` spaces before every line of `s` that is not blank and empties the blank
  ones.
* `unindent s` drops blank lines at both ends and strips the common margin, so that a text can be
  written at any indentation.

Only spaces and tabs count as indentation; every other white space character belongs to the text
of its line, and a line is blank when it holds white space of any kind and nothing else.
-/

namespace ServiceShapes.Text

/-- The characters that indent a line. -/
def isIndentation (c : Char) : Bool := c == ' ' || c == '\t'

/-- How many spaces and tabs stand at the start of a line. -/
def leadingIndent (line : List Char) : Nat := (line.takeWhile isIndentation).length

/-- Drops the first `n` characters, but no more than the leading spaces and tabs. -/
def dropIndent (n : Nat) (line : List Char) : List Char := line.drop (min n (leadingIndent line))

/-- The smallest indentation of a line that is not blank; zero if every line is blank. -/
def margin (ls : List (List Char)) : Nat :=
  (((ls.filter fun l => !isBlank l).map leadingIndent).min?).getD 0

/-- The lines without the blank ones at both ends. -/
def trimBlankLines (ls : List (List Char)) : List (List Char) :=
  ((ls.dropWhile isBlank).reverse.dropWhile isBlank).reverse

/-- The text without blank lines at its ends and without the margin that its lines share. -/
def unindent (s : List Char) : List Char :=
  let body := trimBlankLines (lines s)
  unlines (body.map (dropIndent (margin body)))

/-- One line moved right by `n` spaces; a blank line becomes empty. -/
def indentLine (n : Nat) (line : List Char) : List Char :=
  if isBlank line then [] else List.replicate n ' ' ++ line

/-- Every line that is not blank moved right by `n` spaces, blank lines emptied. -/
def indent (n : Nat) (s : List Char) : List Char := unlines ((lines s).map (indentLine n))

end ServiceShapes.Text
