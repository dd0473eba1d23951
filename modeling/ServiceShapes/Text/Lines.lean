/-!
# Lines of text

A line ends at a line feed, which may have one carriage return before it; the text after the last
line feed is a line of its own unless it is empty.  A carriage return anywhere else belongs to its
line.  `unlines` joins lines with single line feeds.
-/

namespace ServiceShapes.Text

/-- The lines of `s`, without their ends. -/
def lines : List Char → List (List Char)
  | [] => []
  | '\n' :: r => [] :: lines r
  | '\r' :: '\n' :: r => [] :: lines r
  | c :: r => match lines r with
    | [] => [[c]]
    | line :: rest => (c :: line) :: rest

/-- The lines joined by line feeds, without one at the end. -/
def unlines (ls : List (List Char)) : List Char := List.intercalate ['\n'] ls

@[simp] theorem lines_nil : lines [] = [] := rfl

@[simp] theorem lines_newline (r : List Char) : lines ('\n' :: r) = [] :: lines r := rfl

@[simp] theorem unlines_nil : unlines [] = [] := rfl

end ServiceShapes.Text
