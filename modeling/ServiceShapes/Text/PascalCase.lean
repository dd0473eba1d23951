import ServiceShapes.Text.Split
import ServiceShapes.Text.UpperCase

/-!
# Pascal case

`pascalCase` turns `snake_case` and `kebab-case` names into `PascalCase`: the words between
separators are put together with their first characters in upper case.  Nothing else in a word
changes, and the upper-case form of a first character may be several characters.
-/

namespace ServiceShapes.Text

/-- The characters that separate words. -/
def isWordSeparator (c : Char) : Bool := c == '_' || c == '-'

/-- A word with its first character in upper case. -/
def capitalize : List Char → List Char
  | [] => []
  | c :: r => upperCase c ++ r

/-- The words of `s`, each capitalized, without separators. -/
def pascalCase (s : List Char) : List Char := (splitAll isWordSeparator s).flatMap capitalize

example : pascalCase "__chat_message-stream".toList = "ChatMessageStream".toList := by decide

end ServiceShapes.Text
