import ServiceShapes.Json.Number
import ServiceShapes.Json.Quoted

/-!
# JSON tokens

`tokens?` cuts text into punctuation, strings and words.  A word is a longest run of letters,
digits, signs and points; it has to be `true`, `false`, `null` or a number.  White space, of which
JSON knows four characters, separates and is dropped.

The scanner is a fold over the characters.  Its state says what it is inside of and holds the
characters of that read so far, last first.
-/

namespace ServiceShapes.Json

/-- A token of JSON text. -/
inductive Token
  | openArray
  | closeArray
  | openObject
  | closeObject
  | comma
  | colon
  /-- A string; `none` if its text holds half a surrogate pair. -/
  | string (text : Option String)
  /-- A number or one of the three literals. -/
  | scalar (value : Json)
deriving Repr

/-- The token of a punctuation character. -/
def Token.ofPunctuation? : Char → Option Token
  | '[' => some .openArray
  | ']' => some .closeArray
  | '{' => some .openObject
  | '}' => some .closeObject
  | ',' => some .comma
  | ':' => some .colon
  | _ => none

/-- The token of a word. -/
def Token.ofWord? (word : List Char) : Option Token :=
  if word = ['t', 'r', 'u', 'e'] then some (.scalar (.boolean true))
  else if word = ['f', 'a', 'l', 's', 'e'] then some (.scalar (.boolean false))
  else if word = ['n', 'u', 'l', 'l'] then some (.scalar .null)
  else (ofNumber? word).map .scalar

/-- The token of a string, given by the text between its quotation marks. -/
def Token.ofQuoted? (raw : List Char) : Option Token :=
  (units? raw).map fun units => .string ((ofUnits? units).map String.ofList)

/-- The four characters of white space. -/
def isSpace (c : Char) : Bool := c == ' ' || c == '\n' || c == '\r' || c == '\t'

/-- The characters of words. -/
def isWordChar (c : Char) : Bool := c.isAlphanum || c == '+' || c == '-' || c == '.'

/-- What the scanner is inside of, with its characters so far, last first. -/
inductive Scanning
  | between
  | word (seen : List Char)
  | quoted (seen : List Char)
  /-- Inside a string, right after a backslash. -/
  | escape (seen : List Char)
deriving Repr

/-- The scanner's state with the tokens found so far, last first. -/
structure Scanner where
  inside : Scanning := .between
  found : List Token := []
deriving Repr

namespace Scanner

/-- Takes a character between tokens. -/
def startToken (found : List Token) (c : Char) : Option Scanner :=
  if isSpace c then some ⟨.between, found⟩
  else if c = '"' then some ⟨.quoted [], found⟩
  else if isWordChar c then some ⟨.word [c], found⟩
  else (Token.ofPunctuation? c).map fun t => ⟨.between, t :: found⟩

/-- Takes one character. -/
def step (s : Scanner) (c : Char) : Option Scanner :=
  match s.inside with
  | .between => startToken s.found c
  | .word seen =>
    if isWordChar c then some ⟨.word (c :: seen), s.found⟩
    else (Token.ofWord? seen.reverse).bind fun t => startToken (t :: s.found) c
  | .quoted seen =>
    if c = '"' then (Token.ofQuoted? seen.reverse).map fun t => ⟨.between, t :: s.found⟩
    else if c = '\\' then some ⟨.escape seen, s.found⟩
    else some ⟨.quoted (c :: seen), s.found⟩
  | .escape seen => some ⟨.quoted (c :: '\\' :: seen), s.found⟩

/-- The tokens found when the text ends here. -/
def finish (s : Scanner) : Option (List Token) :=
  match s.inside with
  | .between => some s.found.reverse
  | .word seen => (Token.ofWord? seen.reverse).map fun t => (t :: s.found).reverse
  | .quoted _ | .escape _ => none

end Scanner

/-- The tokens of a text; `none` if some part of it is no token. -/
def tokens? (s : List Char) : Option (List Token) :=
  (s.foldlM Scanner.step {}).bind Scanner.finish

end ServiceShapes.Json
