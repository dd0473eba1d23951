import ServiceShapes.Text.Hidden

/-!
# Quoted display of text

`displayQuoted` shows a text between double quotes so that it reads on one line and every character
can be seen: quotes, backslashes and the usual control characters are escaped with a backslash, and
other characters without a form of their own are given by their codes.
-/

namespace ServiceShapes.Text

/-- One character inside a quoted display. -/
def displayChar (c : Char) : List Char :=
  match c with
  | '"' => ['\\', '"']
  | '\\' => ['\\', '\\']
  | '\n' => ['\\', 'n']
  | '\r' => ['\\', 'r']
  | '\t' => ['\\', 't']
  | '\x00' => ['\\', '0']
  | c =>
    if isHidden c then ['\\', 'u', '\x7b'] ++ Nat.toDigits 16 c.toNat ++ ['\x7d'] else [c]

/-- A text between double quotes, on one line. -/
def displayQuoted (s : String) : String :=
  String.ofList ('"' :: s.toList.flatMap displayChar ++ ['"'])

end ServiceShapes.Text
