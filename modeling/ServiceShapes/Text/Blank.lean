/-!
# White space

The Unicode property `White_Space`, and blank text: text that holds nothing else.
-/

namespace ServiceShapes.Text

/-- The code points with the property `White_Space`, as closed intervals. -/
def whiteSpace : List (Nat × Nat) :=
  [(0x09, 0x0D), (0x20, 0x20), (0x85, 0x85), (0xA0, 0xA0), (0x1680, 0x1680), (0x2000, 0x200A),
   (0x2028, 0x2029), (0x202F, 0x202F), (0x205F, 0x205F), (0x3000, 0x3000)]

/-- Whether `c` is white space in the sense of Unicode. -/
def isWhiteSpace (c : Char) : Bool :=
  whiteSpace.any fun (first, last) => first ≤ c.toNat && c.toNat ≤ last

/-- Whether a line holds white space only. -/
def isBlank (line : List Char) : Bool := line.all isWhiteSpace

end ServiceShapes.Text
