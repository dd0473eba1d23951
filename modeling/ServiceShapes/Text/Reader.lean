/-!
# Readers

A `Reader` takes a value from the front of a text and gives it together with the text that follows.
What follows is always shorter, so a list of values can be read by reading one value after another:
each loop over a reader ends because the text does.
-/

namespace ServiceShapes

/-- A function that reads a value from the front of a text, consuming at least one character. -/
structure Reader (α : Type) where
  read? : List Char → Option (α × List Char)
  shorter : ∀ {s r : List Char} {a : α}, read? s = some (a, r) → r.length < s.length

namespace Reader

/-- The reader whose values are those of another one with a function applied. -/
def map {α β : Type} (f : α → β) (reader : Reader α) : Reader β where
  read? s := (reader.read? s).map fun (a, r) => (f a, r)
  shorter h := by
    obtain ⟨⟨_, _⟩, h₁, h₂⟩ := Option.map_eq_some_iff.1 h
    cases h₂
    exact reader.shorter h₁

/-- The reader that reads with the first of two readers that succeeds. -/
def orElse {α : Type} (first second : Reader α) : Reader α where
  read? s := (first.read? s).or (second.read? s)
  shorter h := by
    rcases Option.or_eq_some_iff.1 h with h | ⟨_, h⟩
    · exact first.shorter h
    · exact second.shorter h

end Reader

end ServiceShapes
