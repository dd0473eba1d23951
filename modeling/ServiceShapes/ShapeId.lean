import ServiceShapes.Text.Split

/-!
# Shape ids

A shape id names a shape by a namespace and a name, and a member of a shape by a third part.  Its
text is `namespace#name` or `namespace#name$member`.

* `ShapeId.toText` writes the text, `ShapeId.ofText?` reads it: the namespace ends at the first
  `#`, the name at the first `$` after that, and no part may be empty.
* Ids are ordered by namespace, then name, then member part, each by its characters; an id without
  member part comes before the ids of its members.
-/

namespace ServiceShapes

/-- The name of a shape, or of a member of a shape. -/
structure ShapeId where
  /-- The namespace. -/
  ns : String
  name : String
  member : Option String
deriving DecidableEq, Repr, Inhabited

namespace ShapeId

/-- The id of a shape that is not a member. -/
def ofName (ns name : String) : ShapeId := ⟨ns, name, none⟩

/-- The id of the member `member` of this shape. -/
def withMember (id : ShapeId) (member : String) : ShapeId := { id with member := some member }

/-- The id of the shape that contains this member. -/
def withoutMember (id : ShapeId) : ShapeId := { id with member := none }

@[simp] theorem withMember_ns (id : ShapeId) (m : String) : (id.withMember m).ns = id.ns := rfl

@[simp] theorem withMember_name (id : ShapeId) (m : String) : (id.withMember m).name = id.name := rfl

@[simp] theorem withMember_member (id : ShapeId) (m : String) :
    (id.withMember m).member = some m := rfl

@[simp] theorem withoutMember_withMember (id : ShapeId) (m : String) :
    (id.withMember m).withoutMember = id.withoutMember := rfl

/-! ### Text -/

/-- The characters of `namespace#name` or `namespace#name$member`. -/
def chars (id : ShapeId) : List Char :=
  id.ns.toList ++ '#' :: id.name.toList ++
    match id.member with
    | none => []
    | some m => '$' :: m.toList

/-- The text of an id. -/
def toText (id : ShapeId) : String := String.ofList id.chars

instance : ToString ShapeId := ⟨toText⟩

/-- The id that a text stands for: `none` if it has no `#` or one of its parts is empty. -/
def ofChars? (s : List Char) : Option ShapeId := do
  let (ns, rest) ← Text.splitFirst '#' s
  let (name, member) := match Text.splitFirst '$' rest with
    | none => (rest, none)
    | some (name, member) => (name, some member)
  if ns.isEmpty || name.isEmpty || member == some [] then none
  else some ⟨String.ofList ns, String.ofList name, member.map String.ofList⟩

/-- The id that a text stands for. -/
def ofText? (s : String) : Option ShapeId := ofChars? s.toList

/-! ### Order -/

/-- Order of member parts: an id without one comes first. -/
def MemberBefore : Option String → Option String → Prop
  | none, some _ => True
  | some a, some b => a < b
  | _, none => False

instance : DecidableRel MemberBefore
  | none, some _ => .isTrue trivial
  | some a, some b => inferInstanceAs (Decidable (a < b))
  | none, none => .isFalse id
  | some _, none => .isFalse id

/-- Lexicographic order: namespace, name, member part. -/
def Before (a b : ShapeId) : Prop :=
  a.ns < b.ns ∨ a.ns = b.ns ∧ (a.name < b.name ∨ a.name = b.name ∧ MemberBefore a.member b.member)

instance : LT ShapeId := ⟨Before⟩

instance : DecidableRel ((· < ·) : ShapeId → ShapeId → Prop) := fun a b =>
  inferInstanceAs (Decidable (a.ns < b.ns ∨ a.ns = b.ns ∧
    (a.name < b.name ∨ a.name = b.name ∧ MemberBefore a.member b.member)))

theorem MemberBefore.irrefl : ∀ m, ¬MemberBefore m m
  | none => id
  | some m => String.lt_irrefl m

theorem MemberBefore.trans : ∀ {a b c}, MemberBefore a b → MemberBefore b c → MemberBefore a c
  | none, some _, some _, _, _ => trivial
  | some _, some _, some _, h, g => String.lt_trans h g

theorem MemberBefore.eq_of_not : ∀ {a b}, ¬MemberBefore a b → ¬MemberBefore b a → a = b
  | none, none, _, _ => rfl
  | none, some _, h, _ => absurd trivial h
  | some _, none, _, h => absurd trivial h
  | some _, some _, h, g => congrArg some (String.le_antisymm (String.not_lt.1 g) (String.not_lt.1 h))

theorem lt_irrefl (a : ShapeId) : ¬a < a := by
  rintro (h | ⟨-, h | ⟨-, h⟩⟩)
  · exact String.lt_irrefl _ h
  · exact String.lt_irrefl _ h
  · exact MemberBefore.irrefl _ h

theorem lt_trans {a b c : ShapeId} (h : a < b) (g : b < c) : a < c := by
  rcases h with h | ⟨e, h | ⟨e', h⟩⟩ <;> rcases g with g | ⟨f, g | ⟨f', g⟩⟩
  · exact .inl (String.lt_trans h g)
  · exact .inl (f ▸ h)
  · exact .inl (f ▸ h)
  · exact .inl (e ▸ g)
  · exact .inr ⟨e.trans f, .inl (String.lt_trans h g)⟩
  · exact .inr ⟨e.trans f, .inl (f' ▸ h)⟩
  · exact .inl (e ▸ g)
  · exact .inr ⟨e.trans f, .inl (e' ▸ g)⟩
  · exact .inr ⟨e.trans f, .inr ⟨e'.trans f', h.trans g⟩⟩

theorem lt_asymm {a b : ShapeId} (h : a < b) : ¬b < a := fun g => lt_irrefl a (lt_trans h g)

/-- **The order is total.** -/
theorem lt_trichotomy (a b : ShapeId) : a < b ∨ a = b ∨ b < a := by
  have eq_of {x y : String} (h : ¬x < y) (g : ¬y < x) : x = y :=
    String.le_antisymm (String.not_lt.1 g) (String.not_lt.1 h)
  by_cases h₁ : a.ns < b.ns
  · exact .inl (.inl h₁)
  by_cases h₂ : b.ns < a.ns
  · exact .inr (.inr (.inl h₂))
  have e := eq_of h₁ h₂
  by_cases h₃ : a.name < b.name
  · exact .inl (.inr ⟨e, .inl h₃⟩)
  by_cases h₄ : b.name < a.name
  · exact .inr (.inr (.inr ⟨e.symm, .inl h₄⟩))
  have e' := eq_of h₃ h₄
  by_cases h₅ : MemberBefore a.member b.member
  · exact .inl (.inr ⟨e, .inr ⟨e', h₅⟩⟩)
  by_cases h₆ : MemberBefore b.member a.member
  · exact .inr (.inr (.inr ⟨e.symm, .inr ⟨e'.symm, h₆⟩⟩))
  refine .inr (.inl ?_)
  cases a
  cases b
  cases e
  cases e'
  cases MemberBefore.eq_of_not h₅ h₆
  rfl

end ShapeId

end ServiceShapes
