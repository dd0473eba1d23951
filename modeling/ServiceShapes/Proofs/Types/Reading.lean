import ServiceShapes.Proofs.Types.Heads

/-!
# Telling types apart by their texts

What stands behind a part of a type is a comma or a closing bracket, and the part itself brings as many
opening brackets as closing ones.  So a text that starts with a type shows where the type ends, and which
one it is (`RustType.determined`), as long as the named types in it are in their places
(`RustType.WellPlaced`).  A whole text then stands for one such type (`RustType.render_full_eq_iff`).
-/

namespace ServiceShapes.RustType

variable {s t : RustType} {ss ts : List RustType} {r q : List Char}

/-! ### Named types at any depth -/

/-- All named types in the type are in their places. -/
def WellPlaced (t : RustType) : Prop := ∀ u ∈ t.namedTypes, u.Placed

theorem WellPlaced.placed (h : t.WellPlaced) : t.Placed := by
  cases t with
  | named | generic => exact h _ List.mem_cons_self
  | _ => trivial

theorem mem_namedTypesOfArgs {u : RustType} : u ∈ namedTypesOfArgs ts ↔ ∃ t ∈ ts, u ∈ t.namedTypes := by
  induction ts with
  | nil => simp [namedTypesOfArgs]
  | cons t ts ih => simp [namedTypesOfArgs, ih]

theorem WellPlaced.of_mem_parts (h : t.WellPlaced) (part : s ∈ t.parts) : s.WellPlaced := by
  intro u hu
  refine h u ?_
  cases t with
  | generic name ns args =>
    exact List.mem_cons_of_mem _ (mem_namedTypesOfArgs.2 ⟨s, part, hu⟩)
  | hashMap key value =>
    rcases List.mem_pair.1 part with rfl | rfl
    · exact List.mem_append_left _ hu
    · exact List.mem_append_right _ hu
  | vec | option | box =>
    obtain rfl := List.mem_singleton.1 part
    exact hu
  | _ => cases part

/-! ### Reading a text -/

/-- What can stand behind a part: nothing, or text that starts with a comma or a closing bracket. -/
def Ends (r : List Char) : Prop := ∀ c ∈ r.head?, c = ',' ∨ c = '>'

theorem ends_nil : Ends [] := by simp [Ends]

/-- Text that starts with a type shows which one this is, and where it ends. -/
def Determined (s : RustType) : Prop :=
  ∀ ⦃t : RustType⦄ ⦃r q : List Char⦄, t.WellPlaced → Ends r → Ends q →
    s.chars true ++ r = t.chars true ++ q → s = t ∧ r = q

theorem Ends.isMark_of_bracketed (h : Ends r) : ∀ c ∈ (bracketed ts ++ r).head?, isMark c = true := by
  intro c hc
  cases ts with
  | nil =>
    rcases h c hc with rfl | rfl
    · rfl
    · rfl
  | cons t ts =>
    cases hc
    rfl

/-- The parts behind the first are determined one by one, up to the closing bracket. -/
theorem moreArgsChars_inj (each : ∀ s ∈ ss, s.Determined) (placed : ∀ t ∈ ts, t.WellPlaced)
    (same : moreArgsChars true ss ++ '>' :: r = moreArgsChars true ts ++ '>' :: q) :
    ss = ts ∧ r = q := by
  have ends : ∀ (us : List RustType) (p : List Char), Ends (moreArgsChars true us ++ '>' :: p) := by
    intro us p c hc
    cases us with
    | nil =>
      cases hc
      exact .inr rfl
    | cons u us =>
      cases hc
      exact .inl rfl
  induction ss generalizing ts with
  | nil =>
    cases ts with
    | nil => exact ⟨rfl, (List.cons.inj same).2⟩
    | cons t ts => exact absurd (List.cons.inj same).1 (by decide)
  | cons s ss ih =>
    cases ts with
    | nil => exact absurd (List.cons.inj same).1 (by decide)
    | cons t ts =>
      obtain ⟨here, later⟩ := List.forall_mem_cons.1 each
      obtain ⟨placedHere, placedLater⟩ := List.forall_mem_cons.1 placed
      have behind : s.chars true ++ (moreArgsChars true ss ++ '>' :: r) =
          t.chars true ++ (moreArgsChars true ts ++ '>' :: q) := by
        simpa [moreArgsChars] using same
      obtain ⟨rfl, rest⟩ := here placedHere (ends ss r) (ends ts q) behind
      obtain ⟨rfl, rfl⟩ := ih later placedLater rest
      exact ⟨rfl, rfl⟩

theorem bracketed_inj (each : ∀ s ∈ ss, s.Determined) (placed : ∀ t ∈ ts, t.WellPlaced)
    (hr : Ends r) (hq : Ends q) (same : bracketed ss ++ r = bracketed ts ++ q) :
    ss = ts ∧ r = q := by
  have opening : ¬('<' = ',' ∨ '<' = '>') := by decide
  cases ss with
  | nil =>
    cases ts with
    | nil => exact ⟨rfl, same⟩
    | cons t ts =>
      rw [show r = _ from same] at hr
      exact absurd (hr '<' rfl) opening
  | cons s ss =>
    cases ts with
    | nil =>
      rw [show q = _ from same.symm] at hq
      exact absurd (hq '<' rfl) opening
    | cons t ts =>
      -- the first part is like the others but for the comma in front of them
      refine moreArgsChars_inj each placed (congrArg (fun text => ',' :: ' ' :: text) ?_)
      simpa [bracketed, argsChars] using same

/-- **A type whose named types are in their places is determined by its text**, whatever follows. -/
theorem determined (placed : s.WellPlaced) : s.Determined := by
  induction s using induction_on_parts with
  | step s ih =>
    intro t r q placed' hr hq same
    rw [chars_eq placed.placed, chars_eq placed'.placed, List.append_assoc, List.append_assoc] at same
    obtain ⟨heads, behind⟩ := append_inj_of_boundary (isMark_of_mem_head placed.placed)
      (isMark_of_mem_head placed'.placed) hr.isMark_of_bracketed hq.isMark_of_bracketed same
    obtain ⟨parts, rest⟩ := bracketed_inj (fun u part => ih u part (placed.of_mem_parts part))
      (fun u part => placed'.of_mem_parts part) hr hq behind
    exact ⟨eq_of_head_eq placed.placed placed'.placed heads parts, rest⟩

/-- **Types written in full are told apart by their texts**, at any depth, if each named type in them
has an identifier as its name and a path of identifiers as its namespace, takes an argument if it takes
any, and is not the hash map of the standard library. -/
theorem render_full_eq_iff (hs : s.WellPlaced) (ht : t.WellPlaced) :
    s.render true = t.render true ↔ s = t := by
  constructor
  · intro same
    have chars : s.chars true ++ [] = t.chars true ++ [] := by
      rw [List.append_nil, List.append_nil]
      exact String.ofList_inj.1 same
    exact (determined hs ht ends_nil ends_nil chars).1
  · rintro rfl
    rfl

/-- A named type with arguments that may occur among its own arguments. -/
def pair (args : List RustType) : RustType := .generic "Pair" (some "crate::model") args

theorem placed_pair {args : List RustType} (some : args ≠ []) : (pair args).Placed :=
  ⟨by decide, ⟨"crate::model", rfl, ["crate", "model"], by decide, by decide⟩, some, by decide⟩

/-- Only the brackets show whether the second number belongs to the inner pair. -/
theorem render_full_nested_pairs :
    (pair [pair [integer 8, integer 8]]).WellPlaced ∧ (pair [pair [integer 8], integer 8]).WellPlaced ∧
      (pair [pair [integer 8, integer 8]]).render true ≠ (pair [pair [integer 8], integer 8]).render true := by
  have inner : (pair [pair [integer 8, integer 8]]).WellPlaced :=
    List.forall_mem_cons.2 ⟨placed_pair nofun, List.forall_mem_singleton.2 (placed_pair nofun)⟩
  have outer : (pair [pair [integer 8], integer 8]).WellPlaced :=
    List.forall_mem_cons.2 ⟨placed_pair nofun, List.forall_mem_singleton.2 (placed_pair nofun)⟩
  exact ⟨inner, outer, fun same => absurd ((render_full_eq_iff inner outer).1 same) (by decide)⟩

end ServiceShapes.RustType
