import ServiceShapes.Generation.Decorator
import ServiceShapes.Proofs.StableSorting

/-!
# Registering decorators

A registry is sorted again on every registration.  What it holds in the end is still the one stable
sort of all decorators that ever came in (`Registry.isStableSort_registerAll`).  So histories of
registrations lead to the same registry if decorators of equal order come in the same order, and only
then (`Registry.registerAll_eq_iff_agree`).
-/

namespace ServiceShapes

namespace Registry

variable {r : Registry} {ds es ds' es' : List Decorator}

theorem isStableSort_sort (ds : List Decorator) : IsStableSort Decorator.order ds (sort ds) :=
  isStableSort_mergeSort Decorator.order ds

/-- **Registering one more decorator keeps the registry sorted.** -/
theorem isStableSort_register (h : IsStableSort Decorator.order ds r.decorators) (d : Decorator) :
    IsStableSort Decorator.order (ds ++ [d]) (r.register d).decorators :=
  h.append (isStableSort_sort (r.decorators ++ [d]))

theorem registerAll_cons (r : Registry) (d : Decorator) (es : List Decorator) :
    r.registerAll (d :: es) = (r.register d).registerAll es := rfl

/-- Registering decorators one after another keeps the registry sorted. -/
theorem isStableSort_registerAll_of (h : IsStableSort Decorator.order ds r.decorators)
    (es : List Decorator) :
    IsStableSort Decorator.order (ds ++ es) (r.registerAll es).decorators := by
  induction es generalizing ds r with
  | nil => simpa [registerAll] using h
  | cons d es ih =>
    have all := ih (isStableSort_register h d)
    rwa [List.append_assoc, List.singleton_append, ← registerAll_cons] at all

/-- **A registry is the stable sort of all that came in**, whenever it came in. -/
theorem isStableSort_registerAll (ds es : List Decorator) :
    IsStableSort Decorator.order (ds ++ es) ((ofList ds).registerAll es).decorators :=
  isStableSort_registerAll_of (isStableSort_sort ds) es

/-- **Histories lead to the same registry exactly if they agree on the decorators of each order.** -/
theorem registerAll_eq_iff_agree : (ofList ds').registerAll es' = (ofList ds).registerAll es ↔
    AgreeByKey Decorator.order (ds' ++ es') (ds ++ es) := by
  have first := isStableSort_registerAll ds es
  have second := isStableSort_registerAll ds' es'
  constructor
  · intro same n
    rw [← second.stable n, same, first.stable n]
  · intro agree
    exact congrArg Registry.mk (second.eq_of_agree first agree)

/-- **Registering now and then is sorting once.**  A registry holds its first decorators and all that
were registered later in ascending order, those of equal order as they came in.  Histories that agree
on the decorators of each order cannot be told apart, whatever the registry is used for. -/
theorem registerAll_sorts_once (ds es : List Decorator) :
    ((ofList ds).registerAll es).decorators = sort (ds ++ es) ∧
    IsStableSort Decorator.order (ds ++ es) ((ofList ds).registerAll es).decorators ∧
    ∀ ds' es', AgreeByKey Decorator.order (ds' ++ es') (ds ++ es) →
      ((ofList ds').registerAll es').decorators = ((ofList ds).registerAll es).decorators ∧
      ∀ ctx,
        (∀ base, ((ofList ds').registerAll es').customizations ctx base =
          ((ofList ds).registerAll es).customizations ctx base) ∧
        (∀ base, ((ofList ds').registerAll es').provider ctx base =
          ((ofList ds).registerAll es).provider ctx base) ∧
        standardProvider ctx ((ofList ds').registerAll es') =
          standardProvider ctx ((ofList ds).registerAll es) := by
  have sorted := isStableSort_registerAll ds es
  refine ⟨?_, sorted, ?_⟩
  · exact sorted.eq_of_agree (isStableSort_sort (ds ++ es)) fun _ => rfl
  · intro ds' es' agree
    rw [registerAll_eq_iff_agree.2 agree]
    exact ⟨rfl, fun ctx => ⟨fun base => rfl, fun base => rfl, rfl⟩⟩

/-- Two decorators of order zero come in at different times, between others; only their own order
counts. -/
theorem registerAll_sorts_ties :
    let late : Decorator := { name := "late", order := 127 }
    let first : Decorator := { name := "first" }
    let second : Decorator := { name := "second" }
    let early : Decorator := { name := "early", order := -128 }
    AgreeByKey Decorator.order ([] ++ [first, early, second, late])
      ([late, first, early] ++ [second]) ∧
    ((ofList []).registerAll [first, early, second, late]).decorators =
      ((ofList [late, first, early]).registerAll [second]).decorators := by
  intro late first second early
  have agree : AgreeByKey Decorator.order ([] ++ [first, early, second, late])
      ([late, first, early] ++ [second]) := by
    intro n
    simp only [List.nil_append, List.cons_append, List.filter_cons, List.filter_nil]
    grind
  exact ⟨agree, ((registerAll_sorts_once _ _).2.2 _ _ agree).1⟩

end Registry

end ServiceShapes
