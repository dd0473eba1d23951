import ServiceShapes.Proofs.Decorators.Registration
import ServiceShapes.Proofs.Resolution.Streams

/-!
# Decorators around the symbol provider

Decorators are put around the provider from the inside out, and a shape is resolved from the outside
in.  Both together run the stages in the order of the registry: `SymbolProvider.wrapAll_apply` says
that a provider with stages around it hands its symbol from the first stage to the last, and
`Registry.provider_eq_wrapAll` that a registry puts its stages around a provider in this way.

Only decorators that apply have a stage in the chain, and the first stage that fails ends it
(`standardProvider_runs_in_order`).
-/

namespace ServiceShapes

variable {shape : Shape} {e : GenerationError} {stages : List SymbolStage}

namespace SymbolProvider

variable {provider : SymbolProvider}

/-- The provider followed by a stage, if there is one. -/
def wrapOption (provider : SymbolProvider) : Option SymbolStage → SymbolProvider
  | none => provider
  | some stage => provider.wrap stage

theorem wrap_apply (provider : SymbolProvider) (stage : SymbolStage) (shape : Shape) :
    provider.wrap stage shape = provider shape >>= stage shape := by
  unfold wrap
  cases provider shape <;> rfl

/-- **Stages around a provider run one after another**, each on the symbol that the one before it
made. -/
theorem wrapAll_apply (provider : SymbolProvider) (stages : List SymbolStage) (shape : Shape) :
    provider.wrapAll stages shape =
      provider shape >>= stages.foldlM fun symbol stage => stage shape symbol := by
  induction stages generalizing provider with
  | nil => cases h : provider shape <;> simp [wrapAll, h, bind, Except.bind, pure, Except.pure]
  | cons stage stages ih =>
    rw [wrapAll, List.foldl_cons, ← wrapAll, ih, wrap_apply, bind_assoc]
    rfl

/-- **The first stage that fails decides the error**, whatever stands behind it. -/
theorem wrapAll_eq_error_iff : provider.wrapAll stages shape = .error e ↔
    provider shape = .error e ∨ ∃ plain, provider shape = .ok plain ∧
      ∃ before stage after symbol, stages = before ++ stage :: after ∧
        (before.foldlM (fun symbol stage => stage shape symbol) plain) = .ok symbol ∧
        stage shape symbol = .error e := by
  rw [wrapAll_apply, Except.bind_eq_error_iff]
  simp only [List.foldlM_eq_error_iff]

end SymbolProvider

namespace Registry

variable {r : Registry} {ctx : Context} {stage? : Decorator → Option SymbolStage}

/-- **A registry puts the stages of the decorators that apply around a provider**, in order. -/
theorem provider_eq_wrapAll
    (own : ∀ d ∈ r.applicable ctx, ∀ inner, d.provide ctx inner = inner.wrapOption (stage? d))
    (base : SymbolProvider) :
    r.provider ctx base = base.wrapAll ((r.applicable ctx).filterMap stage?) := by
  rw [provider]
  generalize r.applicable ctx = used at own
  induction used generalizing base with
  | nil => rfl
  | cons d used ih =>
    obtain ⟨first, own⟩ := List.forall_mem_cons.1 own
    rw [List.foldl_cons, first, ih _ own]
    cases h : stage? d with
    | none => rw [List.filterMap_cons_none h, SymbolProvider.wrapOption]
    | some stage =>
      rw [List.filterMap_cons_some h, SymbolProvider.wrapOption, SymbolProvider.wrapAll,
        SymbolProvider.wrapAll, List.foldl_cons]

/-- Decorators that do not apply have no part in what a registry uses. -/
theorem isStableSort_applicable (ctx : Context) (ds es : List Decorator) :
    IsStableSort Decorator.order ((ds ++ es).filter (·.applies ctx))
      (((ofList ds).registerAll es).applicable ctx) :=
  (isStableSort_registerAll ds es).filter (·.applies ctx)

/-- Registering only the decorators that apply makes no difference. -/
theorem applicable_ofList_filter (ctx : Context) (ds es : List Decorator) :
    (ofList ((ds ++ es).filter (·.applies ctx))).applicable ctx =
      ((ofList ds).registerAll es).applicable ctx := by
  have used := isStableSort_applicable ctx ((ds ++ es).filter (·.applies ctx)) []
  rw [List.append_nil, List.filter_filter] at used
  simp only [Bool.and_self] at used
  exact used.eq_of_agree (isStableSort_applicable ctx ds es) fun _ => rfl

end Registry

/-! ### The standard provider -/

theorem standardProvider_eq (ctx : Context) (registry : Registry) :
    standardProvider ctx registry = registry.provider ctx
      ((baseProvider ctx.model ctx.modules).wrapAll [(StreamSymbols.ofContext ctx).stage]) := rfl

/-- The base provider, the event stream stage, then the stages of the decorators. -/
theorem standardProvider_eq_wrapAll {ctx : Context} {r : Registry}
    {stage? : Decorator → Option SymbolStage}
    (own : ∀ d ∈ r.applicable ctx, ∀ inner, d.provide ctx inner = inner.wrapOption (stage? d)) :
    standardProvider ctx r = (baseProvider ctx.model ctx.modules).wrapAll
      ((StreamSymbols.ofContext ctx).stage :: (r.applicable ctx).filterMap stage?) := by
  rw [standardProvider_eq, Registry.provider_eq_wrapAll own, SymbolProvider.wrapAll,
    SymbolProvider.wrapAll, SymbolProvider.wrapAll, List.foldl_cons, List.foldl_cons, List.foldl_nil]

/-- **The stages of a registry run in its order.**  Where each decorator that applies puts at most
one stage around the provider, a shape goes through plain resolution, the event stream stage, and
the stages of these decorators by ascending order number, each on the symbol that the one before it
made.  The first failure is the answer, whatever stages stand behind it.  Decorators that do not
apply might as well not be there. -/
theorem standardProvider_runs_in_order (ctx : Context) (ds es : List Decorator)
    (stage? : Decorator → Option SymbolStage)
    (own : ∀ d ∈ ds ++ es, d.applies ctx = true →
      ∀ inner, d.provide ctx inner = inner.wrapOption (stage? d)) :
    let r := (Registry.ofList ds).registerAll es
    let plainly := baseProvider ctx.model ctx.modules
    let streamStage := (StreamSymbols.ofContext ctx).stage
    let stages := (r.applicable ctx).filterMap stage?
    IsStableSort Decorator.order ((ds ++ es).filter (·.applies ctx)) (r.applicable ctx) ∧
    (∀ shape, standardProvider ctx r shape = do
      let plain ← plainly shape
      let streamed ← streamStage shape plain
      stages.foldlM (fun symbol stage => stage shape symbol) streamed) ∧
    (∀ shape e, standardProvider ctx r shape = .error e ↔
      plainly shape = .error e ∨ ∃ plain, plainly shape = .ok plain ∧
        ∃ before stage after symbol, streamStage :: stages = before ++ stage :: after ∧
          before.foldlM (fun symbol stage => stage shape symbol) plain = .ok symbol ∧
          stage shape symbol = .error e) ∧
    standardProvider ctx r =
      standardProvider ctx (Registry.ofList ((ds ++ es).filter (·.applies ctx))) := by
  intro r plainly streamStage stages
  have sorted := Registry.isStableSort_applicable ctx ds es
  have own : ∀ d ∈ r.applicable ctx, ∀ inner,
      d.provide ctx inner = inner.wrapOption (stage? d) := by
    intro d mem
    obtain ⟨mem, applies⟩ := List.mem_filter.1 (sorted.perm.mem_iff.1 mem)
    exact own d mem applies
  have chain : standardProvider ctx r = plainly.wrapAll (streamStage :: stages) :=
    standardProvider_eq_wrapAll own
  refine ⟨sorted, fun shape => ?_, fun shape e => ?_, ?_⟩
  · rw [chain, SymbolProvider.wrapAll_apply]
    rfl
  · rw [chain, SymbolProvider.wrapAll_eq_error_iff]
  · rw [standardProvider_eq, standardProvider_eq, Registry.provider, Registry.provider,
      Registry.applicable_ofList_filter]

/-- A stage that writes more behind the name of a symbol. -/
def suffixStage (suffix : String) : SymbolStage := fun _ symbol =>
  .ok { symbol with name := symbol.name ++ suffix }

/-- A decorator that puts such a stage around the provider. -/
def suffixDecorator (suffix : String) (order : Int) (applies : Bool) : Decorator where
  name := suffix
  order
  applies _ := applies
  provide _ inner := inner.wrap (suffixStage suffix)

/-- The stage of order one runs before that of order two, which was there first; a decorator without
a stage and one that does not apply leave no trace. -/
theorem talkEvents_suffixes :
    let ctx : Context := ⟨.talk, .ofName "a" "Hear", .server, {}, {}⟩
    let ds : List Decorator := [suffixDecorator "+b" 2 true, { name := "plain" }]
    let es : List Decorator := [suffixDecorator "+off" 0 false, suffixDecorator "+a" 1 true]
    ∃ s, baseProvider .talk {} .talkEvents >>= (StreamSymbols.ofContext ctx).stage .talkEvents =
        .ok s ∧
      standardProvider ctx ((Registry.ofList ds).registerAll es) .talkEvents =
        .ok { s with name := s.name ++ "+a" ++ "+b" } := by
  intro ctx ds es
  have own : ∀ d ∈ ds ++ es, d.applies ctx = true → ∀ inner, d.provide ctx inner =
      inner.wrapOption (if d.name = "plain" then none else some (suffixStage d.name)) := by
    simp only [ds, es, List.cons_append, List.nil_append, List.forall_mem_cons]
    refine ⟨fun _ _ => rfl, fun _ _ => rfl, fun _ _ => rfl, fun _ _ => rfl, by simp⟩
  obtain ⟨sorted, runs, -⟩ := standardProvider_runs_in_order ctx ds es _ own
  have used : ((Registry.ofList ds).registerAll es).applicable ctx =
      [{ name := "plain" }, suffixDecorator "+a" 1 true, suffixDecorator "+b" 2 true] := by
    refine sorted.eq_of_agree ⟨.refl _, by decide, fun _ => rfl⟩ fun n => ?_
    show [suffixDecorator "+b" 2 true, { name := "plain" }, suffixDecorator "+a" 1 true].filter _ = _
    simp only [suffixDecorator, List.filter_cons, List.filter_nil]
    grind
  have resolved : ∃ s, baseProvider .talk {} .talkEvents >>=
      (StreamSymbols.ofContext ctx).stage .talkEvents = .ok s := ⟨_, rfl⟩
  obtain ⟨s, resolved⟩ := resolved
  refine ⟨s, resolved, ?_⟩
  rw [runs, used, ← bind_assoc, resolved]
  rfl

end ServiceShapes
