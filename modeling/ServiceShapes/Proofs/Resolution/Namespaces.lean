import ServiceShapes.Proofs.Resolution.Dependencies

/-!
# Namespaces of resolved symbols

A symbol is located if its namespace is that of its type, where the type is a named one
(`Symbol.Located`).  Namespace and name of such a symbol are the path that its type is written with
(`Symbol.Located.namesPath`).

All symbols that resolution makes are located but one: the symbol of timestamps names a type of the
standard library and has no namespace.  This is read off `BaseSymbols.everywhere_of_resolve`, which says
that whatever depends on type and namespace alone, and holds of located symbols, holds everywhere in a
plain symbol exactly if it holds of the simple types that occur in the shape.
-/

namespace ServiceShapes

/-! ### Located symbols -/

namespace RustType

/-- Whether a type is a named one, with arguments or without. -/
def isNamed : RustType → Bool
  | .named .. | .generic .. => true
  | _ => false

/-- The arguments of a type as they are written behind its name. -/
def argsText (full : Bool) : RustType → String
  | .generic _ _ args => String.ofList ('<' :: argsChars full args ++ ['>'])
  | _ => ""

theorem chars_named (full : Bool) (name : String) (ns : Option String) :
    (named name ns).chars full = qualify full name ns := rfl

theorem render_named (name ns : String) :
    (named name (some ns)).render true = ns ++ "::" ++ name := by
  rw [← String.toList_inj]
  simp [render, chars_named, qualify]

theorem render_named_short (name : String) (ns : Option String) :
    (named name ns).render false = name := by
  rw [← String.toList_inj]
  simp [render, chars_named, qualify]

theorem render_generic (name ns : String) (args : List RustType) :
    (generic name (some ns) args).render true =
      ns ++ "::" ++ name ++ (generic name (some ns) args).argsText true := by
  rw [← String.toList_inj]
  simp [render, chars_generic, qualify, argsText]

theorem render_generic_short (name : String) (ns : Option String) (args : List RustType) :
    (generic name ns args).render false = name ++ (generic name ns args).argsText false := by
  rw [← String.toList_inj]
  simp [render, chars_generic, qualify, argsText]

end RustType

namespace Symbol

variable {s t : Symbol}

/-- A named type lives in the namespace of its symbol. -/
def Located (s : Symbol) : Prop :=
  match s.type with
  | .named _ ns | .generic _ ns _ => ns = some s.ns
  | _ => True

/-- Namespace and name of the symbol are the path that its type is written with, up to the arguments
of the type. -/
def NamesPath (s : Symbol) : Prop :=
  ∃ bare, s.name = bare ++ s.type.argsText false ∧
    s.type.render true = s.ns ++ "::" ++ bare ++ s.type.argsText true

theorem located_of_not_named (h : s.type.isNamed = false) : s.Located := by
  unfold Located
  cases type : s.type <;> simp_all [RustType.isNamed]

theorem located_of_named {name : String} (h : s.type = .named name (some s.ns)) : s.Located := by
  rw [Located, h]

theorem located_of_generic {name : String} {args : List RustType}
    (h : s.type = .generic name (some s.ns) args) : s.Located := by
  rw [Located, h]

/-- **The type of a located symbol is written at the path of the symbol**, if the symbol is named as its
type is written in short. -/
theorem Located.namesPath (located : s.Located) (named : s.type.isNamed = true)
    (name : s.name = s.type.render false) : s.NamesPath := by
  unfold Located at located
  unfold NamesPath
  rw [name]
  cases type : s.type with
  | named bare ns =>
    rw [type] at located
    have place : ns = some s.ns := located
    rw [place, RustType.render_named, RustType.render_named_short]
    exact ⟨bare, String.append_empty.symm, String.append_empty.symm⟩
  | generic bare ns args =>
    rw [type] at located
    have place : ns = some s.ns := located
    rw [place, RustType.render_generic, RustType.render_generic_short]
    exact ⟨bare, rfl, rfl⟩
  | _ => simp [type, RustType.isNamed] at named

end Symbol

/-! ### Plain symbols -/

namespace BaseSymbols

variable {model : Model} {modules : ModulePaths} {shape : Shape} {s : Symbol} {P : Symbol → Prop}

theorem everywhere_collection {type : RustType} {parts : List Symbol} (root : P (collection type parts)) :
    (collection type parts).Everywhere P ↔ ∀ p ∈ parts, p.Everywhere P := by
  rw [Symbol.everywhere_iff, and_iff_right root, collection_eq]
  simp

/-- What depends on type and namespace alone holds everywhere in the symbol of a member exactly if it
does in that of its target. -/
theorem everywhere_member (container : Option Shape) (shape : Shape) {target : Symbol}
    (located : ∀ r : Symbol, r.Located → P r)
    (same : ∀ r r' : Symbol, r'.type = r.type → r'.ns = r.ns → P r → P r') :
    (member container shape target).Everywhere P ↔ target.Everywhere P := by
  rw [member]
  split
  · rw [Symbol.everywhere_iff, target.everywhere_iff]
    exact and_congr_left fun _ => ⟨same _ _ rfl rfl, same _ _ rfl rfl⟩
  · have root : P (optionalMember shape target) := by
      refine located _ (Symbol.located_of_not_named ?_)
      rw [optionalMember_eq]
      rfl
    rw [Symbol.everywhere_iff, and_iff_right root, optionalMember_eq]
    simp

theorem everywhere_named (located : ∀ r : Symbol, r.Located → P r) (module : String) :
    (named shape module).Everywhere P := by
  rw [Symbol.everywhere_iff]
  exact ⟨located _ (Symbol.located_of_named rfl), List.forall_mem_nil _⟩

/-- **One step of plain resolution adds only located symbols**, besides those of simple types. -/
theorem Built.everywhere (located : ∀ r : Symbol, r.Located → P r)
    (same : ∀ r r' : Symbol, r'.type = r.type → r'.ns = r.ns → P r → P r')
    (h : Built model modules (fun t u => u.Everywhere P ↔
      ∀ type, model.Holds type t → P (BaseSymbols.simple type)) shape s) :
    s.Everywhere P ↔ ∀ type, model.Holds type shape → P (BaseSymbols.simple type) := by
  have collected : ∀ type parts, type.isNamed = false → P (collection type parts) := by
    intro type parts unnamed
    refine located _ (Symbol.located_of_not_named ?_)
    rw [collection_eq]
    exact unnamed
  have alone : shape.partIds = [] → (∀ type, shape.kind ≠ .simple type) →
      ∀ type, model.Holds type shape → P (BaseSymbols.simple type) := by
    intro none other type holds
    obtain ⟨t, part, -⟩ := (Model.holds_iff_of_part (other type)).1 holds
    simp [Model.IsPart, none] at part
  cases h with
  | @simple type kind =>
    have leaf : (BaseSymbols.simple type).Everywhere P ↔ P (BaseSymbols.simple type) := by
      rw [Symbol.everywhere_iff]
      cases type <;> simp [BaseSymbols.simple, document, Symbol.ofType]
    have only : ∀ type', model.Holds type' shape ↔ type' = type := by
      intro type'
      rw [Model.holds_iff]
      simp [Model.IsPart, Shape.partIds, kind, eq_comm]
    simp only [leaf, only, forall_eq]
  | aggregate kind =>
    exact iff_of_true (everywhere_named located _)
      (alone (by simp [Shape.partIds, kind]) (by simp [kind]))
  | operation kind =>
    exact iff_of_true (everywhere_named located _)
      (alone (by simp [Shape.partIds, kind]) (by simp [kind]))
  | service kind =>
    exact iff_of_true (everywhere_named located _)
      (alone (by simp [Shape.partIds, kind]) (by simp [kind]))
  | @list _ item _ kind found resolved =>
    have below : ∀ type, model.Holds type shape ↔ model.Holds type item := by
      intro type
      rw [Model.holds_iff_of_part (by simp [kind])]
      simp [Model.IsPart, Shape.partIds, kind, found]
    rw [BaseSymbols.list, everywhere_collection (collected _ _ rfl), List.forall_mem_singleton,
      resolved]
    simp only [below]
  | @map _ _ key value _ _ kind keyFound keyResolved valueFound valueResolved =>
    have below : ∀ type, model.Holds type shape ↔ model.Holds type key ∨ model.Holds type value := by
      intro type
      rw [Model.holds_iff_of_part (by simp [kind])]
      simp [Model.IsPart, Shape.partIds, kind, keyFound, valueFound, or_and_right, exists_or]
    rw [BaseSymbols.map, everywhere_collection (collected _ _ rfl), List.forall_mem_cons,
      List.forall_mem_singleton, keyResolved, valueResolved]
    simp only [below, or_imp, forall_and]
  | @member _ target _ _ kind found resolved contained =>
    have below : ∀ type, model.Holds type shape ↔ model.Holds type target := by
      intro type
      rw [Model.holds_iff_of_part (by simp [kind])]
      simp [Model.IsPart, Shape.partIds, kind, found]
    rw [everywhere_member _ _ located same, resolved]
    simp only [below]

/-- **What holds of located symbols holds everywhere in a plain symbol exactly if it holds of the simple
types that occur in the shape.** -/
theorem everywhere_of_resolve (located : ∀ r : Symbol, r.Located → P r)
    (same : ∀ r r' : Symbol, r'.type = r.type → r'.ns = r.ns → P r → P r') {depth : Nat}
    (h : resolve model modules depth shape = .ok s) :
    s.Everywhere P ↔ ∀ type, model.Holds type shape → P (simple type) :=
  resolve_induction (fun _ _ => Built.everywhere located same) h

/-- **Timestamps have the one simple type that is not located.** -/
theorem located_simple_iff {type : SimpleType} : (simple type).Located ↔ type ≠ .timestamp := by
  cases type <;> simp [simple, document, Symbol.ofType, Symbol.Located]

end BaseSymbols

/-! ### Event streams -/

theorem RuntimeItem.located_toSymbol (item : RuntimeItem) : item.toSymbol.Located :=
  Symbol.located_of_named rfl

namespace StreamSymbols

variable {stream : StreamSymbols} {modules : ModulePaths} {shape : Shape} {initial s : Symbol}
  {P : Symbol → Prop}

theorem located_channelSymbol (stream : StreamSymbols) (initial : Symbol) (channel : ChannelEnd) :
    (stream.channelSymbol initial channel).Located := by
  rw [channelSymbol_eq]
  exact Symbol.located_of_generic rfl

/-- **A channel end adds only located symbols to those of its events.** -/
theorem everywhere_channelSymbol (located : ∀ r : Symbol, r.Located → P r) (channel : ChannelEnd) :
    (stream.channelSymbol initial channel).Everywhere P ↔ initial.Everywhere P := by
  have error : stream.error.toSymbol.Everywhere P :=
    Symbol.everywhere_iff.2 ⟨located _ stream.error.located_toSymbol, List.forall_mem_nil _⟩
  rw [Symbol.everywhere_iff, and_iff_right (located _ (stream.located_channelSymbol initial channel))]
  constructor
  · intro all
    exact all initial (stream.initial_mem_references initial channel)
  · intro all r hr
    rcases mem_references_channelSymbol.1 hr with hr | rfl | rfl
    · exact (Symbol.everywhere_iff.1 all).2 r hr
    · exact all
    · exact error

/-- The chain gives symbols for which the same holds as for plain ones. -/
theorem everywhere_of_streamProvider (located : ∀ r : Symbol, r.Located → P r)
    (same : ∀ r r' : Symbol, r'.type = r.type → r'.ns = r.ns → P r → P r')
    (h : streamProvider stream modules shape = .ok s) :
    s.Everywhere P ↔ ∀ type, stream.model.Holds type shape → P (BaseSymbols.simple type) := by
  cases plain : baseProvider stream.model modules shape with
  | error e =>
    rw [streamProvider_eq_error_iff.2 plain] at h
    cases h
  | ok initial =>
    rw [← BaseSymbols.everywhere_of_resolve located same plain]
    rw [streamProvider, SymbolProvider.wrap_of_ok plain] at h
    rcases eq_or_channel_of_stage h with rfl | ⟨channel, rfl⟩
    · exact Iff.rfl
    · exact everywhere_channelSymbol located channel

end StreamSymbols

/-! ### All symbols of the standard chain -/

namespace Symbol

/-- The symbol has the type of timestamps, and no namespace. -/
def IsBareTimestamp (s : Symbol) : Prop :=
  s.type = .named "SystemTime" (some "std::time") ∧ s.ns = ""

/-- The type of a bare timestamp has a namespace all the same, so it is not located. -/
theorem IsBareTimestamp.not_located {s : Symbol} (bare : s.IsBareTimestamp) : ¬s.Located := by
  rw [Located, bare.1, bare.2]
  decide

end Symbol

/-- **Resolved symbols are located exactly where no timestamp occurs.**  Of the symbols that a shape is
resolved to, with all that are reached from it, those of timestamps are the only ones whose namespace is
not that of their type.  The others are found where their types are written to be. -/
theorem standardProvider_namespaces (ctx : Context) (shape : Shape) (s : Symbol)
    (resolved : standardProvider ctx .builtin shape = .ok s) :
    ((∀ r ∈ s :: s.transitiveReferences, r.Located) ↔ ¬ctx.model.Holds .timestamp shape) ∧
    ∀ r ∈ s :: s.transitiveReferences,
      (r.Located → r.type.isNamed = true → r.NamesPath) ∧ (¬r.Located ↔ r.IsBareTimestamp) := by
  rw [standardProvider_builtin] at resolved
  constructor
  · have all := StreamSymbols.everywhere_of_streamProvider (P := Symbol.Located) (fun _ h => h)
      (fun r r' type ns h => by rwa [Symbol.Located, type, ns]) resolved
    refine all.trans ⟨fun simple holds => ?_, fun none type holds => ?_⟩
    · exact BaseSymbols.located_simple_iff.1 (simple _ holds) rfl
    · refine BaseSymbols.located_simple_iff.2 ?_
      rintro rfl
      exact none holds
  · intro r hr
    constructor
    · intro located named
      exact located.namesPath named (complete_of_streamProvider resolved r hr).name
    · refine ⟨fun displaced => ?_, Symbol.IsBareTimestamp.not_located⟩
      have all := StreamSymbols.everywhere_of_streamProvider
        (P := fun r => r.Located ∨ r.IsBareTimestamp) (fun _ => .inl)
        (fun r r' type ns h => by rwa [Symbol.Located, Symbol.IsBareTimestamp, type, ns]) resolved
      refine (all.2 (fun type _ => ?_) r hr).resolve_left displaced
      by_cases timestamp : type = .timestamp
      · subst timestamp
        exact .inr ⟨rfl, rfl⟩
      · exact .inl (BaseSymbols.located_simple_iff.2 timestamp)

/-- Free-form data, the list of it, and a channel of such lists, all found where their types say. -/
theorem feedBatches_namespaces :
    ∃ s, standardProvider .feed .builtin .feedBatches = .ok s ∧
      (∀ r ∈ s :: s.transitiveReferences, r.Located) ∧ s.NamesPath := by
  have resolved : ∃ s, standardProvider .feed .builtin .feedBatches = .ok s ∧
      s.type.isNamed = true := by
    rw [standardProvider_builtin]
    exact ⟨_, rfl, rfl⟩
  obtain ⟨s, resolved, named⟩ := resolved
  have spaces := standardProvider_namespaces .feed .feedBatches s resolved
  have none : ¬Context.feed.model.Holds .timestamp .feedBatches :=
    Model.not_holds_of_forall (by decide) (by decide)
  have all := spaces.1.2 none
  exact ⟨s, resolved, all, (spaces.2 s List.mem_cons_self).1 (all s List.mem_cons_self) named⟩

/-- The context of a client for a model of one timestamp. -/
def Context.clock : Context where
  model := ⟨[⟨.ofName "a" "When", .simple .timestamp, .empty⟩], by decide⟩
  service := .ofName "a" "Clock"
  target := .client
  runtime := {}
  modules := {}

/-- No type of this model contains itself, and the timestamp is resolved to a symbol without a namespace,
whose type is written with one. -/
theorem clock_not_located :
    Context.clock.model.Acyclic ∧
    ∃ s, standardProvider .clock .builtin ⟨.ofName "a" "When", .simple .timestamp, .empty⟩ = .ok s ∧
      s.type = .named s.name (some "std::time") ∧ s.ns = "" ∧
      s.type.render true = "std::time::SystemTime" ∧ ¬s.Located ∧ ¬s.NamesPath := by
  refine ⟨Model.acyclic_of_lt (by decide), ?_⟩
  rw [standardProvider_builtin]
  have written := RustType.render_named "SystemTime" "std::time"
  refine ⟨_, rfl, rfl, rfl, written, Symbol.IsBareTimestamp.not_located ⟨rfl, rfl⟩, ?_⟩
  rintro ⟨bare, -, path⟩
  have start := congrArg (·.toList.head?) (written.symm.trans path)
  simp [Symbol.ofType, BaseSymbols.simple] at start

end ServiceShapes
