import ServiceShapes.Proofs.Resolution.Streams
import ServiceShapes.Proofs.Symbols.Complete

/-!
# Resolved symbols are complete

Every symbol that shapes are resolved to is complete: what has to be imported for its type is found
along its references.  Plain resolution builds complete symbols from complete ones at each step
(`BaseSymbols.Built.complete`), and so does the event stream stage, whatever complete symbol it
starts from (`StreamSymbols.complete_of_stage`).
-/

namespace ServiceShapes

/-! ### Plain symbols -/

namespace BaseSymbols

variable {model : Model} {modules : ModulePaths}

theorem complete_simple (type : SimpleType) : (simple type).Complete := by
  cases type <;>
    exact Symbol.complete_of_no_references rfl rfl (by decide) (by decide)

theorem complete_named (shape : Shape) (module : String) : (named shape module).Complete := by
  refine Symbol.complete_of_no_references rfl rfl List.nodup_nil ?_
  simp [named, Symbol.ofType, RustType.namedTypes]

/-- **A collection of complete symbols is complete**, if its type has no named types but theirs. -/
theorem complete_collection {type : RustType} {parts : List Symbol}
    (complete : ∀ p ∈ parts, p.Complete)
    (named : ∀ u ∈ type.namedTypes, ∃ p ∈ parts, u ∈ p.type.namedTypes) :
    (collection type parts).Complete := by
  rw [collection_eq]
  refine Symbol.complete_of_references rfl (nodup_foldl_addNew List.nodup_nil _)
    (nodup_foldl_addNew List.nodup_nil _) ?_ ?_
  · simpa using complete
  · intro u hu
    obtain ⟨p, hp, hu⟩ := named u hu
    exact .inr ⟨p, by simpa using hp, hu⟩

theorem complete_list {item : Symbol} (h : item.Complete) : (list item).Complete := by
  exact complete_collection (by simpa using h) fun u hu => ⟨item, List.mem_cons_self, hu⟩

theorem complete_map {key value : Symbol} (hkey : key.Complete) (hvalue : value.Complete) :
    (map key value).Complete := by
  refine complete_collection (by simp [hkey, hvalue]) fun u hu => ?_
  rw [RustType.namedTypes, List.mem_append] at hu
  rcases hu with hu | hu
  · exact ⟨key, by simp, hu⟩
  · exact ⟨value, by simp, hu⟩

theorem complete_member (container : Option Shape) (shape : Shape) {target : Symbol}
    (h : target.Complete) : (member container shape target).Complete := by
  rw [member]
  split
  · exact h.of_same rfl rfl rfl rfl
  · rw [optionalMember_eq]
    refine Symbol.complete_of_references rfl (List.nodup_singleton _)
      (nodup_foldl_addNew List.nodup_nil _) (by simpa using h) fun u hu => ?_
    exact .inr ⟨target, List.mem_cons_self, hu⟩

/-- **One step of plain resolution keeps symbols complete.** -/
theorem Built.complete {shape : Shape} {s : Symbol}
    (h : Built model modules (fun _ u => u.Complete) shape s) : s.Complete := by
  cases h with
  | simple kind => exact complete_simple _
  | aggregate kind => exact complete_named _ _
  | operation kind => exact complete_named _ _
  | service kind => exact complete_named _ _
  | list kind found resolved => exact complete_list resolved
  | map kind keyFound keyResolved valueFound valueResolved =>
    exact complete_map keyResolved valueResolved
  | member kind found resolved contained => exact complete_member _ _ resolved

theorem complete_of_resolve {depth : Nat} {shape : Shape} {s : Symbol}
    (h : resolve model modules depth shape = .ok s) : s.Complete :=
  resolve_induction (fun _ _ => Built.complete) h

end BaseSymbols

/-! ### Event streams -/

theorem RuntimeItem.complete_toSymbol (item : RuntimeItem) : item.toSymbol.Complete := by
  refine Symbol.complete_of_no_references rfl rfl ?_ ?_
  · rw [toSymbol]
    cases item.dependency <;> simp
  · simp [toSymbol, type, Symbol.ofType, RustType.namedTypes]

namespace StreamSymbols

variable {s : StreamSymbols} {initial u : Symbol} {shape : Shape}

/-- The named types in the type of a channel are that type, those of the events, and the error. -/
theorem mem_namedTypes_channelType {event t : RustType} {channel : ChannelEnd}
    (h : t ∈ (s.channelType event channel).namedTypes) :
    t = s.channelType event channel ∨ t ∈ event.namedTypes ∨ t = s.error.type := by
  cases channel with
  | sender =>
    simp only [channelType, channelArgs, RustType.namedTypes, RustType.namedTypesOfArgs,
      List.append_nil, List.mem_cons] at h
    exact h.imp_right .inl
  | receiver =>
    simpa [channelType, channelArgs, RustType.namedTypes, RustType.namedTypesOfArgs,
      RuntimeItem.type] using h

/-- **A channel of a complete symbol is complete.** -/
theorem complete_channelSymbol (h : initial.Complete) (channel : ChannelEnd) :
    (s.channelSymbol initial channel).Complete := by
  have accurate := h.accurate
  refine Symbol.complete_of_references ?_ ?_ ?_ ?_ ?_
  · rw [channelSymbol_eq]
  · rw [channelSymbol_eq]
    exact nodup_addNew (nodup_addNew accurate.references _) _
  · rw [channelSymbol_eq]
    exact nodup_addNew accurate.dependencies _
  · intro r hr
    rcases mem_references_channelSymbol.1 hr with hr | rfl | rfl
    · exact h.of_mem_references hr
    · exact h
    · exact s.error.complete_toSymbol
  · intro t ht
    have type : (s.channelSymbol initial channel).type =
        s.channelType initial.type.stripOption channel := by rw [channelSymbol_eq]
    rw [type] at ht ⊢
    rcases mem_namedTypes_channelType ht with rfl | ht | rfl
    · exact .inl rfl
    · rw [RustType.namedTypes_stripOption] at ht
      exact .inr ⟨initial, s.initial_mem_references initial channel, ht⟩
    · exact .inr ⟨s.error.toSymbol, s.error_mem_references initial channel, List.mem_cons_self⟩

/-- The stage leaves the symbol or makes a channel end of it. -/
theorem eq_or_channel_of_stage (h : s.stage shape initial = .ok u) :
    u = initial ∨ ∃ channel, u = s.channelSymbol initial channel := by
  obtain ⟨channel?, -, made⟩ := Except.bind_eq_ok_iff.1 h
  cases channel? with
  | none =>
    cases made
    exact .inl rfl
  | some channel =>
    cases made
    exact .inr ⟨channel, rfl⟩

/-- The stage keeps symbols complete, and refers to what it has changed. -/
theorem complete_of_stage (complete : initial.Complete) (h : s.stage shape initial = .ok u) :
    u.Complete ∧ (u ≠ initial → initial ∈ u.references ∧ s.error.toSymbol ∈ u.references) := by
  rcases eq_or_channel_of_stage h with rfl | ⟨channel, rfl⟩
  · exact ⟨complete, fun changed => absurd rfl changed⟩
  · refine ⟨complete_channelSymbol complete channel, fun _ => ⟨?_, ?_⟩⟩
    · exact s.initial_mem_references initial channel
    · exact s.error_mem_references initial channel

end StreamSymbols

theorem complete_of_streamProvider {stream : StreamSymbols} {modules : ModulePaths} {shape : Shape}
    {s : Symbol} (h : streamProvider stream modules shape = .ok s) : s.Complete := by
  rw [streamProvider] at h
  cases plain : baseProvider stream.model modules shape with
  | error e =>
    rw [SymbolProvider.wrap_of_error plain] at h
    cases h
  | ok initial =>
    rw [SymbolProvider.wrap_of_ok plain] at h
    exact (StreamSymbols.complete_of_stage (BaseSymbols.complete_of_resolve plain) h).1

/-- **Every symbol that a shape is resolved to is complete**, and the event stream stage keeps any
symbol complete.  Where it changes a symbol, the new one refers to the old one and to the error.  Plain
resolution keeps symbols complete step by step, and the stage adds to the references what it adds to
the type. -/
theorem streamProvider_complete :
    (∀ model target runtime error modules shape s,
      streamProvider ((StreamSymbols.ofRuntime model target runtime).withErrorType error) modules
        shape = .ok s → s.Complete) ∧
    ∀ (stream : StreamSymbols) shape initial s, initial.Complete →
      stream.stage shape initial = .ok s → s.Complete ∧
        (s ≠ initial → initial ∈ s.references ∧ stream.error.toSymbol ∈ s.references) := by
  constructor
  · intro model target runtime error modules shape s resolved
    exact complete_of_streamProvider resolved
  · intro stream shape initial s complete made
    exact StreamSymbols.complete_of_stage complete made

/-- A server receives the events of this member, and all it needs is found along the references; so
it is after a second stage, which sends what the first receives. -/
theorem talkEvents_complete :
    ∃ s, streamProvider ((StreamSymbols.ofRuntime .talk .server {}).withErrorType .talkError) {}
        .talkEvents = .ok s ∧ s.Complete ∧
      ∃ t, (StreamSymbols.ofRuntime .talk .client {}).stage .talkEvents s = .ok t ∧ t ≠ s ∧
        t.Complete ∧ s ∈ t.references ∧
        (RuntimeItem.messageStreamError {}).toSymbol ∈ t.references := by
  have resolved : ∃ s, streamProvider ((StreamSymbols.ofRuntime .talk .server {}).withErrorType
      .talkError) {} .talkEvents = .ok s := ⟨_, rfl⟩
  obtain ⟨s, resolved⟩ := resolved
  have complete := streamProvider_complete.1 _ _ _ _ _ _ _ resolved
  have again : (StreamSymbols.ofRuntime .talk .client {}).stage .talkEvents s =
      .ok ((StreamSymbols.ofRuntime .talk .client {}).channelSymbol s .sender) := rfl
  have changed := StreamSymbols.channelSymbol_ne (.ofRuntime .talk .client {}) s .sender
  have kept := streamProvider_complete.2 _ _ _ _ complete again
  exact ⟨s, resolved, complete, _, again, changed, kept.1, kept.2 changed⟩

end ServiceShapes
