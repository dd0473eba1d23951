import ServiceShapes.Model.Streams
import ServiceShapes.Proofs.Documents.Listing
import ServiceShapes.Proofs.Traits.Insertion

/-!
# Aggregates in a model

An aggregate goes into a model as a container, which lists names, and member shapes, which are put away
under ids of their own.  A model that was built from these shapes, with any others and in any order, gives
the declarations back (`Aggregate.FoundIn`): the members in order of declaration, each with its target and
traits and leading back to the container, and the first event stream among them.

The way back from a member to its container drops the member part of the id, so the container must not
have one itself.  A name that is declared twice makes two shapes of one id, and there is no such model
(`Aggregate.ofShapes_repeated`).
-/

namespace ServiceShapes

theorem TraitSet.isStreaming_iff {set : TraitSet} :
    set.isStreaming = true ↔ .streaming ∈ set.toList := by
  rw [isStreaming, List.any_eq_true]
  constructor
  · rintro ⟨t, mem, marks⟩
    cases t with
    | streaming => exact mem
    | _ => cases marks
  · intro mem
    exact ⟨.streaming, mem, rfl⟩

/-- Of the traits that are collected, the mark of event streams is kept. -/
theorem TraitSet.isStreaming_collect {ts : List Trait} :
    (collect ts).isStreaming = true ↔ .streaming ∈ ts := by
  have only : ∀ {t : Trait}, t.kind = .streaming ↔ t = .streaming := by
    intro t
    cases t <;> simp [Trait.kind]
  have kept : Trait.ofKind .streaming (empty.insertAll ts).toList =
      (Trait.last? .streaming ts).elim [] ([·]) :=
    ofKind_insertAll empty ts
  have mem_iff : ∀ l : List Trait, .streaming ∈ l ↔ .streaming ∈ Trait.ofKind .streaming l := by
    intro l
    rw [Trait.mem_ofKind]
    exact (and_iff_left rfl).symm
  rw [isStreaming_iff, mem_iff, collect, kept]
  cases last : Trait.last? .streaming ts with
  | none =>
    have absent := Trait.last?_eq_none_iff.1 last
    exact iff_of_false List.not_mem_nil fun mem => absent (List.mem_map.2 ⟨_, mem, rfl⟩)
  | some t =>
    obtain ⟨mem, kind⟩ := Trait.mem_ofKind.1 (List.mem_of_getLast? last)
    obtain rfl := only.1 kind
    exact iff_of_true List.mem_cons_self mem

/-- The declared member is an event stream, by its own mark or by that of its target. -/
def MemberDecl.StreamsIn (d : MemberDecl) (m : Model) : Prop :=
  .streaming ∈ d.traits ∨ ∃ t, m.get? d.target = some t ∧ .streaming ∈ t.traits.toList

namespace Aggregate

variable {a : Aggregate} {d : MemberDecl} {m : Model} {shapes others : List Shape} {s : Shape}

/-- The model gives back what the aggregate declares. -/
structure FoundIn (a : Aggregate) (m : Model) (container : Shape) : Prop where
  found : m.get? a.id = some container
  form : container.kind = .aggregate a.form (a.members.map (·.name))
  traits : container.traits = .collect a.traits
  members : m.members container =
    a.members.map fun d => ⟨a.id.withMember d.name, .member d.target, .collect d.traits⟩
  containers : ∀ s ∈ m.members container, s.container? = some a.id
  /-- The first declared member that is an event stream, if there is one. -/
  eventStream_iff : ∀ s, m.eventStreamMember? container = some s ↔
    ∃ before d after, a.members = before ++ d :: after ∧ d.StreamsIn m ∧
      (∀ e ∈ before, ¬e.StreamsIn m) ∧ s = ⟨a.id.withMember d.name, .member d.target, .collect d.traits⟩

/-! ### Looking up what was declared -/

/-- The shapes of the aggregate are found under their ids. -/
theorem get?_of_mem_shapes (built : Model.ofShapes shapes = .ok m) (all : shapes.Perm (a.shapes ++ others))
    (hs : s ∈ a.shapes) : m.get? s.id = some s := by
  have listed := (Model.ofShapes_eq_ok_iff.1 built).trans all
  exact Model.get?_id (listed.mem_iff.2 (List.mem_append_left others hs))

theorem isEventStream_memberShape : m.isEventStream (a.memberShape d) = true ↔ d.StreamsIn m := by
  show ((TraitSet.collect d.traits).isStreaming ||
    (m.get? d.target).any fun t => t.traits.isStreaming) = true ↔ _
  rw [Bool.or_eq_true, TraitSet.isStreaming_collect, Option.any_eq_true, MemberDecl.StreamsIn]
  simp only [TraitSet.isStreaming_iff]

theorem container?_memberShape (whole : a.id.member = none) (d : MemberDecl) :
    (a.memberShape d).container? = some a.id := by
  obtain ⟨form, ⟨ns, name, member⟩, traits, members⟩ := a
  cases whole
  rfl

/-- **The members are found in order of declaration.** -/
theorem members_containerShape (built : Model.ofShapes shapes = .ok m)
    (all : shapes.Perm (a.shapes ++ others)) :
    m.members a.containerShape = a.members.map a.memberShape := by
  show (a.members.map (·.name)).filterMap (fun name => m.get? (a.id.withMember name)) = _
  rw [List.filterMap_map, ← List.filterMap_eq_map]
  refine List.filterMap_congr fun d hd => ?_
  exact get?_of_mem_shapes built all (List.mem_cons_of_mem _ (List.mem_map_of_mem hd))

theorem foundIn (whole : a.id.member = none) (built : Model.ofShapes shapes = .ok m)
    (all : shapes.Perm (a.shapes ++ others)) : a.FoundIn m a.containerShape where
  found := get?_of_mem_shapes built all List.mem_cons_self
  form := rfl
  traits := rfl
  members := members_containerShape built all
  containers s hs := by
    rw [members_containerShape built all] at hs
    obtain ⟨d, -, rfl⟩ := List.mem_map.1 hs
    exact container?_memberShape whole d
  eventStream_iff s := by
    rw [Model.eventStreamMember?, members_containerShape built all, List.find?_map,
      Option.map_eq_some_iff]
    constructor
    · rintro ⟨d, first, rfl⟩
      obtain ⟨streams, before, after, split, others⟩ := List.find?_eq_some_iff_append.1 first
      refine ⟨before, d, after, split, isEventStream_memberShape.1 streams, ?_, rfl⟩
      intro e he streams
      have silent := others e he
      rw [Function.comp_apply, isEventStream_memberShape.2 streams] at silent
      cases silent
    · rintro ⟨before, d, after, split, streams, others, rfl⟩
      refine ⟨d, List.find?_eq_some_iff_append.2 ?_, rfl⟩
      refine ⟨isEventStream_memberShape.2 streams, before, after, split, ?_⟩
      intro e he
      rw [Bool.not_eq_true', Function.comp_apply, Bool.eq_false_iff]
      exact fun streams => others e he (isEventStream_memberShape.1 streams)

/-! ### Names that are declared twice -/

/-- **A name that is declared twice is reported as a repeated id.** -/
theorem ofShapes_repeated (all : shapes.Perm (a.shapes ++ others))
    (repeated : ¬(a.members.map (·.name)).Nodup) :
    ∃ id, Model.FirstRepetition shapes id ∧ Model.ofShapes shapes = .error (.duplicateShape id) := by
  have clash : ¬(shapes.map (·.id)).Nodup := by
    intro distinct
    have own : (a.members.map fun d => a.id.withMember d.name).Nodup := by
      rw [(all.map Shape.id).nodup_iff, List.map_append, List.nodup_append] at distinct
      have members := (List.nodup_cons.1 distinct.1).2
      rwa [List.map_map] at members
    exact repeated (List.Nodup.of_map a.id.withMember (by rwa [List.map_map]))
  cases built : Model.ofShapes shapes with
  | ok m => exact absurd (Model.exists_ofShapes_eq_ok_iff.1 ⟨m, built⟩) clash
  | error e =>
    obtain ⟨id, first, rfl⟩ := ((Model.builtFaithfully_ofShapes shapes).error_iff e).1 built
    exact ⟨id, first, rfl⟩

/-- **What an aggregate declares is what a model that holds it gives back**, whatever else the model is
made of; and there is no such model if a name is declared twice.  Both come from building being faithful:
the model finds each shape of the list under its id, and the members of an aggregate have one id for each
name (`foundIn`, `ofShapes_repeated`). -/
theorem given_back_or_repeated (whole : a.id.member = none) (all : shapes.Perm (a.shapes ++ others)) :
    (∀ m, Model.ofShapes shapes = .ok m → ∃ container, a.FoundIn m container) ∧
      (¬(a.members.map (·.name)).Nodup → ∃ id, Model.FirstRepetition shapes id ∧
        Model.ofShapes shapes = .error (.duplicateShape id)) :=
  ⟨fun _ built => ⟨a.containerShape, foundIn whole built all⟩, ofShapes_repeated all⟩

/-- A structure of which the second member is an event stream by its target and the third by itself. -/
def chat : Aggregate where
  form := .record
  id := .ofName "a" "Chat"
  traits := [.documentation "first", .documentation "last"]
  members :=
    [⟨"room", .ofName "a" "Text", [.required]⟩, ⟨"events", .ofName "a" "Events", []⟩,
     ⟨"notes", .ofName "a" "Text", [.streaming]⟩]

/-- The shapes that the members of `chat` have as targets. -/
def chatTargets : List Shape :=
  [⟨.ofName "a" "Text", .simple .string, .empty⟩,
   ⟨.ofName "a" "Events", .aggregate .union [], ⟨[.streaming]⟩⟩]

/-- The same structure with a second room. -/
def crowdedChat : Aggregate :=
  { chat with members := chat.members ++ [⟨"room", .ofName "a" "Events", []⟩] }

/-- With the targets in front, `chat` is found with its events; with two rooms there is no model. -/
theorem chat_given_back :
    chat.id.member = none ∧ (chatTargets ++ chat.shapes).Perm (chat.shapes ++ chatTargets) ∧
      (∃ m container, Model.ofShapes (chatTargets ++ chat.shapes) = .ok m ∧ chat.FoundIn m container ∧
        (m.eventStreamMember? container).map (·.id.member) = some (some "events")) ∧
      ∃ id, Model.FirstRepetition crowdedChat.shapes id ∧
        Model.ofShapes crowdedChat.shapes = .error (.duplicateShape id) := by
  have order : (chatTargets ++ chat.shapes).Perm (chat.shapes ++ chatTargets) := List.perm_append_comm
  have built : ∃ m, Model.ofShapes (chatTargets ++ chat.shapes) = .ok m :=
    Model.exists_ofShapes_eq_ok_iff.2 (by decide)
  obtain ⟨m, built⟩ := built
  obtain ⟨container, found⟩ := (given_back_or_repeated rfl order).1 m built
  have targets : m.get? (.ofName "a" "Events") =
      some ⟨.ofName "a" "Events", .aggregate .union [], ⟨[.streaming]⟩⟩ :=
    ((Model.builtFaithfully_ofShapes _).represents m built).found_iff _ _ |>.2 ⟨by decide, rfl⟩
  have texts : m.get? (.ofName "a" "Text") = some ⟨.ofName "a" "Text", .simple .string, .empty⟩ :=
    ((Model.builtFaithfully_ofShapes _).represents m built).found_iff _ _ |>.2 ⟨by decide, rfl⟩
  have first := (found.eventStream_iff _).2 ⟨[⟨"room", .ofName "a" "Text", [.required]⟩], _, _, rfl,
    .inr ⟨_, targets, by decide⟩, by simp [MemberDecl.StreamsIn, texts, TraitSet.empty], rfl⟩
  refine ⟨rfl, order, ⟨m, container, built, found, by rw [first]; rfl⟩, ?_⟩
  have alone : crowdedChat.shapes.Perm (crowdedChat.shapes ++ []) := by rw [List.append_nil]
  exact (given_back_or_repeated rfl alone).2 (by decide)

end Aggregate

end ServiceShapes
