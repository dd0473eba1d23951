import ServiceShapes.Model.Document
import ServiceShapes.Proofs.Normalization.Lookup
import ServiceShapes.Proofs.Traits.Insertion

/-!
# Where trait sets come from

A trait set comes about by inserting, by collecting a list, by being loaded as a list, or by being copied
when a model is normalized (`TraitSet.Obtained`).  A set with one trait of each kind has one possible
answer for each accessor (`TraitSet.KindsOnce.first?_eq`), and collecting its list gives the set back.

Inserting and collecting lead to such sets, and copying inserts.  Loading takes a list as it stands.  So
all sets are of this form exactly if those are that are loaded (`TraitSet.kindsOnce_iff_loaded`), and a kind
that was loaded twice is there twice until a trait of this kind is inserted
(`TraitSet.kindsOnce_insertAll_iff`).
-/

namespace ServiceShapes

namespace TraitSet

variable {set : TraitSet}

/-- No two traits of the set are of one kind. -/
def KindsOnce (set : TraitSet) : Prop := (set.toList.map Trait.kind).Nodup

instance (set : TraitSet) : Decidable set.KindsOnce :=
  inferInstanceAs (Decidable (List.Nodup _))

/-- The sets that come about when lists are loaded only if they are `admitted`. -/
inductive Obtained (admitted : TraitSet → Prop) : TraitSet → Prop
  | empty : Obtained admitted .empty
  | insert {old : TraitSet} (before : Obtained admitted old) (t : Trait) :
      Obtained admitted (old.insert t)
  | collect (ts : List Trait) : Obtained admitted (.collect ts)
  | load {value : Json} {loaded : TraitSet} (read : ofJson value = .ok loaded)
      (allowed : admitted loaded) : Obtained admitted loaded
  | normalize {m m' : Model} {s : Shape} (before : ∀ t ∈ m.shapes, Obtained admitted t.traits)
      (normal : m.normalize = .ok m') (mem : s ∈ m'.shapes) : Obtained admitted s.traits

/-! ### One trait of each kind -/

theorem kindsOnce_iff : set.KindsOnce ↔ ∀ kind, (Trait.ofKind kind set.toList).length ≤ 1 := by
  rw [KindsOnce, List.nodup_iff_count_le_one]
  refine forall_congr' fun kind => ?_
  rw [List.count, List.countP_map, List.countP_eq_length_filter, Trait.ofKind]
  rfl

theorem KindsOnce.ofKind_eq (once : set.KindsOnce) (kind : TraitKind) :
    Trait.ofKind kind set.toList = (Trait.first? kind set.toList).toList := by
  have short := kindsOnce_iff.1 once kind
  unfold Trait.first?
  generalize Trait.ofKind kind set.toList = ts at short
  match ts with
  | [] | [_] => rfl
  | _ :: _ :: _ => simp at short

/-- **Each trait is the answer for its kind.** -/
theorem KindsOnce.first?_eq (once : set.KindsOnce) {t : Trait} (ht : t ∈ set.toList) :
    Trait.first? t.kind set.toList = some t := by
  have mem : t ∈ Trait.ofKind t.kind set.toList := Trait.mem_ofKind.2 ⟨ht, rfl⟩
  rwa [once.ofKind_eq, Option.mem_toList] at mem

/-- **A repeated kind stays repeated until a trait of this kind is inserted.** -/
theorem kindsOnce_insertAll_iff {ts : List Trait} : (set.insertAll ts).KindsOnce ↔
    ∀ kind ∉ ts.map Trait.kind, (Trait.ofKind kind set.toList).length ≤ 1 := by
  rw [kindsOnce_iff]
  refine forall_congr' fun kind => ?_
  rw [ofKind_insertAll, ← Trait.last?_eq_none_iff]
  cases Trait.last? kind ts <;> simp

theorem KindsOnce.insert (once : set.KindsOnce) (t : Trait) : (set.insert t).KindsOnce := by
  have one : (set.insertAll [t]).KindsOnce :=
    kindsOnce_insertAll_iff.2 fun kind _ => kindsOnce_iff.1 once kind
  exact one

theorem kindsOnce_collect (ts : List Trait) : (collect ts).KindsOnce :=
  kindsOnce_insertAll_iff.2 fun _ _ => Nat.zero_le 1

/-- **Collecting answers as the list itself does**, where no kind is repeated. -/
theorem KindsOnce.answers_collect (once : set.KindsOnce) :
    (collect set.toList).answers = set.answers := by
  have same : ∀ kind, Trait.first? kind (collect set.toList).toList = Trait.first? kind set.toList := by
    intro kind
    rw [Trait.first?, collect, ofKind_insertAll, Trait.last?, once.ofKind_eq]
    cases Trait.first? kind set.toList <;> rfl
  rw [answers_eq, answers_eq]
  simp only [same]

/-! ### Normalization -/

/-- The traits in a normalized model are traits of the original, or those with one more inserted; a
structure for a side that names nothing starts from none. -/
theorem exists_of_mem_normalize {m m' : Model} {s : Shape} (normal : m.normalize = .ok m')
    (mem : s ∈ m'.shapes) : ∃ old : TraitSet, (old = .empty ∨ ∃ t ∈ m.shapes, old = t.traits) ∧
      (s.traits = old ∨ ∃ link, s.traits = old.insert link) := by
  obtain ⟨o, ho, outcome⟩ := (Model.mem_normalize_iff normal).1 mem
  rcases Model.mem_shapeOutcome.1 outcome with rfl | ⟨side, made⟩
  · exact ⟨o.traits, .inr ⟨o, ho, rfl⟩, .inl (m.normalizedShape_traits o)⟩
  · obtain ⟨operates, notLinked⟩ := Model.not_linked_of_mem_madeFor made
    rw [Model.madeFor_of_not_linked operates notLinked] at made
    rcases List.mem_cons.1 made with rfl | member
    · cases present : m.sideShape? o side with
      | none => exact ⟨.empty, .inl rfl, .inr ⟨side.link o.id, by rw [Model.sideContainer, present]; rfl⟩⟩
      | some t =>
        obtain ⟨id, -, found⟩ := Option.bind_eq_some_iff.1 present
        refine ⟨t.traits, .inr ⟨t, Model.mem_of_get? found, rfl⟩, .inr ⟨side.link o.id, ?_⟩⟩
        rw [Model.sideContainer, present]
        rfl
    · obtain ⟨t, original, rfl⟩ := List.mem_map.1 member
      obtain ⟨container, -, ht⟩ := Model.exists_container_of_mem_sideOriginals original
      exact ⟨t.traits, .inr ⟨t, Model.mem_of_mem_members ht, rfl⟩, .inl rfl⟩

/-! ### All ways -/

/-- **Where only lists with one trait of each kind are loaded, there are no other sets.** -/
theorem Obtained.kindsOnce {admitted : TraitSet → Prop}
    (loads : ∀ value set, ofJson value = .ok set → admitted set → set.KindsOnce)
    (h : Obtained admitted set) : set.KindsOnce := by
  induction h with
  | empty => exact List.nodup_nil
  | insert before t ih => exact ih.insert t
  | collect ts => exact kindsOnce_collect ts
  | load read allowed => exact loads _ _ read allowed
  | normalize before normal mem ih =>
    obtain ⟨old, origin, copied⟩ := exists_of_mem_normalize normal mem
    have once : old.KindsOnce := by
      rcases origin with rfl | ⟨t, ht, rfl⟩
      · exact List.nodup_nil
      · exact ih t ht
    rcases copied with same | ⟨link, inserted⟩
    · rwa [same]
    · rw [inserted]
      exact once.insert link

/-- **Trait sets have one trait of each kind exactly if those do that are loaded.**  Then each trait is
the only answer for its kind, and a loaded list answers as it does when it is collected.  In general, a
kind that is repeated stays so until a trait of this kind is inserted. -/
theorem kindsOnce_iff_loaded (admitted : TraitSet → Prop) :
    ((∀ set, Obtained admitted set →
        set.KindsOnce ∧ ∀ t ∈ set.toList, Trait.first? t.kind set.toList = some t) ∧
      (∀ value set, ofJson value = .ok set → admitted set →
        (collect set.toList).answers = set.answers) ↔
      ∀ value set, ofJson value = .ok set → admitted set → set.KindsOnce) ∧
    ∀ (set : TraitSet) (ts : List Trait), (set.insertAll ts).KindsOnce ↔
      ∀ kind ∉ ts.map Trait.kind, (Trait.ofKind kind set.toList).length ≤ 1 := by
  refine ⟨⟨fun all value set read allowed => ?_, fun loads => ⟨fun set obtained => ?_, ?_⟩⟩, ?_⟩
  · exact (all.1 set (.load read allowed)).1
  · have once := obtained.kindsOnce loads
    exact ⟨once, fun t ht => once.first?_eq ht⟩
  · intro value set read allowed
    exact (loads value set read allowed).answers_collect
  · exact fun set ts => kindsOnce_insertAll_iff

/-- An operation and a structure with a text. -/
def noting : Model where
  shapes :=
    [⟨.ofName "a" "Keep", .operation (some (.ofName "a" "Note")) none [], .empty⟩,
     ⟨.ofName "a" "Note", .aggregate .record [], ⟨[.documentation "A note."]⟩⟩]
  sorted := by decide

/-- Where the lists in this model are loaded, its traits and those of the input that normalization
makes are obtained from lists without repeated kinds; the input has the text and a link. -/
theorem kindsOnce_noting : ∃ m' s, noting.normalize = .ok m' ∧ s ∈ m'.shapes ∧
    s.traits.toList = [.documentation "A note.", .syntheticInput (.ofName "a" "Keep")] ∧
    Obtained KindsOnce s.traits ∧ s.traits.KindsOnce ∧
    ∀ t ∈ s.traits.toList, Trait.first? t.kind s.traits.toList = some t := by
  have normal : ∃ m' s, noting.normalize = .ok m' ∧ s ∈ m'.shapes ∧
      s.traits.toList = [.documentation "A note.", .syntheticInput (.ofName "a" "Keep")] :=
    ⟨_, ⟨.ofName "a.synthetic" "KeepInput", .aggregate .record [],
      ⟨[.documentation "A note.", .syntheticInput (.ofName "a" "Keep")]⟩⟩, rfl, by decide, rfl⟩
  obtain ⟨m', s, normal, mem, traits⟩ := normal
  have loaded : ∀ t ∈ noting.shapes, Obtained KindsOnce t.traits := by
    intro t ht
    have read : ofJson (.array (t.traits.toList.map Trait.toJson)) = .ok t.traits := by
      revert t
      decide
    have once : t.traits.KindsOnce := by
      revert t
      decide
    exact .load read once
  have obtained : Obtained KindsOnce s.traits := .normalize loaded normal mem
  have all := ((kindsOnce_iff_loaded KindsOnce).1.2 fun _ _ _ once => once).1 _ obtained
  exact ⟨m', s, normal, mem, traits, obtained, all.1, all.2⟩

/-- A list with two texts. -/
def twoTexts : Json :=
  .array [(Trait.documentation "first").toJson, (Trait.documentation "second").toJson]

/-- **Loading keeps both texts of a list with two**: the first one is the answer, while collecting the
list answers with the second. -/
theorem twoTexts_not_kindsOnce : ∃ set, ofJson twoTexts = .ok set ∧
    Obtained (fun _ => True) set ∧ ¬set.KindsOnce ∧ set.documentation? = some "first" ∧
    (collect set.toList).documentation? = some "second" := by
  have read : ofJson twoTexts = .ok ⟨[.documentation "first", .documentation "second"]⟩ := rfl
  exact ⟨_, read, .load read trivial, by decide, rfl, rfl⟩

end TraitSet

end ServiceShapes
