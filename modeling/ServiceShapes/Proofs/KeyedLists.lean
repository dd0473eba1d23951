import Mathlib.Data.List.Nodup
import Mathlib.Data.List.Perm.Basic

/-!
# Lists with keys

In a list in which no key occurs twice, a key stands for one entry: looking it up finds this entry,
dropping the key takes out nothing else, and keeping only the key leaves nothing else.
-/

namespace List

variable {κ α : Type} {l : List (κ × α)} {k : κ} {a : α}

/-- What is found is there. -/
theorem mem_of_lookup [BEq κ] [LawfulBEq κ] (found : l.lookup k = some a) : (k, a) ∈ l := by
  obtain ⟨before, after, rfl, -⟩ := lookup_eq_some_iff.1 found
  exact mem_append_right _ mem_cons_self

theorem isSome_lookup_iff [BEq κ] [LawfulBEq κ] : (l.lookup k).isSome ↔ k ∈ l.map Prod.fst := by
  simp only [lookup_isSome_iff, mem_map, beq_iff_eq]
  exact exists_congr fun entry => and_congr_right fun _ => eq_comm

/-- An entry is found if no other one has its key, whatever other keys come twice. -/
theorem lookup_of_pairwise [BEq κ] [LawfulBEq κ] (once : l.Pairwise fun e f => e.1 = k → e.1 ≠ f.1)
    (mem : (k, a) ∈ l) : l.lookup k = some a := by
  obtain ⟨before, after, rfl⟩ := append_of_mem mem
  refine lookup_eq_some_iff.2 ⟨before, after, rfl, fun other inside => ?_⟩
  rw [bne_iff_ne]
  rintro rfl
  -- an entry before it that has the same key would repeat that key
  exact (pairwise_append.1 once).2.2 other inside _ mem_cons_self rfl rfl

/-- **An entry that is there is the one that is found.** -/
theorem lookup_eq_some_iff_mem [BEq κ] [LawfulBEq κ] (keys : (l.map Prod.fst).Nodup) :
    l.lookup k = some a ↔ (k, a) ∈ l := by
  refine ⟨mem_of_lookup, lookup_of_pairwise ((pairwise_map.1 keys).imp ?_)⟩
  intro e f differ _
  exact differ

/-- Leaving out the entries of some keys, the others are found as before. -/
theorem lookup_filter_key [BEq κ] [LawfulBEq κ] (keep : κ → Bool) :
    (l.filter fun entry => keep entry.1).lookup k = if keep k then l.lookup k else none := by
  induction l with
  | nil => rw [filter_nil, lookup_nil, ite_self]
  | cons head l ih =>
    rw [filter_cons, lookup_cons]
    cases found : k == head.1 with
    | true =>
      -- the head is dropped with its key
      obtain rfl := eq_of_beq found
      cases stays : keep head.1 with
      | true => rw [if_pos rfl, if_pos rfl, lookup_cons, beq_self_eq_true]
      | false => simpa [stays] using ih
    | false =>
      rw [← ih]
      split
      · rw [lookup_cons, found]
      · rfl

/-- Changing values, each as its key says. -/
theorem lookup_map_values [BEq κ] [LawfulBEq κ] (change : κ → α → α) :
    (l.map fun entry => (entry.1, change entry.1 entry.2)).lookup k =
      (l.lookup k).map (change k) := by
  induction l with
  | nil => rfl
  | cons head l ih =>
    rw [map_cons, lookup_cons, lookup_cons, ih]
    cases found : k == head.1 with
    | true => rw [eq_of_beq found, Option.map_some]
    | false => rfl

/-- Taking out the only entry of a key. -/
theorem perm_cons_filter_key [DecidableEq κ] (keys : (l.map Prod.fst).Nodup) (mem : (k, a) ∈ l) :
    l ~ (k, a) :: l.filter (·.1 ≠ k) := by
  induction l with
  | nil => exact absurd mem not_mem_nil
  | cons head l ih =>
    rw [map_cons, nodup_cons] at keys
    rcases mem_cons.1 mem with rfl | mem
    · have others : l.filter (·.1 ≠ k) = l := by
        rw [filter_eq_self]
        intro other inside
        have differs : other.1 ≠ k := fun same => keys.1 (mem_map.2 ⟨other, inside, same⟩)
        exact decide_eq_true differs
      rw [filter_cons_of_neg (by simp), others]
    · have differs : head.1 ≠ k := fun same => keys.1 (mem_map.2 ⟨(k, a), mem, same.symm⟩)
      rw [filter_cons_of_pos (by simpa using differs)]
      exact ((ih keys.2 mem).cons head).trans (.swap (k, a) head _)

/-- The only entry of a key, in a list of entries of any form. -/
theorem filter_key_eq_singleton [DecidableEq κ] {entries : List α} {key : α → κ}
    (keys : (entries.map key).Nodup) (mem : a ∈ entries) :
    entries.filter (key · = key a) = [a] := by
  induction entries with
  | nil => exact absurd mem not_mem_nil
  | cons head entries ih =>
    obtain ⟨new, keys⟩ := nodup_cons.1 keys
    rcases mem_cons.1 mem with rfl | mem
    · have others : entries.filter (key · = key a) = [] := by
        rw [filter_eq_nil_iff]
        intro other inside same
        exact new (mem_map.2 ⟨other, inside, of_decide_eq_true same⟩)
      rw [filter_cons_of_pos (by simp), others]
    · have differs : key head ≠ key a := fun same => new (mem_map.2 ⟨a, mem, same.symm⟩)
      rw [filter_cons_of_neg (by simpa using differs), ih keys mem]

end List
