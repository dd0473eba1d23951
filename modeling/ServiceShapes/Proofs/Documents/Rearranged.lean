import ServiceShapes.Proofs.Documents.Records

/-!
# Rearranged records

A record is rearranged when its fields are put in another order, and further fields between them under
names that no one asks for (`Fields.Rearranged`).  The values of its own fields may change along a relation,
so that what they hold can be rearranged in turn.

Reading does not see it.  What passes the checks of a schema still does (`Fields.Rearranged.checkFields`),
and what is found under a name that is used is what was found before, up to the relation
(`Fields.Rearranged.lookup`).  The second needs that the name was there once, since the first of two fields
may have become the last; this is what the checks have made sure of (`once_of_checkFields`).
-/

namespace ServiceShapes

variable {α β : Type} {schema : Schema α} {fields fields' : Fields α} {decode : α → Decoded β}
  {name : String} {value : α} {x : β}

/-! ### Names that come once -/

/-- Leaving out other fields does not change what is found. -/
theorem lookup_withoutFields {names : List String} (other : name ∉ names) :
    (withoutFields names fields).lookup name = fields.lookup name :=
  (List.lookup_filter_key (· ∉ names)).trans (if_pos (decide_eq_true other))

/-- Any field of this name is the one that is found. -/
def Fields.Once (name : String) (fields : Fields α) : Prop :=
  ∀ value, (name, value) ∈ fields → fields.lookup name = some value

/-- **Known names come once in a record that passes.** -/
theorem once_of_checkFields (passes : checkFields schema fields = .ok ())
    (known : name ∈ schema.map (·.1)) : fields.Once name := by
  intro value mem
  have apart := (checkFields_eq_ok_iff.1 passes).2
  refine List.lookup_of_pairwise (apart.imp fun differ same => differ ?_) mem
  rw [same]
  exact List.isSome_lookup_iff.2 known

/-- A record passes exactly when its known fields do and no known name comes twice. -/
theorem checkFields_eq_ok_iff_nodup : checkFields schema fields = .ok () ↔
    (∀ f ∈ fields, ∀ check, schema.lookup f.1 = some check → check f.2 = .ok ()) ∧
    ((fields.map (·.1)).filter fun name => (schema.lookup name).isSome).Nodup := by
  rw [checkFields_eq_ok_iff, List.Nodup, List.pairwise_filter, List.pairwise_map]
  refine and_congr_right fun _ => ⟨fun apart => ?_, fun apart => ?_⟩
  · exact apart.imp fun differ known _ => differ known
  · refine apart.imp fun {f g} differ known same => ?_
    exact differ known (same ▸ known) same

/-! ### Rearranging -/

/-- The second record has the fields of the first, in any order and with values that are related to the old
ones, and further fields with values that are allowed, under names that are not used. -/
def Fields.Rearranged (used : List String) (allowed : α → Prop) (Same : String → α → α → Prop)
    (fields fields' : Fields α) : Prop :=
  ∃ kept added, fields'.Perm (kept ++ added) ∧
    List.Forall₂ (fun f g => f.1 = g.1 ∧ Same f.1 f.2 g.2) fields kept ∧
    ∀ f ∈ added, f.1 ∉ used ∧ allowed f.2

/-- Related values are read as the same. -/
def Preserves (Same : α → α → Prop) (decode : α → Decoded β) : Prop :=
  ∀ value value' x, Same value value' → decode value = .ok x → decode value' = .ok x

theorem preserves_of_eq {Same : α → α → Prop} (eq : ∀ value value', Same value value' → value = value')
    (decode : α → Decoded β) : Preserves Same decode := by
  intro value value' x same read
  rwa [← eq value value' same]

theorem preserves_eq (decode : α → Decoded β) : Preserves Eq decode :=
  preserves_of_eq (fun _ _ same => same) decode

theorem Preserves.accepts {Same : α → α → Prop} (preserves : Preserves Same decode) :
    Preserves Same (accepts decode) := by
  intro value value' _ same passes
  obtain ⟨x, read⟩ := accepts_eq_ok_iff.1 passes
  exact accepts_eq_ok_iff.2 ⟨x, preserves value value' x same read⟩

namespace Fields.Rearranged

variable {used : List String} {allowed : α → Prop} {Same : String → α → α → Prop}

/-- Fields that come out went in, or have been added. -/
theorem of_mem (h : Rearranged used allowed Same fields fields') {f' : String × α} (mem : f' ∈ fields') :
    (∃ f ∈ fields, f.1 = f'.1 ∧ Same f.1 f.2 f'.2) ∨ f'.1 ∉ used ∧ allowed f'.2 := by
  obtain ⟨kept, added, perm, same, new⟩ := h
  rcases List.mem_append.1 (perm.mem_iff.1 mem) with old | fresh
  · exact .inl (same.exists_of_mem_right old)
  · exact .inr (new f' fresh)

/-- Fields that went in come out. -/
theorem exists_of_mem (h : Rearranged used allowed Same fields fields') {f : String × α}
    (mem : f ∈ fields) : ∃ f' ∈ fields', f.1 = f'.1 ∧ Same f.1 f.2 f'.2 := by
  obtain ⟨kept, added, perm, same, -⟩ := h
  obtain ⟨f', old, related⟩ := same.exists_of_mem_left mem
  exact ⟨f', perm.mem_iff.2 (List.mem_append_left _ old), related⟩

/-- **A name that is used is looked up as before.** -/
theorem lookup (h : Rearranged used allowed Same fields fields') (use : name ∈ used)
    (once : fields.Once name) : Option.Rel (Same name) (fields.lookup name) (fields'.lookup name) := by
  -- whatever is found under the name afterwards was there before
  have before_of_after {value' : α} (mem : (name, value') ∈ fields') :
      ∃ value, fields.lookup name = some value ∧ Same name value value' := by
    rcases h.of_mem mem with ⟨⟨_, value⟩, old, rfl, same⟩ | ⟨unused, -⟩
    · exact ⟨value, once value old, same⟩
    · exact absurd use unused
  cases after : fields'.lookup name with
  | some value' =>
    obtain ⟨value, found, same⟩ := before_of_after (List.mem_of_lookup after)
    rw [found]
    exact .some same
  | none =>
    cases found : fields.lookup name with
    | none => exact .none
    | some value =>
      obtain ⟨⟨_, value'⟩, mem, rfl, -⟩ := h.exists_of_mem (List.mem_of_lookup found)
      have absent := List.lookup_eq_none_iff.1 after _ mem
      exact absurd rfl (bne_iff_ne.1 absent)

/-- Where values stay as they are, so does what is found. -/
theorem lookup_eq (h : Rearranged used allowed (fun _ => Eq) fields fields') (use : name ∈ used)
    (once : fields.Once name) : fields'.lookup name = fields.lookup name := by
  have related := h.lookup use once
  revert related
  generalize fields.lookup name = before, fields'.lookup name = after
  rintro (same | _)
  · rw [same]
  · rfl

/-- Leaving fields out before or after makes no difference. -/
theorem withoutFields (h : Rearranged used allowed Same fields fields') (names : List String) :
    Rearranged used allowed Same (withoutFields names fields) (withoutFields names fields') := by
  obtain ⟨kept, added, perm, same, new⟩ := h
  refine ⟨ServiceShapes.withoutFields names kept, ServiceShapes.withoutFields names added, ?_, ?_,
    fun f mem => new f (List.mem_of_mem_filter mem)⟩
  · have filtered := perm.filter fun f => f.1 ∉ names
    rwa [List.filter_append] at filtered
  · refine List.rel_filter ?_ same
    rintro ⟨name, value⟩ ⟨_, value'⟩ ⟨rfl, -⟩
    rfl

/-- A relation that changes nothing in these fields is equality for them. -/
theorem of_unchanged (h : Rearranged used allowed Same fields fields')
    (unchanged : ∀ f ∈ fields, ∀ value, Same f.1 f.2 value → f.2 = value) :
    Rearranged used allowed (fun _ => Eq) fields fields' := by
  obtain ⟨kept, added, perm, same, new⟩ := h
  have each := (List.forall₂_and_left _ _).2 ⟨unchanged, same⟩
  exact ⟨kept, added, perm, each.imp fun f g ⟨unchanged, name, same⟩ => ⟨name, unchanged _ same⟩, new⟩

/-- No name that is used is added. -/
theorem filter_names_perm (h : Rearranged used allowed Same fields fields') {known : String → Bool}
    (use : ∀ name, known name = true → name ∈ used) :
    ((fields'.map (·.1)).filter known).Perm ((fields.map (·.1)).filter known) := by
  obtain ⟨kept, added, perm, same, new⟩ := h
  have names : fields.map (·.1) = kept.map (·.1) := by
    rw [← List.forall₂_eq_eq_eq, List.forall₂_map_left_iff, List.forall₂_map_right_iff]
    exact same.imp fun _ _ => And.left
  have unknown : (added.map (·.1)).filter known = [] := by
    rw [List.filter_eq_nil_iff]
    intro name mem isKnown
    obtain ⟨f, fresh, rfl⟩ := List.mem_map.1 mem
    exact (new f fresh).1 (use _ isKnown)
  have all := (perm.map (·.1)).filter known
  rwa [List.map_append, List.filter_append, unknown, List.append_nil, ← names] at all

/-! ### Reading a rearranged record -/

/-- **A rearranged record passes the checks that the record passed.** -/
theorem checkFields (h : Rearranged used allowed Same fields fields')
    (use : ∀ name ∈ schema.map (·.1), name ∈ used)
    (preserves : ∀ known ∈ schema, Preserves (Same known.1) known.2)
    (passes : checkFields schema fields = .ok ()) : checkFields schema fields' = .ok () := by
  obtain ⟨each, distinct⟩ := checkFields_eq_ok_iff_nodup.1 passes
  have names := h.filter_names_perm fun name known => use name (List.isSome_lookup_iff.1 known)
  refine checkFields_eq_ok_iff_nodup.2 ⟨fun f' mem check known => ?_, names.nodup_iff.2 distinct⟩
  rcases h.of_mem mem with ⟨f, old, name, same⟩ | ⟨unused, -⟩
  · rw [← name] at known
    exact preserves _ (List.mem_of_lookup known) f.2 f'.2 () same (each f old check known)
  · exact absurd (use _ (List.isSome_lookup_iff.1 (Option.isSome_of_eq_some known))) unused

theorem requiredField (h : Rearranged used allowed Same fields fields') (use : name ∈ used)
    (once : fields.Once name) (preserves : Preserves (Same name) decode)
    (read : requiredField name decode fields = .ok x) :
    requiredField name decode fields' = .ok x := by
  have related := h.lookup use once
  unfold ServiceShapes.requiredField at read ⊢
  revert read related
  generalize fields.lookup name = before, fields'.lookup name = after
  rintro read (same | _)
  · exact preserves _ _ x same read
  · exact read

theorem optionalField {default : β} (h : Rearranged used allowed Same fields fields')
    (use : name ∈ used) (once : fields.Once name) (preserves : Preserves (Same name) decode)
    (read : optionalField name default decode fields = .ok x) :
    optionalField name default decode fields' = .ok x := by
  have related := h.lookup use once
  unfold ServiceShapes.optionalField at read ⊢
  revert read related
  generalize fields.lookup name = before, fields'.lookup name = after
  rintro read (same | _)
  · exact preserves _ _ x same read
  · exact read

end Fields.Rearranged

end ServiceShapes
