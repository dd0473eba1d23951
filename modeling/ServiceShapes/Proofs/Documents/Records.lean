import ServiceShapes.Decoding.Fields
import ServiceShapes.Proofs.KeyedLists
import ServiceShapes.Proofs.Results

/-!
# Reading records

What the three ways of reading a record accept.  `checkFields_eq_ok_iff` says when a record as a
whole passes, and `requiredField_eq_ok_iff` and `optionalField_eq_ok_iff` say which value a single
field gives.

A record that is written has every name once.  Then fields can be talked about by membership alone
(`lookup_of_mem`), and the order in which they are written plays no role.
-/

namespace ServiceShapes

variable {α β : Type} {schema : Schema α} {fields : Fields α} {decode : α → Decoded β}
  {name : String} {value : α} {x : β}

/-! ### Checking -/

theorem accepts_eq_ok_iff : accepts decode value = .ok () ↔ ∃ x, decode value = .ok x := by
  simp [accepts, Except.map_eq_ok_iff]

theorem checkFieldsFrom_eq_ok_iff {seen : List String} :
    checkFieldsFrom schema seen fields = .ok () ↔
      (∀ f ∈ fields, ∀ check, schema.lookup f.1 = some check → f.1 ∉ seen ∧ check f.2 = .ok ()) ∧
      fields.Pairwise fun f g => (schema.lookup f.1).isSome → f.1 ≠ g.1 := by
  induction fields generalizing seen with
  | nil => simp [checkFieldsFrom]
  | cons field rest ih =>
    obtain ⟨name, value⟩ := field
    rw [checkFieldsFrom, List.forall_mem_cons, List.pairwise_cons]
    cases known : schema.lookup name with
    | none =>
      rw [ih]
      simp
    | some check =>
      by_cases repeated : name ∈ seen
      · simp [repeated]
      · cases passes : check value with
        | error e => simp [repeated, passes]
        | ok _ =>
          -- what was seen before the rest is what was seen before, and this name
          simp only [repeated, if_false, ih, List.mem_cons, not_or, passes, Option.some.injEq,
            forall_eq', not_false_eq_true, Option.isSome_some, forall_true_left, true_and]
          constructor
          · rintro ⟨each, apart⟩
            refine ⟨fun f hf check' known' => ?_, fun f hf same => ?_, apart⟩
            · obtain ⟨⟨-, unseen⟩, passes'⟩ := each f hf check' known'
              exact ⟨unseen, passes'⟩
            · rw [same] at known
              exact (each f hf check known).1.1 same.symm
          · rintro ⟨each, new, apart⟩
            refine ⟨fun f hf check' known' => ?_, apart⟩
            obtain ⟨unseen, passes'⟩ := each f hf check' known'
            exact ⟨⟨fun same => new f hf same.symm, unseen⟩, passes'⟩

/-- **A record passes exactly when every known field passes and none is repeated.** -/
theorem checkFields_eq_ok_iff : checkFields schema fields = .ok () ↔
    (∀ f ∈ fields, ∀ check, schema.lookup f.1 = some check → check f.2 = .ok ()) ∧
    fields.Pairwise fun f g => (schema.lookup f.1).isSome → f.1 ≠ g.1 := by
  simp [checkFields, checkFieldsFrom_eq_ok_iff]

/-! ### Single fields -/

theorem requiredField_eq_ok_iff : requiredField name decode fields = .ok x ↔
    ∃ value, fields.lookup name = some value ∧ decode value = .ok x := by
  unfold requiredField
  cases fields.lookup name <;> simp

theorem optionalField_eq_ok_iff {default : β} : optionalField name default decode fields = .ok x ↔
    fields.lookup name = none ∧ default = x ∨
      ∃ value, fields.lookup name = some value ∧ decode value = .ok x := by
  unfold optionalField
  cases fields.lookup name <;> simp

/-- What is decoded from a field passes the check of that field. -/
theorem accepts_of_requiredField (h : requiredField name decode fields = .ok x) :
    ∀ value, fields.lookup name = some value → accepts decode value = .ok () := by
  intro value found
  obtain ⟨value', found', decoded⟩ := requiredField_eq_ok_iff.1 h
  cases found.symm.trans found'
  exact accepts_eq_ok_iff.2 ⟨x, decoded⟩

theorem accepts_of_optionalField {default : β}
    (h : optionalField name default decode fields = .ok x) :
    ∀ value, fields.lookup name = some value → accepts decode value = .ok () := by
  intro value found
  rcases optionalField_eq_ok_iff.1 h with ⟨absent, -⟩ | ⟨value', found', decoded⟩
  · cases found.symm.trans absent
  · cases found.symm.trans found'
    exact accepts_eq_ok_iff.2 ⟨x, decoded⟩

/-! ### Records with every name once -/

/-- Every name stands for one field. -/
def Fields.Distinct (fields : Fields α) : Prop := (fields.map (·.1)).Nodup

/-- A field that is there is the one that is found. -/
theorem Fields.Distinct.lookup_of_mem (distinct : fields.Distinct) (h : (name, value) ∈ fields) :
    fields.lookup name = some value :=
  (List.lookup_eq_some_iff_mem distinct).2 h

/-- **Where names are not repeated, a record passes when the fields that the schema knows do.** -/
theorem Fields.Distinct.passes (distinct : fields.Distinct)
    (each : ∀ known ∈ schema, ∀ value, fields.lookup known.1 = some value →
      known.2 value = .ok ()) : checkFields schema fields = .ok () := by
  refine checkFields_eq_ok_iff.2 ⟨?_, ?_⟩
  · intro f hf check known
    exact each (f.1, check) (List.mem_of_lookup known) f.2 (distinct.lookup_of_mem hf)
  · refine (List.pairwise_map.1 distinct).imp ?_
    intro f g different _
    exact different

theorem Fields.lookup_eq_none (absent : name ∉ fields.map (·.1)) : fields.lookup name = none := by
  rw [List.lookup_eq_none_iff]
  intro p hp
  rw [bne_iff_ne]
  rintro rfl
  exact absent (List.mem_map.2 ⟨p, hp, rfl⟩)

/-- **A record of one field is read from that field**, whether or not it could have been left
out. -/
theorem readSingle (name : String) (decoded : decode value = .ok x) :
    checkFields [(name, accepts decode)] [(name, value)] = .ok () ∧
      requiredField name decode [(name, value)] = .ok x ∧
      ∀ default, optionalField name default decode [(name, value)] = .ok x := by
  have distinct : Fields.Distinct [(name, value)] := List.nodup_singleton name
  have found : requiredField name decode [(name, value)] = .ok x :=
    requiredField_eq_ok_iff.2 ⟨value, List.lookup_cons_self, decoded⟩
  refine ⟨distinct.passes ?_, found, fun default => ?_⟩
  · rw [List.forall_mem_singleton]
    exact accepts_of_requiredField found
  · exact optionalField_eq_ok_iff.2 (.inr ⟨value, List.lookup_cons_self, decoded⟩)

end ServiceShapes
