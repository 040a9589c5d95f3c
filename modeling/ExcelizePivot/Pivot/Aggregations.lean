import ExcelizePivot.Pivot.DisplayNames

/-!
# Pivot/Aggregations — the aggregation a data field carries

`getPivotTableFieldsSubtotal` maps each Data entry's `Subtotal` through `inEnums`: the first of the
eleven names Excel accepts that `strings.EqualFold` matches, and `sum` when none does.  Since two
ASCII names that fold to one string agree in lower case (`map_lowerAscii_eq_of_equalFold`), and
the eleven names differ in lower case, "the first" is "the only one":

* `inEnums_subtotalEnums` — the aggregation is an accepted name; it is the one the `Subtotal`
  names up to case, whichever that is, and `sum` exactly when none matches; and normalising it again
  changes nothing;
* `buildPivotTable_dataSubtotals` — every data field of a built definition carries the aggregation
  of a declared Data entry.
-/

namespace Excelize

/-- **Two names that fold to one string agree in ASCII lower case**, through all three ways
`equalFold` matches a rune: ASCII case, `ſ` for `s` and the Kelvin sign for `k`. -/
theorem map_lowerAscii_eq_of_equalFold {e₁ e₂ v : GoString} (h₁ : equalFold e₁ v = true)
    (h₂ : equalFold e₂ v = true) : e₁.map lowerAscii = e₂.map lowerAscii := by
  induction e₁ generalizing e₂ v with
  | nil =>
    rcases v with _ | ⟨b, t⟩
    · rcases e₂ with _ | ⟨d, s₂⟩
      · rfl
      · simp [equalFold] at h₂
    · simp [equalFold] at h₁
  | cons c s ih =>
    rcases v with _ | ⟨b, t⟩
    · simp [equalFold] at h₁
    rcases e₂ with _ | ⟨d, s₂⟩
    · simp [equalFold] at h₂
    simp only [equalFold] at h₁ h₂
    split_ifs at h₁ h₂ <;>
      simp only [Bool.and_eq_true, beq_iff_eq, Bool.false_eq_true] at h₁ h₂ <;>
      rw [List.map_cons, List.map_cons, h₁.1.trans h₂.1.symm, ih h₁.2 h₂.2]

/-- The accepted names differ in lower case. -/
theorem subtotalEnums_lower_nodup : (subtotalEnums.map (List.map lowerAscii)).Nodup := by decide

/-- Each accepted name folds to itself. -/
theorem equalFold_self_of_mem {e : GoString} (he : e ∈ subtotalEnums) : equalFold e e = true := by
  revert e
  decide

section InEnums

variable {v : GoString}

theorem inEnums_eq_of_equalFold {e : GoString} (he : e ∈ subtotalEnums)
    (h : equalFold e v = true) :
    inEnums subtotalEnums v = e := by
  obtain ⟨e', he'⟩ := Option.isSome_iff_exists.1
    (List.find?_isSome.2 ⟨e, he, h⟩ : (subtotalEnums.find? fun enum => equalFold enum v).isSome)
  have hv : equalFold e' v = true := List.find?_some (p := fun enum => equalFold enum v) he'
  rw [inEnums, he', Option.getD_some]
  exact List.inj_on_of_nodup_map subtotalEnums_lower_nodup (List.mem_of_find?_eq_some he') he
    (map_lowerAscii_eq_of_equalFold hv h)

theorem inEnums_of_forall_not (h : ∀ e ∈ subtotalEnums, equalFold e v = false) :
    inEnums subtotalEnums v = utf8 "sum" := by
  rw [inEnums, List.find?_eq_none.2 fun e he => by simp [h e he]]
  rfl

theorem inEnums_mem (v : GoString) : inEnums subtotalEnums v ∈ subtotalEnums := by
  rw [inEnums]
  cases h : subtotalEnums.find? fun enum => equalFold enum v with
  | none => decide
  | some e => exact List.mem_of_find?_eq_some h

end InEnums

/-- **The aggregation a `Subtotal` names** is an accepted name: the one the `Subtotal` equals up to
case, whichever it is, and `sum` when it equals none; and normalising it again changes nothing. -/
theorem inEnums_subtotalEnums (v : GoString) :
    inEnums subtotalEnums v ∈ subtotalEnums ∧
    (∀ e ∈ subtotalEnums, equalFold e v = true → inEnums subtotalEnums v = e) ∧
    ((∀ e ∈ subtotalEnums, equalFold e v = false) → inEnums subtotalEnums v = utf8 "sum") ∧
    inEnums subtotalEnums (inEnums subtotalEnums v) = inEnums subtotalEnums v :=
  ⟨inEnums_mem v, fun _ he h => inEnums_eq_of_equalFold he h, inEnums_of_forall_not,
    inEnums_eq_of_equalFold (inEnums_mem v) (equalFold_self_of_mem (inEnums_mem v))⟩

/-- **Every data field carries the aggregation of a declared Data entry**, an accepted name,
whatever the header reads give. -/
theorem buildPivotTable_dataSubtotals {f : File} {c : GoInt} {p : Nat} {opts : PivotTableOption}
    {pt : PivotTableDefinition} (hpt : f.buildPivotTable c p opts = .ok pt) :
    ∀ df ∈ sectionItems pt.dataFields, df.subtotal ∈ subtotalEnums ∧
      ∃ fld ∈ opts.data, df.subtotal = inEnums subtotalEnums fld.subtotal := by
  intro df hdf
  rcases hord : f.getPivotFieldsOrder opts with ⟨order, _ | e⟩
  · obtain ⟨-, -, -, -, -, hdata⟩ := File.buildPivotTable_eq hord hpt
    rw [hdata] at hdf
    have h : ∃ fld ∈ opts.data, df.subtotal = inEnums subtotalEnums fld.subtotal :=
      exists_mem_of_appendAxisFields (fun _ _ => rfl) hdf
    obtain ⟨fld, -, hsub⟩ := id h
    exact ⟨hsub ▸ inEnums_mem _, h⟩
  · obtain ⟨x1, y1, x2, y2, rfl⟩ := File.buildPivotTable_ok hpt
    rw [File.addPivotTableFields_of_error hord] at hdf
    cases hdf

theorem buildPivotTable_dataSubtotals_sales :
    ∃ pt, (headerFile salesHeader).buildPivotTable GoInt.one 1 salesOptions = .ok pt ∧
      ∀ df ∈ sectionItems pt.dataFields, df.subtotal ∈ subtotalEnums ∧
        ∃ fld ∈ salesOptions.data, df.subtotal = inEnums subtotalEnums fld.subtotal :=
  ⟨_, rfl,
    @buildPivotTable_dataSubtotals (headerFile salesHeader) GoInt.one 1 salesOptions _ rfl⟩

end Excelize
