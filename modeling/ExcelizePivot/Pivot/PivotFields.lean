import ExcelizePivot.Pivot.Options
import ExcelizePivot.Xlsx.Definitions

/-!
# Pivot/PivotFields — the pivot field of one header name

The loop body of `addPivotFields` classifies a header name by the first of Rows, Filter, Columns
that declares it, and a name in none of them by Data.  The Rows and Columns branches are one
builder, `subtotalledField`, applied to their own list; the Filter branch keeps its own body,
which reads the display name from **Columns** (`src/pivotTable.go`, line 558).

The specification lemmas say, for every option lists and every name, what the field's axis, data
flag, display name and item list are (`pivotFieldOf_axis`, `pivotFieldOf_dataField`,
`pivotFieldOf_name`, `pivotFieldOf_indexItem`).
-/

namespace Excelize

/-- Whether the first entry of `fields` declaring `name` turns the default subtotal off — the test
`ok && !options.DefaultSubtotal` of `addPivotCache`. -/
def turnsSubtotalOff (fields : List PivotTableField) (name : GoString) : Bool :=
  (getPivotTableFieldOptions name fields).2 && !(getPivotTableFieldOptions name fields).1.defaultSubtotal

/-- The index item `<item x="0"/>`. -/
def indexItem : Item := ⟨some 0, []⟩

/-- The item `<item t="default"/>`. -/
def defaultItem : Item := ⟨none, utf8 "default"⟩

/-- The Rows and Columns branches of `addPivotFields`: the first entry's options, and an index item
when it turns the default subtotal off, else the `default` item. -/
def subtotalledField (axis : GoString) (fields data : List PivotTableField) (name : GoString) :
    PivotField :=
  let (options, ok) := getPivotTableFieldOptions name fields
  let items := if !ok || !options.defaultSubtotal then [indexItem] else [defaultItem]
  { name := getPivotTableFieldName name fields
    axis
    dataField := inPivotTableField data name != -1
    compact := some options.compact
    outline := some options.outline
    defaultSubtotal := some options.defaultSubtotal
    items := some ⟨items.length, items⟩ }

/-- The loop body of `addPivotFields`: the pivot field of one header name. -/
def pivotFieldOf (opts : PivotTableOption) (name : GoString) : PivotField :=
  if inPivotTableField opts.rows name ≠ -1 then
    subtotalledField (utf8 "axisRow") opts.rows opts.data name
  else if inPivotTableField opts.filter name ≠ -1 then
    { axis := utf8 "axisPage"
      dataField := inPivotTableField opts.data name != -1
      name := getPivotTableFieldName name opts.columns
      compact := none
      outline := none
      defaultSubtotal := none
      items := some ⟨1, [defaultItem]⟩ }
  else if inPivotTableField opts.columns name ≠ -1 then
    subtotalledField (utf8 "axisCol") opts.columns opts.data name
  else if inPivotTableField opts.data name ≠ -1 then
    { name := [], axis := [], dataField := true, compact := none, outline := none,
      defaultSubtotal := none, items := none }
  else ⟨[], [], false, none, none, none, none⟩

/-! ## The branches, by membership -/

section Spec

variable (opts : PivotTableOption) (x : GoString)

theorem pivotFieldOf_of_rows (h : x ∈ dataNames opts.rows) :
    pivotFieldOf opts x = subtotalledField (utf8 "axisRow") opts.rows opts.data x := by
  simp [pivotFieldOf, h]

theorem pivotFieldOf_of_filter (hr : x ∉ dataNames opts.rows) (h : x ∈ dataNames opts.filter) :
    pivotFieldOf opts x =
      { axis := utf8 "axisPage", dataField := decide (x ∈ dataNames opts.data),
        name := getPivotTableFieldName x opts.columns, compact := none, outline := none,
        defaultSubtotal := none, items := some ⟨1, [defaultItem]⟩ } := by
  simp [pivotFieldOf, hr, h]

theorem pivotFieldOf_of_columns (hr : x ∉ dataNames opts.rows) (hf : x ∉ dataNames opts.filter)
    (h : x ∈ dataNames opts.columns) :
    pivotFieldOf opts x = subtotalledField (utf8 "axisCol") opts.columns opts.data x := by
  simp [pivotFieldOf, hr, hf, h]

theorem pivotFieldOf_of_none (hr : x ∉ dataNames opts.rows) (hf : x ∉ dataNames opts.filter)
    (hc : x ∉ dataNames opts.columns) :
    pivotFieldOf opts x =
      ⟨[], [], decide (x ∈ dataNames opts.data), none, none, none, none⟩ := by
  by_cases hd : x ∈ dataNames opts.data <;> simp [pivotFieldOf, hr, hf, hc, hd]

end Spec

/-! ## What a pivot field records -/

/-- The axis tag of a name: Rows, then Filter, then Columns. -/
def axisOf (opts : PivotTableOption) (x : GoString) : GoString :=
  if x ∈ dataNames opts.rows then utf8 "axisRow"
  else if x ∈ dataNames opts.filter then utf8 "axisPage"
  else if x ∈ dataNames opts.columns then utf8 "axisCol"
  else []

@[simp] theorem subtotalledField_axis (a : GoString) (fields data : List PivotTableField)
    (x : GoString) : (subtotalledField a fields data x).axis = a := rfl

@[simp] theorem subtotalledField_dataField (a : GoString) (fields data : List PivotTableField)
    (x : GoString) : (subtotalledField a fields data x).dataField = decide (x ∈ dataNames data) := by
  simp [subtotalledField]

theorem pivotFieldOf_axis (opts : PivotTableOption) (x : GoString) :
    (pivotFieldOf opts x).axis = axisOf opts x := by
  unfold axisOf
  split_ifs with h1 h2 h3
  · rw [pivotFieldOf_of_rows _ _ h1]; rfl
  · rw [pivotFieldOf_of_filter _ _ h1 h2]
  · rw [pivotFieldOf_of_columns _ _ h1 h2 h3]; rfl
  · rw [pivotFieldOf_of_none _ _ h1 h2 h3]

@[simp] theorem subtotalledField_name (a : GoString) (fields data : List PivotTableField)
    (x : GoString) : (subtotalledField a fields data x).name = getPivotTableFieldName x fields :=
  rfl

/-- **The display name** is looked up in Rows for a Rows name and in Columns for a Filter or
Columns name (Filter's own entries are not read); the other names have none. -/
theorem pivotFieldOf_name (opts : PivotTableOption) (x : GoString) :
    (pivotFieldOf opts x).name =
      if x ∈ dataNames opts.rows then getPivotTableFieldName x opts.rows
      else if x ∈ dataNames opts.filter ∨ x ∈ dataNames opts.columns then
        getPivotTableFieldName x opts.columns
      else [] := by
  by_cases h1 : x ∈ dataNames opts.rows
  · simp [pivotFieldOf_of_rows _ _ h1, h1]
  by_cases h2 : x ∈ dataNames opts.filter
  · simp [pivotFieldOf_of_filter _ _ h1 h2, h1, h2]
  by_cases h3 : x ∈ dataNames opts.columns
  · simp [pivotFieldOf_of_columns _ _ h1 h2 h3, h1, h3]
  · simp [pivotFieldOf_of_none _ _ h1 h2 h3, h1, h2, h3]

/-- **The data flag is membership in Data**, whatever axis the name is on. -/
theorem pivotFieldOf_dataField (opts : PivotTableOption) (x : GoString) :
    (pivotFieldOf opts x).dataField = decide (x ∈ dataNames opts.data) := by
  by_cases h1 : x ∈ dataNames opts.rows
  · simp [pivotFieldOf_of_rows _ _ h1]
  by_cases h2 : x ∈ dataNames opts.filter
  · simp [pivotFieldOf_of_filter _ _ h1 h2]
  by_cases h3 : x ∈ dataNames opts.columns
  · simp [pivotFieldOf_of_columns _ _ h1 h2 h3]
  · simp [pivotFieldOf_of_none _ _ h1 h2 h3]

/-- A subtotalled field carries the index item exactly when its list turns the subtotal off. -/
theorem subtotalledField_items (a : GoString) (fields data : List PivotTableField) {x : GoString}
    (h : x ∈ dataNames fields) :
    (subtotalledField a fields data x).items =
      some ⟨1, [if turnsSubtotalOff fields x then indexItem else defaultItem]⟩ := by
  have hok := getPivotTableFieldOptions_ok.2 h
  simp only [subtotalledField, turnsSubtotalOff, hok]
  split <;> simp_all

/-- **The pivot field holds the index item** exactly when Rows turns the name's subtotal off, or
Columns does and neither Rows nor Filter declares it. -/
theorem pivotFieldOf_indexItem (opts : PivotTableOption) (x : GoString) :
    (pivotFieldOf opts x).items = some ⟨1, [indexItem]⟩ ↔
      turnsSubtotalOff opts.rows x = true ∨
        (x ∉ dataNames opts.rows ∧ x ∉ dataNames opts.filter ∧
          turnsSubtotalOff opts.columns x = true) := by
  have hnot : ∀ fields : List PivotTableField, x ∉ dataNames fields →
      turnsSubtotalOff fields x = false := fun fields h => by
    simp [turnsSubtotalOff, getPivotTableFieldOptions_ok, h]
  have hne : defaultItem ≠ indexItem := by decide
  by_cases h1 : x ∈ dataNames opts.rows
  · rw [pivotFieldOf_of_rows _ _ h1, subtotalledField_items _ _ _ h1]
    split <;> simp_all
  by_cases h2 : x ∈ dataNames opts.filter
  · simp [pivotFieldOf_of_filter _ _ h1 h2, hnot _ h1, h2, hne]
  by_cases h3 : x ∈ dataNames opts.columns
  · rw [pivotFieldOf_of_columns _ _ h1 h2 h3, subtotalledField_items _ _ _ h3]
    split <;> simp_all
  · simp [pivotFieldOf_of_none _ _ h1 h2 h3, hnot _ h1, hnot _ h3]

end Excelize
