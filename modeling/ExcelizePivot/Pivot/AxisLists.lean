import ExcelizePivot.Pivot.TableDefinition

/-!
# Pivot/AxisLists — what the axis sections of a table definition refer to

The axis sections hold header *positions*; the pivot fields are classified by *name*.  On a header
read whole:

* `buildPivotTable_axisLists` — when no name is declared in two of Rows, Columns and Filter, every
  position of a section lies in the pivot-field list, and position `i` is in a section exactly when
  field `i` carries that axis (or, for Data, the data flag) **and** `i` is the first occurrence of
  its name in the header.  A repeated header name is classified at each position but referenced at
  its first only (`rowFields_repeated_header`).
* `buildPivotTable_colFields` — the column section is decided by the *declared* lengths of Columns
  and Data, not by the data fields emitted (`colFields_sentinel_declared`).
* the page and data builders pair the `idx`-th *resolved* index with the `idx`-th *declared*
  entry, so a declared name missing from the header shifts the names and aggregations of the rest
  (`dataFields_misaligned`); the Filter branch of the pivot fields takes its display name from
  Columns (`filterField_name_from_columns`).
-/

namespace Excelize

/-- The entries of an optional section, none when it is absent. -/
def sectionItems {α : Type} (s : Option (Counted α)) : List α := (s.map (·.items)).getD []

theorem sectionItems_appendAxisFields {α : Type} (entry : Nat → Int → α) (l : List Int) :
    sectionItems (appendAxisFields entry l none) = l.enum.map fun p => entry p.1 p.2 := by
  rw [appendAxisFields_none]
  split <;> simp_all [sectionItems]

/-- Position `i` is resolved for `fields` exactly when its name is declared there and first occurs
at `i`. -/
theorem mem_fieldPositions_at {order : List GoString} {fields : List PivotTableField} {i : Nat}
    {x : GoString} (hx : order[i]? = some x) :
    (i : Int) ∈ fieldPositions order fields ↔ x ∈ dataNames fields ∧ order.indexOf x = i := by
  rw [mem_fieldPositions]
  constructor
  · rintro ⟨y, hy, hyo, hi⟩
    have hi : order.indexOf y = i := by exact_mod_cast hi.symm
    have : y = x := by
      have := getElem?_indexOf hyo
      rw [hi, hx] at this
      exact (Option.some.inj this).symm
    subst this
    exact ⟨hy, hi⟩
  · rintro ⟨hxn, hi⟩
    exact ⟨x, hxn, List.getElem?_mem hx, by rw [hi]⟩

section Axis

variable (opts : PivotTableOption) (x : GoString)

theorem axisOf_eq_row : axisOf opts x = utf8 "axisRow" ↔ x ∈ dataNames opts.rows := by
  unfold axisOf; split_ifs <;> simp_all <;> decide

theorem axisOf_eq_page :
    axisOf opts x = utf8 "axisPage" ↔ x ∉ dataNames opts.rows ∧ x ∈ dataNames opts.filter := by
  unfold axisOf; split_ifs <;> simp_all <;> decide

theorem axisOf_eq_col : axisOf opts x = utf8 "axisCol" ↔
    x ∉ dataNames opts.rows ∧ x ∉ dataNames opts.filter ∧ x ∈ dataNames opts.columns := by
  unfold axisOf; split_ifs <;> simp_all <;> decide

end Axis

/-- The axis sections of `pt` refer to the pivot fields of the header `order`: every position
lies in the pivot-field list, and position `i` is in a section exactly when field `i` carries its
axis (for Data, its data flag) and `i` is the first occurrence of its name. -/
structure AxisListsConsistent (order : List GoString) (pt : PivotTableDefinition) : Prop where
  row_bound : ∀ i : Int, i ∈ sectionItems pt.rowFields → 0 ≤ i ∧ i < pt.pivotFields.count
  col_bound : ∀ i : Int, i ∈ sectionItems pt.colFields → i ≠ -2 →
    0 ≤ i ∧ i < pt.pivotFields.count
  page_bound : ∀ i : Int, i ∈ (sectionItems pt.pageFields).map (·.fld) →
    0 ≤ i ∧ i < pt.pivotFields.count
  data_bound : ∀ i : Int, i ∈ (sectionItems pt.dataFields).map (·.fld) →
    0 ≤ i ∧ i < pt.pivotFields.count
  row_iff : ∀ (i : Nat) (x : GoString) (pf : PivotField), order[i]? = some x →
    pt.pivotFields.items[i]? = some pf →
    ((i : Int) ∈ sectionItems pt.rowFields ↔ pf.axis = utf8 "axisRow" ∧ order.indexOf x = i)
  col_iff : ∀ (i : Nat) (x : GoString) (pf : PivotField), order[i]? = some x →
    pt.pivotFields.items[i]? = some pf →
    ((i : Int) ∈ sectionItems pt.colFields ↔ pf.axis = utf8 "axisCol" ∧ order.indexOf x = i)
  page_iff : ∀ (i : Nat) (x : GoString) (pf : PivotField), order[i]? = some x →
    pt.pivotFields.items[i]? = some pf →
    ((i : Int) ∈ (sectionItems pt.pageFields).map (·.fld) ↔
      pf.axis = utf8 "axisPage" ∧ order.indexOf x = i)
  data_iff : ∀ (i : Nat) (x : GoString) (pf : PivotField), order[i]? = some x →
    pt.pivotFields.items[i]? = some pf →
    ((i : Int) ∈ (sectionItems pt.dataFields).map (·.fld) ↔
      pf.dataField = true ∧ order.indexOf x = i)

/-- **Referential consistency of the axis sections.**  On a header read whole, and with no name
declared in two of Rows, Columns and Filter (the rule the doc comment of `AddPivotTable` puts on
callers), the sections of the definition refer to its pivot fields: every position lies in the
pivot-field list, and position `i` is in a section exactly when pivot field `i` carries that
section's axis (for Data, its data flag) and `i` is the first occurrence of its name. -/
theorem buildPivotTable_axisLists {f : File} {c : GoInt} {p : Nat} {opts : PivotTableOption}
    {order : List GoString} {pt : PivotTableDefinition}
    (hrc : ∀ x ∈ dataNames opts.rows, x ∉ dataNames opts.columns)
    (hrf : ∀ x ∈ dataNames opts.rows, x ∉ dataNames opts.filter)
    (hcf : ∀ x ∈ dataNames opts.columns, x ∉ dataNames opts.filter)
    (h : f.getPivotFieldsOrder opts = (order, none)) (hpt : f.buildPivotTable c p opts = .ok pt) :
    AxisListsConsistent order pt := by
  obtain ⟨-, hpf, hrow, hcol, hpage, hdata⟩ := File.buildPivotTable_eq h hpt
  have rowIdx : sectionItems pt.rowFields = fieldPositions order opts.rows := by
    simp [hrow, sectionItems_appendAxisFields]
  have pageIdx : (sectionItems pt.pageFields).map (·.fld) = fieldPositions order opts.filter := by
    simp [hpage, sectionItems_appendAxisFields, List.map_map, Function.comp_def]
  have dataIdx : (sectionItems pt.dataFields).map (·.fld) = fieldPositions order opts.data := by
    simp [hdata, sectionItems_appendAxisFields, List.map_map, Function.comp_def]
  have colIdx : ∀ i : Int, i ≠ -2 →
      (i ∈ sectionItems pt.colFields ↔ i ∈ fieldPositions order opts.columns) := by
    intro i hi
    rw [hcol]
    by_cases hc : opts.columns = [] ∧ opts.data.length ≤ 1
    · simp [colFieldsAfter, hc, sectionItems, fieldPositions]
    · by_cases hd : 1 < opts.data.length <;> simp [colFieldsAfter, hc, hd, sectionItems, hi]
  have hcount : (pt.pivotFields.count : Int) = order.length := by simp [hpf]
  have bound : ∀ fields, ∀ i ∈ fieldPositions order fields, 0 ≤ i ∧ i < pt.pivotFields.count :=
    fun fields i hi => hcount ▸ fieldPositions_bound hi
  have hfield : ∀ (i : Nat) (x : GoString) (pf : PivotField), order[i]? = some x →
      pt.pivotFields.items[i]? = some pf → pf = pivotFieldOf opts x := fun i x pf hx hpfi => by
    rw [hpf, List.getElem?_map, hx] at hpfi
    exact (Option.some.inj hpfi).symm
  refine ⟨rowIdx ▸ bound _, fun i hi h2 => bound _ i ((colIdx i h2).1 hi), pageIdx ▸ bound _,
    dataIdx ▸ bound _, fun i x pf hx hpfi => ?_, fun i x pf hx hpfi => ?_,
    fun i x pf hx hpfi => ?_, fun i x pf hx hpfi => ?_⟩ <;> obtain rfl := hfield i x pf hx hpfi
  · rw [rowIdx, mem_fieldPositions_at hx, pivotFieldOf_axis, axisOf_eq_row]
  · rw [colIdx _ (by omega), mem_fieldPositions_at hx, pivotFieldOf_axis, axisOf_eq_col]
    exact and_congr_left fun _ =>
      ⟨fun hc => ⟨fun hr => hrc _ hr hc, fun hf => hcf _ hc hf, hc⟩, fun hc => hc.2.2⟩
  · rw [pageIdx, mem_fieldPositions_at hx, pivotFieldOf_axis, axisOf_eq_page]
    exact and_congr_left fun _ => ⟨fun hf => ⟨fun hr => hrf _ hr hf, hf⟩, fun hf => hf.2⟩
  · rw [dataIdx, mem_fieldPositions_at hx, pivotFieldOf_dataField, decide_eq_true_iff]

/-! ## Concrete documents

`headerFile header` reads every range as columns `1 … header.length` by rows `1 … 2` and holds
`header` in row 1; `sampleOptions` places a table on `Sheet1` with the given axis lists. -/

/-- A document whose first row holds `header`. -/
def headerFile (header : List GoString) : File where
  doc :=
    { areaRefToCoordinates := fun _ => .ok (1, 1, header.length, 2)
      coordinatesToCellName := fun col _ => itoa col
      getDefinedNameRefTo := fun _ _ => []
      workSheetReader := fun _ => .ok ()
      getSheetXMLPath := fun _ => some (utf8 "xl/worksheets/sheet1.xml")
      getCellValue := fun _ cell => .ok (header.getD (decodeDigits cell - 1) [])
      getWorkbookRelsPath := utf8 "xl/_rels/workbook.xml.rels" }
  pkg := ∅
  relationships := ∅
  pivotCaches := []
  overrides := []

/-- An option entry for the header name `data`. -/
def sampleField (data name subtotal : String) (defaultSubtotal : Bool) : PivotTableField :=
  ⟨false, utf8 data, utf8 name, false, utf8 subtotal, defaultSubtotal⟩

/-- Options for a table at `Sheet1!$H$1:$I$2` over `Sheet1!$A$1:$B$2`. -/
def sampleOptions (rows columns data filter : List PivotTableField) : PivotTableOption :=
  { pivotTableSheetName := [], dataRange := utf8 "Sheet1!$A$1:$B$2",
    pivotTableRange := utf8 "Sheet1!$H$1:$I$2", rows, columns, data, filter,
    rowGrandTotals := false, colGrandTotals := false, showDrill := false,
    useAutoFormatting := false, pageOverThenDown := false, mergeItem := false,
    compactData := false, showError := false, showRowHeaders := false, showColHeaders := false,
    showRowStripes := false, showColStripes := false, showLastColumn := false,
    pivotTableStyleName := [] }

/-- The header of an end-to-end example: a sales table. -/
def salesHeader : List GoString := [utf8 "Month", utf8 "Type", utf8 "Sales", utf8 "Region"]

/-- The sales example's options: rows `Month`, columns `Type`, data `Sales`, filter `Region`. -/
def salesOptions : PivotTableOption :=
  sampleOptions [sampleField "Month" "" "" true] [sampleField "Type" "" "" true]
    [sampleField "Sales" "Summarize" "Sum" false] [sampleField "Region" "" "" false]

theorem buildPivotTable_axisLists_sample :
    ∃ pt, (headerFile salesHeader).buildPivotTable GoInt.one 1 salesOptions = .ok pt ∧
      AxisListsConsistent salesHeader pt :=
  ⟨_, rfl, @buildPivotTable_axisLists (headerFile salesHeader) GoInt.one 1 salesOptions _ _
    (by decide) (by decide) (by decide) rfl rfl⟩

/-- A header name repeated: both positions are classified under Rows, only the first is a row
field. -/
theorem rowFields_repeated_header :
    ((headerFile [utf8 "A", utf8 "A"]).buildPivotTable GoInt.one 1
      (sampleOptions [sampleField "A" "" "" false] [] [] [])).map
        (fun pt => (sectionItems pt.rowFields, pt.pivotFields.items.map (·.axis))) =
      .ok ([0], [utf8 "axisRow", utf8 "axisRow"]) := rfl

/-! ## The column section -/

/-- **The column section**.  On a header read whole it is absent exactly when no
Columns entry is declared and at most one Data entry is; otherwise it lists the header positions
of the declared Columns names the header holds, then one `-2` exactly when more than one Data entry
is declared, and its count is its length. -/
theorem buildPivotTable_colFields {f : File} {c : GoInt} {p : Nat} {opts : PivotTableOption}
    {order : List GoString} {pt : PivotTableDefinition}
    (h : f.getPivotFieldsOrder opts = (order, none)) (hpt : f.buildPivotTable c p opts = .ok pt) :
    pt.colFields =
      if opts.columns = [] ∧ opts.data.length ≤ 1 then none
      else some ⟨(fieldPositions order opts.columns ++
          if 1 < opts.data.length then [-2] else []).length,
        fieldPositions order opts.columns ++ if 1 < opts.data.length then [-2] else []⟩ :=
  (File.buildPivotTable_eq h hpt).2.2.2.1

theorem buildPivotTable_colFields_sample :
    ∃ pt, (headerFile salesHeader).buildPivotTable GoInt.one 1 salesOptions = .ok pt ∧
      pt.colFields = some ⟨1, [1]⟩ :=
  ⟨_, rfl, (@buildPivotTable_colFields (headerFile salesHeader) GoInt.one 1 salesOptions
    salesHeader _ rfl rfl).trans rfl⟩

/-- Two Data entries declared, one of them missing from the header: one data field is emitted, yet
the column section is created with the `-2` sentinel. -/
theorem colFields_sentinel_declared :
    ((headerFile [utf8 "Y"]).buildPivotTable GoInt.one 1
      (sampleOptions [] [] [sampleField "X" "" "" false, sampleField "Y" "" "" false] [])).map
        (fun pt => (pt.colFields, sectionItems pt.dataFields)) =
      .ok (some ⟨1, [-2]⟩, [⟨[], 0, utf8 "sum"⟩]) := rfl

/-! ## Names and aggregations -/

/-- A Data entry missing from the header shifts the next entry's name and aggregation: the data
field of `A` is emitted with the display name `nx` and the aggregation `max` declared for `X`. -/
theorem dataFields_misaligned :
    ((headerFile [utf8 "A"]).buildPivotTable GoInt.one 1
      (sampleOptions [] [] [sampleField "X" "nx" "Max" false, sampleField "A" "na" "" false]
        [])).map (fun pt => sectionItems pt.dataFields) =
      .ok [⟨utf8 "nx", 0, utf8 "max"⟩] := rfl

/-- The pivot field of a Filter name takes its display name from Columns — here none — while the
page field of the same name carries the Filter entry's `Reg`. -/
theorem filterField_name_from_columns :
    ((headerFile [utf8 "Region"]).buildPivotTable GoInt.one 1
      (sampleOptions [] [] [] [sampleField "Region" "Reg" "" false])).map
        (fun pt => (pt.pivotFields.items.map (·.name), sectionItems pt.pageFields)) =
      .ok ([[]], [⟨utf8 "Reg", 0⟩]) := rfl

end Excelize
