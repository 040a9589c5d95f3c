import ExcelizePivot.Go.Basic

/-!
# Pivot/Options — the caller's options and the lookups over them

`PivotTableOption` and `PivotTableField` as the caller fills them, and the helpers of
`pivotTable.go` that look a field name up in one option list: membership (`inPivotTableField`),
the first entry's options (`getPivotTableFieldOptions`) and display name (`getPivotTableFieldName`),
the truncated display names and normalised aggregations of a whole list
(`getPivotTableFieldsName`, `getPivotTableFieldsSubtotal`), and a header position
(`inStrSlice`).  Every lookup is by the first entry whose `Data` matches, which the specification
lemmas here say once so that the builders never unfold a loop.
-/

namespace Excelize

/-- `PivotTableField`; the derived default is Go's zero value. -/
structure PivotTableField where
  compact : Bool
  data : GoString
  name : GoString
  outline : Bool
  subtotal : GoString
  defaultSubtotal : Bool
deriving DecidableEq, Repr, Inhabited

/-- `PivotTableOption`.  `pivotTableSheetName` is the unexported field that
`parseFormatPivotTableSet` fills in. -/
structure PivotTableOption where
  pivotTableSheetName : GoString
  dataRange : GoString
  pivotTableRange : GoString
  rows : List PivotTableField
  columns : List PivotTableField
  data : List PivotTableField
  filter : List PivotTableField
  rowGrandTotals : Bool
  colGrandTotals : Bool
  showDrill : Bool
  useAutoFormatting : Bool
  pageOverThenDown : Bool
  mergeItem : Bool
  compactData : Bool
  showError : Bool
  showRowHeaders : Bool
  showColHeaders : Bool
  showRowStripes : Bool
  showColStripes : Bool
  showLastColumn : Bool
  pivotTableStyleName : GoString
deriving DecidableEq, Repr

/-- The `Data` names of an option list, in order. -/
def dataNames (a : List PivotTableField) : List GoString := a.map (·.data)

/-! ## Membership and the first matching entry -/

/-- `inPivotTableField`: the position of the first entry whose `Data` is `x`, or `-1`. -/
def inPivotTableField (a : List PivotTableField) (x : GoString) : Int :=
  if x ∈ dataNames a then (dataNames a).indexOf x else -1

@[simp] theorem inPivotTableField_ne_neg_one {a : List PivotTableField} {x : GoString} :
    inPivotTableField a x ≠ -1 ↔ x ∈ dataNames a := by
  unfold inPivotTableField
  split <;> simp_all

@[simp] theorem inPivotTableField_bne {a : List PivotTableField} {x : GoString} :
    (inPivotTableField a x != -1) = decide (x ∈ dataNames a) := by
  rw [Bool.eq_iff_iff, bne_iff_ne, decide_eq_true_iff, inPivotTableField_ne_neg_one]

/-- `getPivotTableFieldOptions`: the first entry whose `Data` is `name`, and whether there is one. -/
def getPivotTableFieldOptions (name : GoString) (fields : List PivotTableField) :
    PivotTableField × Bool :=
  match fields.find? (·.data == name) with
  | some field => (field, true)
  | none => (default, false)

theorem mem_dataNames_iff_find? {a : List PivotTableField} {x : GoString} :
    x ∈ dataNames a ↔ ∃ e, a.find? (·.data == x) = some e := by
  simp only [dataNames, List.mem_map, ← Option.isSome_iff_exists, List.find?_isSome,
    beq_iff_eq]

@[simp] theorem getPivotTableFieldOptions_ok {name : GoString} {fields : List PivotTableField} :
    (getPivotTableFieldOptions name fields).2 = true ↔ name ∈ dataNames fields := by
  rw [mem_dataNames_iff_find?, getPivotTableFieldOptions]
  cases fields.find? (·.data == name) <;> simp

/-! ## Display names

A display name longer than `MaxFieldLength` bytes is cut to that many bytes (`fld.Name[:n]`
slices bytes, not characters). -/

/-- `MaxFieldLength` is declared outside `src/`; the doc comment of `PivotTableField` gives its
value, 255. -/
def MaxFieldLength : Nat := 255

/-- The loop body of `getPivotTableFieldsName`: one display name, truncated. -/
def truncatedName (fld : PivotTableField) : GoString :=
  if fld.name.length > MaxFieldLength then fld.name.take MaxFieldLength else fld.name

/-- A display name keeps its first `MaxFieldLength` bytes, all of them when it has no more. -/
theorem truncatedName_eq_take (fld : PivotTableField) :
    truncatedName fld = fld.name.take MaxFieldLength := by
  unfold truncatedName
  split_ifs with h
  · rfl
  · exact (List.take_of_length_le (Nat.le_of_not_lt h)).symm

/-- `getPivotTableFieldsName`: the truncated display names, position for position. -/
def getPivotTableFieldsName (fields : List PivotTableField) : List GoString :=
  fields.map truncatedName

/-- `getPivotTableFieldName`: the truncated display name of the first entry whose `Data` is
`name`, or `""`. -/
def getPivotTableFieldName (name : GoString) (fields : List PivotTableField) : GoString :=
  match (fields.zip (getPivotTableFieldsName fields)).find? (·.1.data == name) with
  | some (_, n) => n
  | none => []

/-- `getPivotTableFieldName` reads the name off the entry `getPivotTableFieldOptions` finds. -/
theorem getPivotTableFieldName_eq (name : GoString) (fields : List PivotTableField) :
    getPivotTableFieldName name fields =
      ((fields.find? (·.data == name)).map truncatedName).getD [] := by
  unfold getPivotTableFieldName getPivotTableFieldsName
  induction fields with
  | nil => rfl
  | cons e es ih =>
    by_cases h : e.data = name
    · simp [h]
    · simpa [List.find?_cons, h] using ih

/-! ## Aggregations -/

/-- The aggregation names `getPivotTableFieldsSubtotal` accepts. -/
def subtotalEnums : List GoString :=
  ["average", "count", "countNums", "max", "min", "product", "stdDev", "stdDevp", "sum", "var",
    "varp"].map utf8

/-- The closure `inEnums` of `getPivotTableFieldsSubtotal`: the first enum equal to `val` up to
case, else `sum`. -/
def inEnums (enums : List GoString) (val : GoString) : GoString :=
  (enums.find? (fun enum => equalFold enum val)).getD (utf8 "sum")

/-- `getPivotTableFieldsSubtotal`: the normalised aggregation of each field, position for
position. -/
def getPivotTableFieldsSubtotal (fields : List PivotTableField) : List GoString :=
  fields.map fun fld => inEnums subtotalEnums fld.subtotal

example : inEnums subtotalEnums (utf8 "AVERAGE") = utf8 "average" := by decide
example : inEnums subtotalEnums (utf8 "bogus") = utf8 "sum" := by decide

/-! ## Header positions -/

/-- `inStrSlice` (declared outside `src/`), called here with `caseSensitive = true` — the first
position of `x` in `a`, or `-1`. -/
def inStrSlice (a : List GoString) (x : GoString) : Int :=
  if x ∈ a then a.indexOf x else -1

theorem inStrSlice_of_mem {a : List GoString} {x : GoString} (h : x ∈ a) :
    inStrSlice a x = a.indexOf x := if_pos h

theorem inStrSlice_of_not_mem {a : List GoString} {x : GoString} (h : x ∉ a) :
    inStrSlice a x = -1 := if_neg h

end Excelize
