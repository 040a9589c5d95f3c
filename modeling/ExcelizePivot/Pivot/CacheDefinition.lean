import ExcelizePivot.Pivot.PivotFields
import ExcelizePivot.Pivot.AdjustRange

/-!
# Pivot/CacheDefinition — the pivot-cache definition `addPivotCache` builds

`buildPivotCache` is `addPivotCache` up to its `xml.Marshal`: the source reference (the defined
name when the data range was one, else the resolved cell range), and one cache field per header
name.  The header is read with its error dropped (`order, _ :=`), so a failed read leaves the cache
with the names read before it.

A cache field is itemized — one empty shared item — exactly when Rows or Columns turns the name's
default subtotal off (`cacheFieldOf_eq`); unlike `pivotFieldOf`, this test gives neither
list precedence.
-/

namespace Excelize

/-- The loop body of `addPivotCache`: the cache field of one header name. -/
def cacheFieldOf (opts : PivotTableOption) (name : GoString) : CacheField :=
  let (rowOptions, rowOk) := getPivotTableFieldOptions name opts.rows
  let (columnOptions, colOk) := getPivotTableFieldOptions name opts.columns
  if (rowOk && !rowOptions.defaultSubtotal) || (colOk && !columnOptions.defaultSubtotal) then
    ⟨name, ⟨1, some []⟩⟩
  else ⟨name, ⟨0, none⟩⟩

/-- **The cache itemizes a name** exactly when Rows or Columns turns its subtotal off. -/
theorem cacheFieldOf_eq (opts : PivotTableOption) (name : GoString) :
    cacheFieldOf opts name = ⟨name,
      if turnsSubtotalOff opts.rows name || turnsSubtotalOff opts.columns name then ⟨1, some []⟩
      else ⟨0, none⟩⟩ := by
  unfold cacheFieldOf turnsSubtotalOff
  rcases getPivotTableFieldOptions name opts.rows with ⟨_, _⟩
  rcases getPivotTableFieldOptions name opts.columns with ⟨_, _⟩
  dsimp only
  split <;> rfl

@[simp] theorem cacheFieldOf_name (opts : PivotTableOption) (name : GoString) :
    (cacheFieldOf opts name).name = name := by
  rw [cacheFieldOf_eq]

namespace File

/-- `addPivotCache` up to `xml.Marshal`: the definition it builds, or the error of re-parsing the
data range. -/
def buildPivotCache (f : File) (opts : PivotTableOption) : Except Error PivotCacheDefinition :=
  let definedNameRef := f.doc.getDefinedNameRefTo opts.dataRange opts.pivotTableSheetName ≠ []
  match f.adjustRange (f.resolveDataRange opts.dataRange opts.pivotTableSheetName) with
  | .error e => .error (.parsing (utf8 "DataRange") e)
  | .ok (dataSheet, x1, y1, x2, y2) =>
    let order := (f.getPivotFieldsOrder opts).1
    let hCell := f.doc.coordinatesToCellName x1 y1
    let vCell := f.doc.coordinatesToCellName x2 y2
    let cacheField := order.map (cacheFieldOf opts)
    .ok { saveData := false
          refreshOnLoad := true
          cacheSourceType := utf8 "worksheet"
          worksheetSource := if definedNameRef then ⟨[], [], opts.dataRange⟩
            else ⟨hCell ++ utf8 ":" ++ vCell, dataSheet, []⟩
          cacheFields := ⟨cacheField.length, cacheField⟩ }

/-- **The cache fields**: once the data range parses, one per name the header read returned. -/
theorem buildPivotCache_ok {f : File} {opts : PivotTableOption} {r : GoString × Nat × Nat × Nat × Nat}
    (h : f.adjustRange (f.resolveDataRange opts.dataRange opts.pivotTableSheetName) = .ok r) :
    ∃ pc, f.buildPivotCache opts = .ok pc ∧
      pc.cacheFields = ⟨(f.getPivotFieldsOrder opts).1.length,
        (f.getPivotFieldsOrder opts).1.map (cacheFieldOf opts)⟩ := by
  obtain ⟨s, x1, y1, x2, y2⟩ := r
  simp only [buildPivotCache, h, List.length_map]
  exact ⟨_, rfl, rfl⟩

/-- The source is the defined name the data range names, or else the range itself: its sheet and
its corners as `adjustRange` orders them. -/
theorem buildPivotCache_source {f : File} {opts : PivotTableOption} {pc : PivotCacheDefinition}
    (h : f.buildPivotCache opts = .ok pc) :
    ∃ s x1 y1 x2 y2,
      f.adjustRange (f.resolveDataRange opts.dataRange opts.pivotTableSheetName) =
        .ok (s, x1, y1, x2, y2) ∧
      pc.worksheetSource =
        if f.doc.getDefinedNameRefTo opts.dataRange opts.pivotTableSheetName ≠ [] then
          ⟨[], [], opts.dataRange⟩
        else ⟨f.doc.coordinatesToCellName x1 y1 ++ utf8 ":" ++ f.doc.coordinatesToCellName x2 y2,
          s, []⟩ := by
  unfold buildPivotCache at h
  split at h
  · cases h
  rename_i s x1 y1 x2 y2 hr
  cases h
  exact ⟨s, x1, y1, x2, y2, hr, rfl⟩

end File

end Excelize
