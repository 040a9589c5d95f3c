import Mathlib.Data.List.Forall2
import ExcelizePivot.Pivot.AddPivotTable

/-!
# Pivot/Alignment — the cache part and the table part agree field by field

`addPivotCache` and `addPivotFields` classify each header name separately.  The cache itemizes a name
(one empty shared item) when Rows *or* Columns turns its subtotal off (`cacheFieldOf_eq`).  The
table applies Rows, then Filter, then Columns, and gives the index item when the first list that
holds the name turns the subtotal off (`pivotFieldOf_indexItem`).  The two tests differ only on a
Columns name that turns the subtotal off but is also a Rows name (with the subtotal on) or a Filter
name.

`AddPivotTable_cache_aligned` is the agreement of the two parts `AddPivotTable` writes: on a header
read whole, both have one field per header cell, and they agree on which fields are itemized
exactly when no header name falls in that one case (`cacheFieldOf_agrees_iff`).
-/

namespace Excelize

/-- **Where the two classifications agree**: the cache itemizes a name exactly when the table
gives it the index item, unless Columns turns its subtotal off, Rows does not, and the name is a
Rows or a Filter name. -/
theorem cacheFieldOf_agrees_iff (opts : PivotTableOption) (x : GoString) :
    ((cacheFieldOf opts x).sharedItems = ⟨1, some []⟩ ↔
      (pivotFieldOf opts x).items = some ⟨1, [indexItem]⟩) ↔
    (turnsSubtotalOff opts.columns x = true → turnsSubtotalOff opts.rows x = false →
      x ∉ dataNames opts.rows ∧ x ∉ dataNames opts.filter) := by
  rw [cacheFieldOf_eq, pivotFieldOf_indexItem]
  cases hr : turnsSubtotalOff opts.rows x <;> cases hc : turnsSubtotalOff opts.columns x <;>
    simp

namespace File

/-- **The cache and the table agree, and exactly where**: once the validation has passed, on a
header read whole (`order`), the cache part and the table part `AddPivotTable` writes each hold one
field per cell of the header row of the normalized data range, and the `i`-th cache field is named
by the `i`-th cell.  Field by field, the cache itemizes a field exactly when the table gives it the
index item, if and only if no header name is one that Columns turns the subtotal off for, Rows does
not, and that is a Rows or a Filter name. -/
theorem AddPivotTable_cache_aligned {f : File} {opts : Option PivotTableOption}
    {o : PivotTableOption} {path : GoString} {order : List GoString}
    (hp : f.parseFormatPivotTableSet opts = .ok (o, path))
    (h : f.getPivotFieldsOrder o = (order, none)) :
    ∃ pc pt,
      (f.AddPivotTable opts).1.pkg.lookup (pivotCachePartName (f.countPivotCache + 1)) =
        some (.cacheDefinition pc) ∧
      (f.AddPivotTable opts).1.pkg.lookup (pivotTablePartName (f.countPivotTables + 1)) =
        some (.tableDefinition pt) ∧
      (∃ s x1 y1 x2 y2,
        f.adjustRange (f.resolveDataRange o.dataRange o.pivotTableSheetName) =
          .ok (s, x1, y1, x2, y2) ∧
        pc.cacheFields.count = x2 - x1 + 1 ∧ pt.pivotFields.count = x2 - x1 + 1) ∧
      pc.cacheFields.items.map (·.name) = order ∧
      (List.Forall₂
        (fun c p => c.sharedItems = ⟨1, some []⟩ ↔ p.items = some ⟨1, [indexItem]⟩)
        pc.cacheFields.items pt.pivotFields.items ↔
      ∀ x ∈ order, turnsSubtotalOff o.columns x = true → turnsSubtotalOff o.rows x = false →
        x ∉ dataNames o.rows ∧ x ∉ dataNames o.filter) := by
  obtain ⟨pc, pt, hpc, hpt, hadd⟩ := AddPivotTable_of_parse_ok hp
  obtain ⟨s, x1, y1, x2, y2, hd, -, hlen⟩ := getPivotFieldsOrder_length h
  obtain ⟨pc', hpc', hfields⟩ := buildPivotCache_ok hd
  obtain rfl : pc = pc' := Except.ok.inj (hpc.symm.trans hpc')
  obtain ⟨-, hpf, -⟩ := buildPivotTable_eq h hpt
  rw [h] at hfields
  refine ⟨pc, pt, ?_, ?_, ⟨s, x1, y1, x2, y2, hd, ?_, ?_⟩, ?_, ?_⟩
  · rw [hadd, pivotTableWrites, AList.lookup_insert_ne (pivotCachePartName_ne_pivotTablePartName _ _),
      AList.lookup_insert]
  · rw [hadd, pivotTableWrites, AList.lookup_insert]
  · rw [hfields, ← hlen]
  · rw [hpf, ← hlen]
  · simp [hfields, Function.comp_def]
  · rw [hfields, hpf, List.forall₂_map_left_iff, List.forall₂_map_right_iff, List.forall₂_same]
    exact forall₂_congr fun x _ => cacheFieldOf_agrees_iff o x

end File

/-- The sales example: the cache and the table agree on every field. -/
theorem AddPivotTable_cache_aligned_sample :
    ∃ pc pt,
      ((headerFile salesHeader).AddPivotTable (some salesOptions)).1.pkg.lookup
        (pivotCachePartName ((headerFile salesHeader).countPivotCache + 1)) =
          some (.cacheDefinition pc) ∧
      ((headerFile salesHeader).AddPivotTable (some salesOptions)).1.pkg.lookup
        (pivotTablePartName ((headerFile salesHeader).countPivotTables + 1)) =
          some (.tableDefinition pt) ∧
      (∃ s x1 y1 x2 y2,
        (headerFile salesHeader).adjustRange ((headerFile salesHeader).resolveDataRange
          salesOptions.dataRange (utf8 "Sheet1")) = .ok (s, x1, y1, x2, y2) ∧
        pc.cacheFields.count = x2 - x1 + 1 ∧ pt.pivotFields.count = x2 - x1 + 1) ∧
      pc.cacheFields.items.map (·.name) = salesHeader ∧
      (List.Forall₂
        (fun c p => c.sharedItems = ⟨1, some []⟩ ↔ p.items = some ⟨1, [indexItem]⟩)
        pc.cacheFields.items pt.pivotFields.items ↔
      ∀ x ∈ salesHeader, turnsSubtotalOff salesOptions.columns x = true →
        turnsSubtotalOff salesOptions.rows x = false →
        x ∉ dataNames salesOptions.rows ∧ x ∉ dataNames salesOptions.filter) :=
  @File.AddPivotTable_cache_aligned (headerFile salesHeader) (some salesOptions)
    { salesOptions with pivotTableSheetName := utf8 "Sheet1" } (utf8 "xl/worksheets/sheet1.xml")
    salesHeader rfl rfl

/-- A Rows name that keeps its subtotal, repeated under Columns with the subtotal off: the cache
itemizes it, while the table gives it the `default` item. -/
theorem cache_itemizes_subtotalled_row :
    ((headerFile [utf8 "A"]).AddPivotTable (some (sampleOptions [sampleField "A" "" "" true]
      [sampleField "A" "" "" false] [] []))).2 = none ∧
    ∃ pc pt,
      ((headerFile [utf8 "A"]).AddPivotTable (some (sampleOptions [sampleField "A" "" "" true]
        [sampleField "A" "" "" false] [] []))).1.pkg.lookup (pivotCachePartName 1) =
          some (.cacheDefinition pc) ∧
      ((headerFile [utf8 "A"]).AddPivotTable (some (sampleOptions [sampleField "A" "" "" true]
        [sampleField "A" "" "" false] [] []))).1.pkg.lookup (pivotTablePartName 1) =
          some (.tableDefinition pt) ∧
      pc.cacheFields.items.map (·.sharedItems) = [⟨1, some []⟩] ∧
      pt.pivotFields.items.map (·.items) = [some ⟨1, [defaultItem]⟩] :=
  ⟨rfl, _, _, rfl, rfl, rfl, rfl⟩

end Excelize
