import ExcelizePivot.Pivot.Freshness
import ExcelizePivot.Pivot.Links

/-!
# Pivot/Invariant — the three numberings stay consistent over every run

`AddPivotTable` uses three numberings: the table sequence (`pivotTable<N>.xml`), the cache sequence
(`pivotCacheDefinition<M>.xml`) and the workbook registry (`cacheId`, with its relationship
`rId<k>`).  `PivotInv f n m` says they are consistent: the table parts are exactly `1 … n` and the
cache parts exactly `1 … m`; the registry's ids are distinct; every table is linked to its cache
(`CacheLinked`) — its `cacheId` names a registry entry, that entry's relationship leads to a cache
part, and that cache is the single pivot-cache target of the table's own rels part; and a sheet of
the document links the table, read as a package reader reads it (`SheetLinked`).

Three clauses beyond these are needed for the invariant to be inductive: relationship ids are
distinct in the workbook's rels part, no rels part is left over for a table number above `n`, and
the workbook's rels part is named like no table's.  Without the second, a left-over rels part gives
the next table two pivot-cache targets (`stale_rels_double_target`).

The invariant is kept in two layers.  `PivotCore`, all of it but the sheet links, is kept by every
successful call whose `cacheId++` does not wrap onto a registered id.  The sheet links also need
the table to be placed on a sheet directly in `xl/worksheets/`: `sheetRelsName` puts a sheet's
relationships under `xl/worksheets/_rels/` followed by the sheet's path after `xl/worksheets/`, so
those of a sheet elsewhere, such as a chartsheet, land in a rels part no reader looks at
(`sheetRelsName_ne_relsPartName`).

Main results:

* `PivotInv.of_noPivotParts` — a package without pivot parts satisfies the invariant at `0, 0`;
* `PivotCore.of_AddPivotTable`, `PivotInv.of_AddPivotTable` — a successful call takes it from
  `n, m` to `n + 1, m + 1`;
* `PivotCore.routes` — under it, a table's two routes to its cache agree.
-/

namespace Excelize

namespace File

/-- Table `i` is linked to a cache: its part holds a definition whose `cacheId` names a registry
entry; that entry's relationship is a workbook relationship to cache part `j ≤ m`; and cache `j` is
the single pivot-cache target of the table's rels part. -/
def CacheLinked (f : File) (m i : Nat) : Prop :=
  ∃ pt, f.pkg.lookup (pivotTablePartName i) = some (.tableDefinition pt) ∧
    ∃ e ∈ f.pivotCaches, e.cacheID = pt.cacheID ∧ ∃ j, 1 ≤ j ∧ j ≤ m ∧
      (∃ r ∈ f.relsReader f.doc.getWorkbookRelsPath, e.rid = utf8 "rId" ++ itoa r.id ∧
        r.type = .pivotCache ∧ r.target = workbookPivotCacheTarget j) ∧
      pivotCacheTargets (f.relsReader (pivotTableRelsName i)) = [tablePivotCacheTarget j]

/-- Table `i` is linked from a sheet: some sheet of the document, read as a package reader reads
it, has a pivot-table relationship to the table's part. -/
def SheetLinked (f : File) (i : Nat) : Prop :=
  ∃ s path, f.doc.getSheetXMLPath s = some path ∧
    pivotTablePartName i ∈ f.linkedParts path .pivotTable

/-- The invariant without the sheet links, with `n` tables and `m` caches. -/
structure PivotCore (f : File) (n m : Nat) : Prop where
  tables : TablesNumbered f.pkg n
  caches : CachesNumbered f.pkg m
  cacheIDs_nodup : (f.pivotCaches.map (·.cacheID)).Nodup
  linked : ∀ i, 1 ≤ i → i ≤ n → CacheLinked f m i
  workbook_ids_nodup : ((f.relsReader f.doc.getWorkbookRelsPath).map (·.id)).Nodup
  no_stale_rels : ∀ i, n < i → f.relsReader (pivotTableRelsName i) = []
  workbook_rels_path : ∀ i, f.doc.getWorkbookRelsPath ≠ pivotTableRelsName i

/-- The three numberings are consistent, with `n` tables and `m` caches, and every table is linked
from a sheet. -/
structure PivotInv (f : File) (n m : Nat) extends PivotCore f n m : Prop where
  sheets : ∀ i, 1 ≤ i → i ≤ n → SheetLinked f i

/-- A package without pivot parts: no table or cache part, an empty registry, no table rels part;
and, as in any package, distinct relationship ids in the workbook's rels part, which is named like
no table's. -/
structure NoPivotParts (f : File) : Prop where
  no_tables : ∀ k ∈ f.pkg.keys, contains k (utf8 "xl/pivotTables/pivotTable") = false
  no_caches : ∀ k ∈ f.pkg.keys, contains k (utf8 "xl/pivotCache/pivotCacheDefinition") = false
  no_registry : f.pivotCaches = []
  no_table_rels : ∀ i, f.relsReader (pivotTableRelsName i) = []
  workbook_ids_nodup : ((f.relsReader f.doc.getWorkbookRelsPath).map (·.id)).Nodup
  workbook_rels_path : ∀ i, f.doc.getWorkbookRelsPath ≠ pivotTableRelsName i

theorem numbered_zero {pkg : AList (fun _ : GoString => Part)} {sub : GoString}
    {name : Nat → GoString} (h : ∀ k ∈ pkg.keys, contains k sub = false) :
    Numbered pkg sub name 0 := by
  unfold Numbered
  rw [List.filter_eq_nil_iff.mpr (fun k hk => by simp [h k hk])]
  rfl

/-- **The base**: a package without pivot parts satisfies the invariant with no tables and no
caches. -/
theorem PivotInv.of_noPivotParts {f : File} (h : NoPivotParts f) : PivotInv f 0 0 where
  tables := numbered_zero h.no_tables
  caches := numbered_zero h.no_caches
  cacheIDs_nodup := by rw [h.no_registry]; exact List.nodup_nil
  linked := fun i h1 h0 => absurd h0 (by omega)
  workbook_ids_nodup := h.workbook_ids_nodup
  no_stale_rels := fun i _ => h.no_table_rels i
  workbook_rels_path := h.workbook_rels_path
  sheets := fun i h1 h0 => absurd h0 (by omega)

/-! ## One call -/

section Step

variable {f : File} {path : GoString} {pc : PivotCacheDefinition} {pt : PivotTableDefinition}

/-- A table there was stays linked to its cache: its part, its registry entry, its workbook
relationship and its rels part are all kept. -/
theorem CacheLinked.pivotTableWrites {m i : Nat} (hl : CacheLinked f m i)
    (hi : i ≠ f.countPivotTables + 1) (hW : f.doc.getWorkbookRelsPath ≠ pivotTableRelsName i) :
    CacheLinked (f.pivotTableWrites path pc pt) (m + 1) i := by
  obtain ⟨pt', hlk, e, he, hid, j, hj1, hjm, ⟨r, hr, hrid, hrt, hrg⟩, htg⟩ := hl
  refine ⟨pt', ?_, e, List.mem_append_left _ he, hid, j, hj1, by omega,
    ⟨r, mem_relsReader_pivotTableWrites hr, hrid, hrt, hrg⟩, ?_⟩
  · rw [lookup_pivotTableWrites_of_ne (by simpa using hi)
      (pivotCachePartName_ne_pivotTablePartName _ _).symm, hlk]
  · rw [relsReader_pivotTableWrites_of_ne hW.symm (by simpa using hi)
      (sheetRelsName_ne_pivotTableRelsName _ _).symm, htg]

/-- The new table is linked: to the registry entry just appended, through the workbook
relationship just added, to the cache just written. -/
theorem cacheLinked_pivotTableWrites_new {o : PivotTableOption}
    (hW : f.doc.getWorkbookRelsPath ≠ pivotTableRelsName (f.countPivotTables + 1))
    (hstale : f.relsReader (pivotTableRelsName (f.countPivotTables + 1)) = [])
    (hpt : f.buildPivotTable (maxCacheID f.pivotCaches).succ (f.countPivotTables + 1) o = .ok pt) :
    CacheLinked (f.pivotTableWrites path pc pt) (f.countPivotCache + 1)
      (f.countPivotTables + 1) := by
  refine ⟨pt, lookup_pivotTableWrites_table, _, List.mem_append_right _ (List.mem_singleton_self _),
    (buildPivotTable_cacheID hpt).symm, f.countPivotCache + 1, by omega, le_rfl,
    ⟨_, workbookRel_mem_pivotTableWrites, rfl, rfl, rfl⟩, ?_⟩
  rw [relsReader_pivotTableWrites_table hW, hstale]
  rfl

/-- A table linked from a sheet stays linked: the document is the same and every rels part keeps
its relationships. -/
theorem SheetLinked.pivotTableWrites {i : Nat} (hl : SheetLinked f i) :
    SheetLinked (f.pivotTableWrites path pc pt) i :=
  let ⟨s, p, hs, hx⟩ := hl
  ⟨s, p, hs, mem_linkedParts_of_subset (prefix_relsReader_pivotTableWrites _).subset hx⟩

/-- The new table is linked from the sheet it is placed on, when that sheet lies directly in
`xl/worksheets/`. -/
theorem sheetLinked_pivotTableWrites_new {s b : GoString}
    (hs : f.doc.getSheetXMLPath s = some (utf8 "xl/worksheets/" ++ b)) (hb : slash ∉ b) :
    SheetLinked (f.pivotTableWrites (utf8 "xl/worksheets/" ++ b) pc pt)
      (f.countPivotTables + 1) :=
  let ⟨_, hr, hrt, hrtg⟩ := @sheetRel_pivotTableWrites f _ pc pt
  ⟨s, _, hs, mem_linkedParts_of_sheetRel hb hr hrt hrtg⟩

/-- **One call's writes keep the core**, one table and one cache further, when the next `cacheId`
does not wrap onto a registered one. -/
theorem PivotCore.of_pivotTableWrites {n m : Nat} {o : PivotTableOption} (hinv : PivotCore f n m)
    (hwrap : ¬ WrapsOntoRegistered f.pivotCaches)
    (hpt : f.buildPivotTable (maxCacheID f.pivotCaches).succ (f.countPivotTables + 1) o = .ok pt) :
    PivotCore (f.pivotTableWrites path pc pt) (n + 1) (m + 1) := by
  have hN : f.countPivotTables = n := hinv.tables.count
  have hM : f.countPivotCache = m := hinv.caches.count
  have hTfresh := hinv.tables.fresh pivotTablePartName_injective contains_pivotTablePartName
  have hCfresh := hinv.caches.fresh pivotCachePartName_injective contains_pivotCachePartName
  have hpkg : (f.pivotTableWrites path pc pt).pkg =
      (f.pkg.insert (pivotCachePartName (m + 1)) (.cacheDefinition pc)).insert
        (pivotTablePartName (n + 1)) (.tableDefinition pt) := by
    rw [← hN, ← hM]; rfl
  refine ⟨?tables, ?caches, ?ids, ?linked, ids_nodup_pivotTableWrites hinv.workbook_ids_nodup,
    ?stale, hinv.workbook_rels_path⟩
  case tables =>
    rw [hpkg]
    exact (hinv.tables.insert_other hCfresh (contains_pivotCachePartName_tables _) _).insert_next
      pivotTablePartName_injective contains_pivotTablePartName _
  case caches =>
    have hT' : pivotTablePartName (n + 1) ∉ (f.pkg.insert (pivotCachePartName (m + 1))
        (.cacheDefinition pc)).keys := by
      rw [keys_insert_of_not_mem hCfresh, List.mem_cons, not_or]
      exact ⟨(pivotCachePartName_ne_pivotTablePartName _ _).symm, hTfresh⟩
    rw [hpkg]
    exact (hinv.caches.insert_next pivotCachePartName_injective contains_pivotCachePartName
      _).insert_other hT' (contains_pivotTablePartName_caches _) _
  case ids =>
    rw [pivotTableWrites_pivotCaches, List.map_append, List.nodup_append]
    refine ⟨hinv.cacheIDs_nodup, List.nodup_singleton _, fun a ha hb => ?_⟩
    obtain ⟨e, he, rfl⟩ := List.mem_map.mp ha
    exact maxCacheID_succ_fresh_iff.2 hwrap e he (List.mem_singleton.mp hb)
  case linked =>
    intro i hi1 hin
    rcases Nat.lt_or_ge i (n + 1) with hlt | hge
    · exact (hinv.linked i hi1 (by omega)).pivotTableWrites (by omega)
        (hinv.workbook_rels_path i)
    · obtain rfl : i = n + 1 := by omega
      have hnew := @cacheLinked_pivotTableWrites_new f path pc pt o
        (hinv.workbook_rels_path _) (hinv.no_stale_rels _ (by omega)) hpt
      rwa [hN, hM] at hnew
  case stale =>
    intro i hi
    rw [relsReader_pivotTableWrites_of_ne (hinv.workbook_rels_path i).symm
      (by rw [hN, Ne, pivotTableRelsName_inj]; omega)
      (sheetRelsName_ne_pivotTableRelsName _ _).symm]
    exact hinv.no_stale_rels i (by omega)

end Step

/-- **A successful call keeps the core**, one table and one cache further, when the next
`cacheId` does not wrap onto a registered one. -/
theorem PivotCore.of_AddPivotTable {f : File} {n m : Nat} {opts : Option PivotTableOption}
    (hinv : PivotCore f n m) (hwrap : ¬ WrapsOntoRegistered f.pivotCaches)
    (h : (f.AddPivotTable opts).2 = none) : PivotCore (f.AddPivotTable opts).1 (n + 1) (m + 1) := by
  obtain ⟨o, path, pc, pt, hpt, hadd⟩ := AddPivotTable_writes h
  rw [hadd]
  exact hinv.of_pivotTableWrites hwrap hpt

/-- **A successful call keeps the invariant**, one table and one cache further, when the next
`cacheId` does not wrap onto a registered one and the sheet `PivotTableRange` names lies directly
in `xl/worksheets/`. -/
theorem PivotInv.of_AddPivotTable {f : File} {n m : Nat} {opts : Option PivotTableOption}
    (hinv : PivotInv f n m) (hwrap : ¬ WrapsOntoRegistered f.pivotCaches)
    (hplace : ∀ o s r path, opts = some o → f.adjustRange o.pivotTableRange = .ok (s, r) →
      f.doc.getSheetXMLPath s = some path →
        ∃ b, path = utf8 "xl/worksheets/" ++ b ∧ slash ∉ b)
    (h : (f.AddPivotTable opts).2 = none) : PivotInv (f.AddPivotTable opts).1 (n + 1) (m + 1) := by
  rcases opts with _ | o
  · cases h
  obtain ⟨s, r, path, o', pc, pt, hr, hs, hpt, hadd⟩ := AddPivotTable_placed h
  obtain ⟨b, rfl, hb⟩ := hplace o s r path rfl hr hs
  have hN : f.countPivotTables = n := hinv.tables.count
  rw [hadd]
  refine ⟨hinv.toPivotCore.of_pivotTableWrites hwrap hpt, fun i h1 hi => ?_⟩
  rcases Nat.lt_or_ge i (n + 1) with hlt | hge
  · exact (hinv.sheets i h1 (by omega)).pivotTableWrites
  · obtain rfl : i = n + 1 := by omega
    rw [← hN]
    exact sheetLinked_pivotTableWrites_new hs hb

/-- **The invariant is inductive**: it holds of a package without pivot parts, and a successful
call takes it from `n` tables and `m` caches to `n + 1` and `m + 1`, when the next `cacheId` does
not wrap onto a registered one and the table is placed on a sheet directly in `xl/worksheets/`. -/
theorem pivotInv_inductive :
    (∀ f : File, NoPivotParts f → PivotInv f 0 0) ∧
    (∀ (f : File) (n m : Nat) (opts : Option PivotTableOption), PivotInv f n m →
      ¬ WrapsOntoRegistered f.pivotCaches →
      (∀ o s r path, opts = some o → f.adjustRange o.pivotTableRange = .ok (s, r) →
        f.doc.getSheetXMLPath s = some path →
          ∃ b, path = utf8 "xl/worksheets/" ++ b ∧ slash ∉ b) →
      (f.AddPivotTable opts).2 = none →
      PivotInv (f.AddPivotTable opts).1 (n + 1) (m + 1)) :=
  ⟨fun _ h => PivotInv.of_noPivotParts h,
    fun _ _ _ _ hinv hwrap hplace h => hinv.of_AddPivotTable hwrap hplace h⟩

/-! ## The two routes from a table to its cache -/

/-- **Under the core both routes agree**: table `i`'s rels part and its `cacheId`, through the
registry and the workbook's relationships, lead to the same cache part `j`. -/
theorem PivotCore.routes {f : File} {n m i : Nat} (hinv : PivotCore f n m) {workbookPart : GoString}
    (hwb : relsPartName workbookPart = f.doc.getWorkbookRelsPath) (h1 : 1 ≤ i) (hi : i ≤ n) :
    ∃ pt j, f.pkg.lookup (pivotTablePartName i) = some (.tableDefinition pt) ∧
      pivotCacheTargets (f.relsReader (pivotTableRelsName i)) = [tablePivotCacheTarget j] ∧
      f.linkedParts (pivotTablePartName i) .pivotCache = [pivotCachePartName j] ∧
      f.registryCachePart workbookPart pt.cacheID = some (pivotCachePartName j) := by
  obtain ⟨pt, hpt, e, he, hce, j, -, -, ⟨r, hr, hrid, hrt, hrtg⟩, htg⟩ :=
    hinv.linked i h1 hi
  refine ⟨pt, j, hpt, htg, ?_, ?_⟩
  · rw [linkedParts_pivotCache, relsPartName_pivotTablePartName, htg, List.map_singleton,
      resolveTarget_tablePivotCacheTarget]
  · have he' := find?_key_eq hinv.cacheIDs_nodup he
    rw [hce] at he'
    have hr' : (f.relsReader (relsPartName workbookPart)).find?
        (fun x => utf8 "rId" ++ itoa x.id = e.rid) = some r := by
      rw [hwb, ← find?_key_eq hinv.workbook_ids_nodup hr]
      congr 1
      funext x
      simp only [hrid, List.append_cancel_left_eq, itoa_inj]
    simp only [registryCachePart, he', hr', Option.bind_eq_bind, Option.some_bind, hrt,
      if_true, hrtg, resolveTarget_workbookPivotCacheTarget]

end File

/-- The sales example's empty package has no pivot parts. -/
theorem headerFile_noPivotParts (header : List GoString) : File.NoPivotParts (headerFile header) where
  no_tables := fun _ hk => absurd hk (List.not_mem_nil _)
  no_caches := fun _ hk => absurd hk (List.not_mem_nil _)
  no_registry := rfl
  no_table_rels := fun _ => rfl
  workbook_ids_nodup := List.nodup_nil
  workbook_rels_path := ne_pivotTableRelsName_of_take
    (by decide : (utf8 "xl/_rels/workbook.xml.rels").take 4 ≠ utf8 "xl/p")

/-- The invariant on the sales example: before the first call, and after it. -/
theorem pivotInv_inductive_sample :
    File.PivotInv (headerFile salesHeader) 0 0 ∧
      File.PivotInv ((headerFile salesHeader).AddPivotTable (some salesOptions)).1 1 1 :=
  have base := File.pivotInv_inductive.1 _ (headerFile_noPivotParts salesHeader)
  ⟨base, File.pivotInv_inductive.2 _ 0 0 (some salesOptions) base
    (File.not_wrapsOntoRegistered fun _ h => absurd h (List.not_mem_nil _))
    (fun _ _ _ _ _ _ hs => ⟨utf8 "sheet1.xml", (Option.some.inj hs).symm, by decide⟩) rfl⟩

/-- A package with no tables, no caches and an empty registry, but a rels part left over for
table 1 that links cache 7. -/
def staleRelsFile : File :=
  { headerFile salesHeader with
    relationships := (∅ : AList (fun _ : GoString => List Relationship)).insert
      (pivotTableRelsName 1) [⟨1, .pivotCache, tablePivotCacheTarget 7⟩] }

/-- The invariant as first stated holds of `staleRelsFile` (no table parts, no cache parts, an
empty registry, so nothing to link), yet after one call table 1's rels part has two pivot-cache
targets. -/
theorem stale_rels_double_target :
    TablesNumbered staleRelsFile.pkg 0 ∧ CachesNumbered staleRelsFile.pkg 0 ∧
    staleRelsFile.pivotCaches = [] ∧
    (staleRelsFile.AddPivotTable (some salesOptions)).2 = none ∧
    pivotCacheTargets ((staleRelsFile.AddPivotTable (some salesOptions)).1.relsReader
      (pivotTableRelsName 1)) = [tablePivotCacheTarget 7, tablePivotCacheTarget 1] :=
  ⟨by decide, by decide, rfl, rfl, rfl⟩

end Excelize
