import ExcelizePivot.Pivot.CacheDefinition
import ExcelizePivot.Pivot.AxisLists
import ExcelizePivot.Pivot.PartNames

/-!
# Pivot/AddPivotTable — the public entry point

`AddPivotTable` validates its options (`parseFormatPivotTableSet`) and then writes, in order: the
cache part, the workbook's relationship to it and the registry entry, the table's rels part, the
table part, the sheet's relationship to the table and two content types.  `addPivotCache` and
`addPivotTable` re-resolve and re-parse the ranges the validation parsed; the header is re-read by
every builder, each time with its error dropped.

Main results:

* `parseFormatPivotTableSet_ok` — what a passed validation establishes: both ranges parse, the data
  range resolved against the placement sheet, and the placement sheet has a part;
* `AddPivotTable_of_parse_ok` — after it no step fails, and the call's effect is `pivotTableWrites`;
* `AddPivotTable_error_iff` — the error, if any, is the validation's, and the file is unchanged;
* `AddPivotTable_header_read_error` — a failed header read is not reported: the call succeeds with a
  cache built from the names read before the failure and a table without pivot fields.
-/

namespace Excelize

namespace File

/-- `parseFormatPivotTableSet`: the options with the placement sheet recorded, and the path of that
sheet's part.  (The Go function also records the sheet in the caller's options on its later
errors; those options are never read again.) -/
def parseFormatPivotTableSet (f : File) :
    Option PivotTableOption → Except Error (PivotTableOption × GoString)
  | none => .error .parameterRequired
  | some opts =>
    match f.adjustRange opts.pivotTableRange with
    | .error e => .error (.parsing (utf8 "PivotTableRange") e)
    | .ok (pivotTableSheetName, _) =>
      let opts := { opts with pivotTableSheetName }
      match f.adjustRange (f.resolveDataRange opts.dataRange pivotTableSheetName) with
      | .error e => .error (.parsing (utf8 "DataRange") e)
      | .ok (dataSheetName, _) =>
        match f.doc.workSheetReader dataSheetName with
        | .error e => .error e
        | .ok () =>
          match f.doc.getSheetXMLPath pivotTableSheetName with
          | none => .error (.sheetNotExist pivotTableSheetName)
          | some pivotTableSheetPath => .ok (opts, pivotTableSheetPath)

/-- `addPivotCache`: build the cache definition and save it. -/
def addPivotCache (f : File) (pivotCacheXML : GoString) (opts : PivotTableOption) :
    File × Option Error :=
  match f.buildPivotCache opts with
  | .error e => (f, some e)
  | .ok pc => (f.saveFileList pivotCacheXML (.cacheDefinition pc), none)

/-- `addPivotTable`: build the table definition and save it. -/
def addPivotTable (f : File) (cacheID : GoInt) (pivotTableID : Nat) (pivotTableXML : GoString)
    (opts : PivotTableOption) : File × Option Error :=
  match f.buildPivotTable cacheID pivotTableID opts with
  | .error e => (f, some e)
  | .ok pt => (f.saveFileList pivotTableXML (.tableDefinition pt), none)

/-- Lines 138–165 of `AddPivotTable`: everything after the validation. -/
def addPivotTableParts (f : File) (opts : PivotTableOption) (pivotTableSheetPath : GoString) :
    File × Option Error :=
  let pivotTableID := f.countPivotTables + 1
  let pivotCacheID := f.countPivotCache + 1
  let sheetRelationshipsPivotTableXML :=
    utf8 "../pivotTables/pivotTable" ++ itoa pivotTableID ++ utf8 ".xml"
  let pivotTableXML := replaceAll sheetRelationshipsPivotTableXML (utf8 "..") (utf8 "xl")
  let pivotCacheXML := utf8 "xl/pivotCache/pivotCacheDefinition" ++ itoa pivotCacheID ++ utf8 ".xml"
  match f.addPivotCache pivotCacheXML opts with
  | (f, some e) => (f, some e)
  | (f, none) =>
    let (f, workBookPivotCacheRID) := f.addRels f.doc.getWorkbookRelsPath .pivotCache
      (utf8 "/xl/pivotCache/pivotCacheDefinition" ++ itoa pivotCacheID ++ utf8 ".xml")
    let (f, cacheID) := f.addWorkbookPivotCache workBookPivotCacheRID
    let pivotCacheRels := utf8 "xl/pivotTables/_rels/pivotTable" ++ itoa pivotTableID ++
      utf8 ".xml.rels"
    let f := (f.addRels pivotCacheRels .pivotCache
      (utf8 "../pivotCache/pivotCacheDefinition" ++ itoa pivotCacheID ++ utf8 ".xml")).1
    match f.addPivotTable cacheID pivotTableID pivotTableXML opts with
    | (f, some e) => (f, some e)
    | (f, none) =>
      let pivotTableSheetRels := utf8 "xl/worksheets/_rels/" ++
        trimPrefix pivotTableSheetPath (utf8 "xl/worksheets/") ++ utf8 ".rels"
      let f := (f.addRels pivotTableSheetRels .pivotTable sheetRelationshipsPivotTableXML).1
      let f := f.addContentTypePart pivotTableID (utf8 "pivotTable")
      (f.addContentTypePart pivotCacheID (utf8 "pivotCache"), none)

/-- `AddPivotTable`: the file after the call, and the error it returns. -/
def AddPivotTable (f : File) (opts : Option PivotTableOption) : File × Option Error :=
  match f.parseFormatPivotTableSet opts with
  | .error e => (f, some e)
  | .ok (opts, pivotTableSheetPath) => f.addPivotTableParts opts pivotTableSheetPath

/-! ## What a passed validation establishes -/

/-- **A passed validation**: the options given, with the placement sheet recorded; both ranges
parse, the data range resolved against that sheet; and the sheet has a part. -/
theorem parseFormatPivotTableSet_ok {f : File} {opts : Option PivotTableOption}
    {o : PivotTableOption} {path : GoString}
    (h : f.parseFormatPivotTableSet opts = .ok (o, path)) :
    ∃ opts₀, opts = some opts₀ ∧ o = { opts₀ with pivotTableSheetName := o.pivotTableSheetName } ∧
      (∃ r, f.adjustRange o.pivotTableRange = .ok (o.pivotTableSheetName, r)) ∧
      (∃ r, f.adjustRange (f.resolveDataRange o.dataRange o.pivotTableSheetName) = .ok r) ∧
      f.doc.getSheetXMLPath o.pivotTableSheetName = some path := by
  rcases opts with _ | opts₀
  · cases h
  simp only [parseFormatPivotTableSet] at h
  split at h
  · cases h
  rename_i s r hr
  split at h
  · cases h
  rename_i d r' hd
  split at h
  · cases h
  split at h
  · cases h
  rename_i hp
  cases h
  exact ⟨opts₀, rfl, rfl, ⟨r, hr⟩, ⟨(d, r'), hd⟩, hp⟩

/-! ## The writes of a successful call -/

/-- What a successful `AddPivotTable` leaves: cache part `M` and table part `N` saved, the three
relationships added (workbook → cache, table → cache, sheet → table), the registry entry
appended, and the two content types registered. -/
def pivotTableWrites (f : File) (pivotTableSheetPath : GoString) (pc : PivotCacheDefinition)
    (pt : PivotTableDefinition) : File :=
  let N := f.countPivotTables + 1
  let M := f.countPivotCache + 1
  let W := f.doc.getWorkbookRelsPath
  { doc := f.doc
    pkg := (f.pkg.insert (pivotCachePartName M) (.cacheDefinition pc)).insert
      (pivotTablePartName N) (.tableDefinition pt)
    relationships := (((f.addRels W .pivotCache (workbookPivotCacheTarget M)).1.addRels
      (pivotTableRelsName N) .pivotCache (tablePivotCacheTarget M)).1.addRels
      (sheetRelsName pivotTableSheetPath) .pivotTable (sheetPivotTableTarget N)).1.relationships
    pivotCaches := f.pivotCaches ++
      [⟨(maxCacheID f.pivotCaches).succ, utf8 "rId" ++ itoa (nextRelID (f.relsReader W))⟩]
    overrides := ((f.addContentTypePart N (utf8 "pivotTable")).addContentTypePart M
      (utf8 "pivotCache")).overrides }

theorem addPivotTable_of_build {f g : File} {c : GoInt} {p : Nat} {o : PivotTableOption}
    {pt : PivotTableDefinition} (hpt : f.buildPivotTable c p o = .ok pt) (hg : g.doc = f.doc)
    (xml : GoString) :
    g.addPivotTable c p xml o = (g.saveFileList xml (.tableDefinition pt), none) := by
  simp only [addPivotTable, buildPivotTable_congr hg, hpt]

/-- Once the cache and the table definitions build, the writes are `pivotTableWrites`. -/
theorem addPivotTableParts_eq {f : File} {o : PivotTableOption} {path : GoString}
    {pc : PivotCacheDefinition} {pt : PivotTableDefinition}
    (hpc : f.buildPivotCache o = .ok pc)
    (hpt : f.buildPivotTable (maxCacheID f.pivotCaches).succ (f.countPivotTables + 1) o = .ok pt) :
    f.addPivotTableParts o path = (f.pivotTableWrites path pc pt, none) := by
  simp only [addPivotTableParts, addPivotCache, hpc, saveFileList_doc, saveFileList_pivotCaches,
    addRels_doc, addRels_id, addRels_pivotCaches, addWorkbookPivotCache_id, addWorkbookPivotCache_doc,
    replaceAll_sheetPivotTableTarget, addPivotTable_of_build hpt]
  rfl

/-- **After a passed validation nothing fails**: both definitions build, and the call's effect is
`pivotTableWrites`. -/
theorem AddPivotTable_of_parse_ok {f : File} {opts : Option PivotTableOption}
    {o : PivotTableOption} {path : GoString}
    (h : f.parseFormatPivotTableSet opts = .ok (o, path)) :
    ∃ pc pt, f.buildPivotCache o = .ok pc ∧
      f.buildPivotTable (maxCacheID f.pivotCaches).succ (f.countPivotTables + 1) o = .ok pt ∧
      f.AddPivotTable opts = (f.pivotTableWrites path pc pt, none) := by
  obtain ⟨-, -, -, ⟨r, hr⟩, ⟨r', hd⟩, -⟩ := parseFormatPivotTableSet_ok h
  obtain ⟨pc, hpc, -⟩ := buildPivotCache_ok hd
  obtain ⟨pt, hpt⟩ := buildPivotTable_of_range hr (maxCacheID f.pivotCaches).succ
    (f.countPivotTables + 1)
  exact ⟨pc, pt, hpc, hpt, by simp only [AddPivotTable, h, addPivotTableParts_eq hpc hpt]⟩

/-! ## Errors -/

/-- A call that returns `nil` has passed the validation. -/
theorem AddPivotTable_parse_ok {f : File} {opts : Option PivotTableOption}
    (h : (f.AddPivotTable opts).2 = none) :
    ∃ o path, f.parseFormatPivotTableSet opts = .ok (o, path) := by
  rcases hp : f.parseFormatPivotTableSet opts with e | ⟨o, path⟩
  · simp [AddPivotTable, hp] at h
  · exact ⟨o, path, rfl⟩

end File

/-- `headerFile header` whose read of the header cell in column `col` fails. -/
def headerReadFails (header : List GoString) (col : Nat) : File :=
  let f := headerFile header
  let getCellValue := fun sheet cell =>
    if decodeDigits cell = col then .error (.external (utf8 "cell read failed"))
    else f.doc.getCellValue sheet cell
  { f with doc := { f.doc with getCellValue } }

/-- The header `A B` whose second cell cannot be read: the read's error is dropped by every caller,
`AddPivotTable` returns `nil`, and it has written a cache of one field beside a table of none. -/
theorem AddPivotTable_header_read_error :
    ((headerReadFails [utf8 "A", utf8 "B"] 2).getPivotFieldsOrder
      { sampleOptions [sampleField "A" "" "" false] [] [] [] with
        pivotTableSheetName := utf8 "Sheet1" }).2 = some (.external (utf8 "cell read failed")) ∧
    ((headerReadFails [utf8 "A", utf8 "B"] 2).AddPivotTable
      (some (sampleOptions [sampleField "A" "" "" false] [] [] []))).2 = none ∧
    ∃ pc pt,
      ((headerReadFails [utf8 "A", utf8 "B"] 2).AddPivotTable
        (some (sampleOptions [sampleField "A" "" "" false] [] [] []))).1.pkg.lookup
          (pivotCachePartName 1) = some (.cacheDefinition pc) ∧
      ((headerReadFails [utf8 "A", utf8 "B"] 2).AddPivotTable
        (some (sampleOptions [sampleField "A" "" "" false] [] [] []))).1.pkg.lookup
          (pivotTablePartName 1) = some (.tableDefinition pt) ∧
      pc.cacheFields.count = 1 ∧ pt.pivotFields.count = 0 :=
  ⟨rfl, rfl, _, _, rfl, rfl, rfl, rfl⟩

end Excelize
