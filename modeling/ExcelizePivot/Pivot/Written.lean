import ExcelizePivot.Pivot.Freshness

/-!
# Pivot/Written — the two definitions a successful call writes

Every `Count` attribute of the definitions `AddPivotTable` marshals counts the elements beside it:
the builders set each count from the list it counts, or start from a count that holds, and the
sections the header read skips keep the skeleton's.  A failed header read is the other case every
caller of the read meets: its error is dropped everywhere, so the call still writes both parts.

* both definitions a successful call writes are exactly counted (`AddPivotTable_counts`), as the
  builders assign each count from the list it counts;
* `getPivotFieldsOrder_of_error` — a failed header read stops at the first unreadable cell, with
  the names of the cells before it;
* `AddPivotTable_of_header_error` — whatever the options and the document, a failed header read
  after a passed validation still writes both parts, the cache over the names read before the
  failure and the table without pivot, row, page or data fields;
* `AddPivotTable_ranges` — the table's location and the cache's source are the caller's ranges
  with each axis ordered, top-left corner first, or the defined name the data range names.
-/

namespace Excelize

/-! ## Counts -/

/-- A `Count` attribute equal to the number of elements it counts. -/
def Counted.Exact {α : Type} (c : Counted α) : Prop := c.count = c.items.length

/-- Every `Count` of a table definition counts its elements: the pivot fields and the items of
each, the row, column, page and data sections that are present, and the row and column items. -/
structure PivotTableDefinition.Counts (pt : PivotTableDefinition) : Prop where
  pivotFields : pt.pivotFields.Exact
  items : ∀ pf ∈ pt.pivotFields.items, ∀ c ∈ pf.items, c.Exact
  rowFields : ∀ c ∈ pt.rowFields, c.Exact
  rowItems : pt.rowItems.Exact
  colFields : ∀ c ∈ pt.colFields, c.Exact
  colItems : pt.colItems.Exact
  pageFields : ∀ c ∈ pt.pageFields, c.Exact
  dataFields : ∀ c ∈ pt.dataFields, c.Exact

/-- Every `Count` of a cache definition counts its elements: the cache fields, and the shared
items of each. -/
structure PivotCacheDefinition.Counts (pc : PivotCacheDefinition) : Prop where
  cacheFields : pc.cacheFields.Exact
  sharedItems : ∀ cf ∈ pc.cacheFields.items, cf.sharedItems.count = cf.sharedItems.s.toList.length

section Builders

variable {α : Type}

/-- The shared loop sets the count of the section it leaves, whatever it was given. -/
theorem appendAxisFields_exact (entry : Nat → Int → α) (indices : List Int)
    (fs : Option (Counted α)) : ∀ c ∈ appendAxisFields entry indices fs, c.Exact := by
  intro c hc
  obtain ⟨s, -, rfl⟩ := Option.mem_map.1 hc
  rfl

theorem colFieldsAfter_exact {fs : Option (Counted Int)} (h : ∀ c ∈ fs, c.Exact)
    (order : List GoString) (opts : PivotTableOption) :
    ∀ c ∈ colFieldsAfter order opts fs, c.Exact := by
  unfold colFieldsAfter
  split_ifs
  · exact h
  all_goals rintro c ⟨⟩; rfl

theorem colFieldsOnError_exact {fs : Option (Counted Int)} (h : ∀ c ∈ fs, c.Exact)
    (opts : PivotTableOption) : ∀ c ∈ colFieldsOnError opts fs, c.Exact := by
  unfold colFieldsOnError
  split_ifs
  · exact h
  all_goals rintro c ⟨⟩; rfl

theorem pivotFieldOf_items_exact (opts : PivotTableOption) (x : GoString) :
    ∀ c ∈ (pivotFieldOf opts x).items, c.Exact := by
  unfold pivotFieldOf subtotalledField
  split_ifs <;> rintro c ⟨⟩ <;> rfl

end Builders

namespace File

/-- **A built table definition is exactly counted**, whatever the header reads give. -/
theorem buildPivotTable_counts {f : File} {c : GoInt} {p : Nat} {opts : PivotTableOption}
    {pt : PivotTableDefinition} (hpt : f.buildPivotTable c p opts = .ok pt) : pt.Counts := by
  obtain ⟨x1, y1, x2, y2, rfl⟩ := buildPivotTable_ok hpt
  rcases h : f.getPivotFieldsOrder opts with ⟨order, _ | e⟩
  · have hitems : ∀ pf ∈ order.map (pivotFieldOf opts), ∀ c ∈ pf.items, c.Exact := by
      intro pf hpf
      obtain ⟨x, -, rfl⟩ := List.mem_map.1 hpf
      exact pivotFieldOf_items_exact opts x
    rw [addPivotTableFields_eq h]
    constructor <;> dsimp only
    case items => exact hitems
    case colFields => exact colFieldsAfter_exact (fun _ h => (by cases h)) _ _
    all_goals first | rfl | exact appendAxisFields_exact _ _ _
  · rw [addPivotTableFields_of_error h]
    constructor <;> dsimp only
    case colFields => exact colFieldsOnError_exact (fun _ h => (by cases h)) _
    all_goals first | rfl | exact fun _ h => (by cases h)

/-- **A built cache definition is exactly counted.** -/
theorem buildPivotCache_counts {f : File} {opts : PivotTableOption} {pc : PivotCacheDefinition}
    (hpc : f.buildPivotCache opts = .ok pc) : pc.Counts := by
  unfold buildPivotCache at hpc
  split at hpc
  · cases hpc
  · cases hpc
    refine ⟨rfl, fun cf hcf => ?_⟩
    obtain ⟨x, -, rfl⟩ := List.mem_map.1 hcf
    rw [cacheFieldOf_eq]
    split <;> rfl

/-- Both definitions a successful call writes are exactly counted. -/
theorem AddPivotTable_counts {f : File} {opts : Option PivotTableOption}
    (h : (f.AddPivotTable opts).2 = none) :
    ∃ pc pt,
      (f.AddPivotTable opts).1.pkg.lookup (pivotCachePartName (f.countPivotCache + 1)) =
        some (.cacheDefinition pc) ∧
      (f.AddPivotTable opts).1.pkg.lookup (pivotTablePartName (f.countPivotTables + 1)) =
        some (.tableDefinition pt) ∧
      pc.Counts ∧ pt.Counts := by
  obtain ⟨o, path, hp⟩ := AddPivotTable_parse_ok h
  obtain ⟨pc, pt, hpc, hpt, hadd⟩ := AddPivotTable_of_parse_ok hp
  rw [hadd]
  exact ⟨pc, pt, lookup_pivotTableWrites_cache, lookup_pivotTableWrites_table,
    buildPivotCache_counts hpc, buildPivotTable_counts hpt⟩

/-! ## A failed header read -/

/-- **A header read that fails** either never started, the data range failing to parse, or stopped
at the first unreadable header cell: the names are the values of the cells before it, in order,
and the error is that cell's. -/
theorem getPivotFieldsOrder_of_error {f : File} {opts : PivotTableOption} {order : List GoString}
    {e : Error} (h : f.getPivotFieldsOrder opts = (order, some e)) :
    (order = [] ∧ ∃ e', f.adjustRange (f.resolveDataRange opts.dataRange opts.pivotTableSheetName) =
      .error e' ∧ e = .parsing (utf8 "DataRange") e') ∨
    ∃ s x1 y1 x2 y2 pre col post,
      f.adjustRange (f.resolveDataRange opts.dataRange opts.pivotTableSheetName) =
        .ok (s, x1, y1, x2, y2) ∧
      List.range' x1 (x2 + 1 - x1) = pre ++ col :: post ∧
      pre.map (fun c => f.doc.getCellValue s (f.doc.coordinatesToCellName c y1)) = order.map .ok ∧
      f.doc.getCellValue s (f.doc.coordinatesToCellName col y1) = .error e := by
  unfold getPivotFieldsOrder at h
  split at h
  · rename_i e' he
    cases h
    exact .inl ⟨rfl, e', he, rfl⟩
  · rename_i s x1 y1 x2 y2 hr
    obtain ⟨pre, col, post, hcols, hpre, hcol⟩ := readHeaderCells_of_error h
    exact .inr ⟨s, x1, y1, x2, y2, pre, col, post, hr, hcols, hpre, hcol⟩

end File

/-- The header `A B` whose second cell cannot be read: the read stops there, after `A`. -/
theorem getPivotFieldsOrder_of_error_sample :
    (headerReadFails [utf8 "A", utf8 "B"] 2).getPivotFieldsOrder
      { sampleOptions [] [] [] [] with pivotTableSheetName := utf8 "Sheet1" } =
      ([utf8 "A"], some (.external (utf8 "cell read failed"))) ∧
    ((headerReadFails [utf8 "A", utf8 "B"] 2).getPivotFieldsOrder
      { sampleOptions [] [] [] [] with pivotTableSheetName := utf8 "Sheet1" }).1 = [utf8 "A"] :=
  have h : (headerReadFails [utf8 "A", utf8 "B"] 2).getPivotFieldsOrder
      { sampleOptions [] [] [] [] with pivotTableSheetName := utf8 "Sheet1" } =
      ([utf8 "A"], some (.external (utf8 "cell read failed"))) := rfl
  ⟨h, (File.getPivotFieldsOrder_of_error h).elim (fun h₀ => absurd h₀.1 (by decide))
    (fun _ => rfl)⟩

namespace File

/-- **A failed header read is never reported.**  Whatever the options and the document, once the
validation passes and the header read fails, the call returns `nil` and writes both parts: the
cache over the names read before the failure, and a table without pivot, row, page or data fields
whose column section is the one the column builder sets before reading the header. -/
theorem AddPivotTable_of_header_error {f : File} {opts : Option PivotTableOption}
    {o : PivotTableOption} {path : GoString} (hp : f.parseFormatPivotTableSet opts = .ok (o, path))
    {order : List GoString} {e : Error} (hh : f.getPivotFieldsOrder o = (order, some e)) :
    (f.AddPivotTable opts).2 = none ∧
    ∃ pc pt,
      (f.AddPivotTable opts).1.pkg.lookup (pivotCachePartName (f.countPivotCache + 1)) =
        some (.cacheDefinition pc) ∧
      (f.AddPivotTable opts).1.pkg.lookup (pivotTablePartName (f.countPivotTables + 1)) =
        some (.tableDefinition pt) ∧
      pc.cacheFields.items.map (·.name) = order ∧
      pt.pivotFields = ⟨0, []⟩ ∧ pt.rowFields = none ∧ pt.colFields = colFieldsOnError o none ∧
      pt.pageFields = none ∧ pt.dataFields = none := by
  obtain ⟨-, -, -, -, ⟨r, hd⟩, -⟩ := parseFormatPivotTableSet_ok hp
  obtain ⟨pc', hpc', hcf⟩ := buildPivotCache_ok hd
  obtain ⟨pc, pt, hpc, hpt, hadd⟩ := AddPivotTable_of_parse_ok hp
  obtain rfl : pc' = pc := Except.ok.inj (hpc'.symm.trans hpc)
  obtain ⟨x1, y1, x2, y2, rfl⟩ := buildPivotTable_ok hpt
  rw [hadd, addPivotTableFields_of_error hh]
  refine ⟨rfl, pc', _, lookup_pivotTableWrites_cache, lookup_pivotTableWrites_table, ?_, rfl, rfl,
    rfl, rfl, rfl⟩
  rw [hcf, hh, List.map_map]
  exact List.map_id'' (fun _ => cacheFieldOf_name _ _) _

/-! ## The two ranges

The table's location and the cache's source are read back from the caller's `PivotTableRange` and
`DataRange` by `adjustRange`, after the validation parsed them once: so they are the caller's
ranges with each axis ordered, top-left corner first, or, for a data range that is a defined name,
that name. -/

/-- **The written parts name the caller's ranges, normalised.**  After a successful call, the new
table's location is the placement box with its top-left corner first, and the new cache's source
is the data box, top-left first, on the sheet the data range names, or, when the data range is a
defined name of the placement sheet, that name alone. -/
theorem AddPivotTable_ranges {f : File} {opts : Option PivotTableOption}
    (h : (f.AddPivotTable opts).2 = none) :
    ∃ o pc pt sheet x1 y1 x2 y2, opts = some o ∧
      (f.AddPivotTable opts).1.pkg.lookup (pivotCachePartName (f.countPivotCache + 1)) =
        some (.cacheDefinition pc) ∧
      (f.AddPivotTable opts).1.pkg.lookup (pivotTablePartName (f.countPivotTables + 1)) =
        some (.tableDefinition pt) ∧
      f.adjustRange o.pivotTableRange = .ok (sheet, x1, y1, x2, y2) ∧ x1 ≤ x2 ∧ y1 ≤ y2 ∧
      pt.location.ref =
        f.doc.coordinatesToCellName x1 y1 ++ utf8 ":" ++ f.doc.coordinatesToCellName x2 y2 ∧
      (f.doc.getDefinedNameRefTo o.dataRange sheet ≠ [] →
        pc.worksheetSource = ⟨[], [], o.dataRange⟩) ∧
      (f.doc.getDefinedNameRefTo o.dataRange sheet = [] → ∃ d u1 v1 u2 v2,
        f.adjustRange o.dataRange = .ok (d, u1, v1, u2, v2) ∧ u1 ≤ u2 ∧ v1 ≤ v2 ∧
        pc.worksheetSource =
          ⟨f.doc.coordinatesToCellName u1 v1 ++ utf8 ":" ++ f.doc.coordinatesToCellName u2 v2,
            d, []⟩) := by
  obtain ⟨o, path, hp⟩ := AddPivotTable_parse_ok h
  obtain ⟨o₀, rfl, ho, ⟨r, hr⟩, -, -⟩ := parseFormatPivotTableSet_ok hp
  have hrange : o.pivotTableRange = o₀.pivotTableRange := congrArg (·.pivotTableRange) ho
  have hdata : o.dataRange = o₀.dataRange := congrArg (·.dataRange) ho
  obtain ⟨pc, pt, hpc, hpt, hadd⟩ := AddPivotTable_of_parse_ok hp
  obtain ⟨s, x1, y1, x2, y2, hs, hloc⟩ := buildPivotTable_location hpt
  obtain ⟨d, u1, v1, u2, v2, hd, hsrc⟩ := buildPivotCache_source hpc
  obtain rfl : s = o.pivotTableSheetName := by
    rw [hr] at hs
    cases hs
    rfl
  rw [hrange] at hs
  rw [hdata] at hd hsrc
  rw [hadd]
  refine ⟨o₀, pc, pt, _, x1, y1, x2, y2, rfl, lookup_pivotTableWrites_cache,
    lookup_pivotTableWrites_table, hs, (adjustRange_le hs).1, (adjustRange_le hs).2, by rw [hloc],
    fun hn => ?_, fun hn => ?_⟩
  · rw [hsrc, if_pos hn]
  · rw [resolveDataRange, if_pos hn] at hd
    exact ⟨d, u1, v1, u2, v2, hd, (adjustRange_le hd).1, (adjustRange_le hd).2,
      by rw [hsrc, if_neg (not_not.2 hn)]⟩

theorem AddPivotTable_ranges_sales :
    ((headerFile salesHeader).AddPivotTable (some salesOptions)).2 = none ∧
    ∃ o pc pt sheet x1 y1 x2 y2, some salesOptions = some o ∧
      ((headerFile salesHeader).AddPivotTable (some salesOptions)).1.pkg.lookup
        (pivotCachePartName ((headerFile salesHeader).countPivotCache + 1)) =
        some (.cacheDefinition pc) ∧
      ((headerFile salesHeader).AddPivotTable (some salesOptions)).1.pkg.lookup
        (pivotTablePartName ((headerFile salesHeader).countPivotTables + 1)) =
        some (.tableDefinition pt) ∧
      (headerFile salesHeader).adjustRange o.pivotTableRange = .ok (sheet, x1, y1, x2, y2) ∧
      x1 ≤ x2 ∧ y1 ≤ y2 ∧
      pt.location.ref = (headerFile salesHeader).doc.coordinatesToCellName x1 y1 ++ utf8 ":" ++
        (headerFile salesHeader).doc.coordinatesToCellName x2 y2 ∧
      ((headerFile salesHeader).doc.getDefinedNameRefTo o.dataRange sheet ≠ [] →
        pc.worksheetSource = ⟨[], [], o.dataRange⟩) ∧
      ((headerFile salesHeader).doc.getDefinedNameRefTo o.dataRange sheet = [] →
        ∃ d u1 v1 u2 v2,
        (headerFile salesHeader).adjustRange o.dataRange = .ok (d, u1, v1, u2, v2) ∧
        u1 ≤ u2 ∧ v1 ≤ v2 ∧
        pc.worksheetSource = ⟨(headerFile salesHeader).doc.coordinatesToCellName u1 v1 ++
          utf8 ":" ++ (headerFile salesHeader).doc.coordinatesToCellName u2 v2, d, []⟩) :=
  ⟨rfl, AddPivotTable_ranges rfl⟩

end File

/-- The header `A B` whose second cell cannot be read, on the options of
`AddPivotTable_header_read_error`: the cache names `A` alone. -/
theorem AddPivotTable_of_header_error_sample :
    (headerReadFails [utf8 "A", utf8 "B"] 2).parseFormatPivotTableSet
        (some (sampleOptions [sampleField "A" "" "" false] [] [] [])) =
      .ok ({ sampleOptions [sampleField "A" "" "" false] [] [] [] with
        pivotTableSheetName := utf8 "Sheet1" }, utf8 "xl/worksheets/sheet1.xml") ∧
    (headerReadFails [utf8 "A", utf8 "B"] 2).getPivotFieldsOrder
        { sampleOptions [sampleField "A" "" "" false] [] [] [] with
          pivotTableSheetName := utf8 "Sheet1" } =
      ([utf8 "A"], some (.external (utf8 "cell read failed"))) ∧
    ((headerReadFails [utf8 "A", utf8 "B"] 2).AddPivotTable
      (some (sampleOptions [sampleField "A" "" "" false] [] [] []))).2 = none :=
  have hp : (headerReadFails [utf8 "A", utf8 "B"] 2).parseFormatPivotTableSet
      (some (sampleOptions [sampleField "A" "" "" false] [] [] [])) =
      .ok ({ sampleOptions [sampleField "A" "" "" false] [] [] [] with
        pivotTableSheetName := utf8 "Sheet1" }, utf8 "xl/worksheets/sheet1.xml") := rfl
  have hh : (headerReadFails [utf8 "A", utf8 "B"] 2).getPivotFieldsOrder
      { sampleOptions [sampleField "A" "" "" false] [] [] [] with
        pivotTableSheetName := utf8 "Sheet1" } =
      ([utf8 "A"], some (.external (utf8 "cell read failed"))) := rfl
  ⟨hp, hh, (File.AddPivotTable_of_header_error hp hh).1⟩

end Excelize
