import ExcelizePivot.Xlsx.Package
import ExcelizePivot.Pivot.Options

/-!
# Pivot/AdjustRange — range normalisation and the header row

`adjustRange` splits `Sheet!A1:B2` at its one `!`, strips the `$`s, lets `areaRefToCoordinates`
read the corners, rejects a single cell and orders each axis on its own.  Its **normal form**
(`adjustRange_spec`): a range is accepted exactly when it has one `!`, its corners are read and
they differ; the box is then `[min, min, max, max]`.

`getPivotFieldsOrder` resolves the data range (a defined name first), normalises it and reads the
header cells left to right; `getPivotFieldsIndex` maps option entries to their header positions.
Both read the document only through `Doc`, so every write of the pipeline leaves them as they were
(`adjustRange_congr`, `getPivotFieldsOrder_congr`).
-/

namespace Excelize

namespace File

/-- `adjustRange`: the sheet and the corner-ordered box `x1, y1, x2, y2` of `Sheet!A1:B2`. -/
def adjustRange (f : File) (rangeStr : GoString) :
    Except Error (GoString × Nat × Nat × Nat × Nat) :=
  if rangeStr.length < 1 then .error .parameterRequired else
  let rng := rangeStr.splitOn '!'.toUInt8
  if rng.length ≠ 2 then .error .parameterInvalid else
  let trimRng := replaceAll (rng.getD 1 []) (utf8 "$") []
  match f.doc.areaRefToCoordinates trimRng with
  | .error e => .error e
  | .ok (x1, y1, x2, y2) =>
    if x1 = x2 ∧ y1 = y2 then .error .parameterInvalid else
    let (x1, x2) := if x2 < x1 then (x2, x1) else (x1, x2)
    let (y1, y2) := if y2 < y1 then (y2, y1) else (y1, y2)
    .ok (rng.getD 0 [], x1, y1, x2, y2)

@[simp] theorem utf8_bang : utf8 "!" = ['!'.toUInt8] := rfl

/-- The swap of `adjustRange` orders a pair. -/
theorem sort_pair (a b : Nat) : (if b < a then (b, a) else (a, b)) = (min a b, max a b) := by
  by_cases h : b < a
  · simp [h, min_eq_right h.le, max_eq_left h.le]
  · simp [h, min_eq_left (not_lt.1 h), max_eq_right (not_lt.1 h)]

theorem adjustRange_congr {f g : File} (h : f.doc = g.doc) : f.adjustRange = g.adjustRange := by
  funext r; simp only [adjustRange, h]

/-- What `adjustRange` makes of corners read from the address: the degenerate box is rejected,
any other has each axis ordered. -/
def normalBox (s : GoString) : Nat × Nat × Nat × Nat → Except Error (GoString × Nat × Nat × Nat × Nat)
  | (x1, y1, x2, y2) =>
    if x1 = x2 ∧ y1 = y2 then .error .parameterInvalid
    else .ok (s, min x1 x2, min y1 y2, max x1 x2, max y1 y2)

/-- **The unfolding lemma**: a range with one `!` is its address's corners, normalised. -/
theorem adjustRange_append {f : File} {s a : GoString} (hs : '!'.toUInt8 ∉ s)
    (ha : '!'.toUInt8 ∉ a) :
    f.adjustRange (s ++ utf8 "!" ++ a) =
      (f.doc.areaRefToCoordinates (a.filter (· ≠ '$'.toUInt8))).bind (normalBox s) := by
  have hsplit : (s ++ utf8 "!" ++ a).splitOn '!'.toUInt8 = [s, a] := by
    simpa using splitOn_append_singleton '!'.toUInt8 hs ha
  have hdollar : utf8 "$" = ['$'.toUInt8] := rfl
  have hlen : ¬ (s ++ utf8 "!" ++ a).length < 1 := by simp
  simp only [adjustRange, hlen, if_false, hsplit, List.length_cons, List.length_singleton,
    List.getD_cons_succ, List.getD_cons_zero, hdollar, replaceAll_singleton_nil, sort_pair]
  rcases f.doc.areaRefToCoordinates (a.filter (· ≠ '$'.toUInt8)) with e | ⟨x1, y1, x2, y2⟩
  · rfl
  · rfl

/-- A non-empty range without exactly one `!` is invalid. -/
theorem adjustRange_count_ne_one {f : File} {r : GoString} (hr : r ≠ [])
    (h : r.count '!'.toUInt8 ≠ 1) : f.adjustRange r = .error .parameterInvalid := by
  have hlen : ¬ r.length < 1 := by simpa [Nat.lt_one_iff] using hr
  have hsplit : (r.splitOn '!'.toUInt8).length ≠ 2 := by rw [length_splitOn]; omega
  simp [adjustRange, hlen, hsplit]

/-- Counting `!` in `s!a`. -/
theorem count_bang_append (s a : GoString) :
    (s ++ utf8 "!" ++ a).count '!'.toUInt8 = s.count '!'.toUInt8 + 1 + a.count '!'.toUInt8 := by
  rw [List.count_append, List.count_append, utf8_bang, List.count_singleton_self]

/-- Adding or removing `$` in the address does not change the result. -/
theorem adjustRange_dollar (f : File) (s : GoString) {a a' : GoString}
    (h : a.filter (· ≠ '$'.toUInt8) = a'.filter (· ≠ '$'.toUInt8)) :
    f.adjustRange (s ++ utf8 "!" ++ a) = f.adjustRange (s ++ utf8 "!" ++ a') := by
  have hc : a.count '!'.toUInt8 = a'.count '!'.toUInt8 := by
    rw [← List.count_filter (p := (· ≠ '$'.toUInt8)) (by decide), h,
      List.count_filter (by decide)]
  by_cases h1 : s.count '!'.toUInt8 = 0 ∧ a.count '!'.toUInt8 = 0
  · rw [adjustRange_append (List.count_eq_zero.1 h1.1) (List.count_eq_zero.1 h1.2),
      adjustRange_append (List.count_eq_zero.1 h1.1) (List.count_eq_zero.1 (hc ▸ h1.2)), h]
  · rw [adjustRange_count_ne_one (by simp) (by rw [count_bang_append]; omega),
      adjustRange_count_ne_one (by simp) (by rw [count_bang_append]; omega)]

/-- **Range normalisation**.  A range `s!a` with no other `!` is rejected exactly when
the corners read from `a` (its `$`s removed) coincide, and otherwise gives `s` and the box ordered
on each axis; so swapping the corners on one axis, or adding or removing `$`, changes nothing.
Every non-empty range without exactly one `!` is invalid. -/
theorem adjustRange_spec (f : File) :
    (∀ (s a : GoString) (x1 y1 x2 y2 : Nat), '!'.toUInt8 ∉ s → '!'.toUInt8 ∉ a →
      f.doc.areaRefToCoordinates (a.filter (· ≠ '$'.toUInt8)) = .ok (x1, y1, x2, y2) →
      f.adjustRange (s ++ utf8 "!" ++ a) =
        if x1 = x2 ∧ y1 = y2 then .error .parameterInvalid
        else .ok (s, min x1 x2, min y1 y2, max x1 x2, max y1 y2)) ∧
    (∀ (s a a' : GoString) (x1 y1 x2 y2 : Nat), '!'.toUInt8 ∉ s → '!'.toUInt8 ∉ a →
      '!'.toUInt8 ∉ a' →
      f.doc.areaRefToCoordinates (a.filter (· ≠ '$'.toUInt8)) = .ok (x1, y1, x2, y2) →
      (f.doc.areaRefToCoordinates (a'.filter (· ≠ '$'.toUInt8)) = .ok (x2, y1, x1, y2) ∨
        f.doc.areaRefToCoordinates (a'.filter (· ≠ '$'.toUInt8)) = .ok (x1, y2, x2, y1)) →
      f.adjustRange (s ++ utf8 "!" ++ a') = f.adjustRange (s ++ utf8 "!" ++ a)) ∧
    (∀ s a a' : GoString, a.filter (· ≠ '$'.toUInt8) = a'.filter (· ≠ '$'.toUInt8) →
      f.adjustRange (s ++ utf8 "!" ++ a) = f.adjustRange (s ++ utf8 "!" ++ a')) ∧
    (∀ r : GoString, r ≠ [] → r.count '!'.toUInt8 ≠ 1 →
      f.adjustRange r = .error .parameterInvalid) := by
  refine ⟨fun s a x1 y1 x2 y2 hs ha h => ?_, fun s a a' x1 y1 x2 y2 hs ha ha' h h' => ?_,
    fun s a a' h => adjustRange_dollar f s h, fun r hr h => adjustRange_count_ne_one hr h⟩
  · rw [adjustRange_append hs ha, h]; rfl
  · rw [adjustRange_append hs ha, adjustRange_append hs ha', h]
    rcases h' with h' | h' <;> rw [h'] <;>
      simp only [Except.bind, normalBox, min_comm, max_comm, eq_comm]

/-- A document that reads `C5:A2` as the corners `(3, 5)`, `(1, 2)`, and `A5:C2`, the same box
with its columns swapped, as `(1, 5)`, `(3, 2)`. -/
def cornerFile : File where
  doc :=
    { areaRefToCoordinates := fun r =>
        if r = utf8 "C5:A2" then .ok (3, 5, 1, 2)
        else if r = utf8 "A5:C2" then .ok (1, 5, 3, 2) else .error .parameterInvalid
      coordinatesToCellName := fun _ _ => []
      getDefinedNameRefTo := fun _ _ => []
      workSheetReader := fun _ => .ok ()
      getSheetXMLPath := fun _ => none
      getCellValue := fun _ _ => .ok []
      getWorkbookRelsPath := [] }
  pkg := ∅
  relationships := ∅
  pivotCaches := []
  overrides := []

/-- `Sheet1!$C$5:$A$2` is normalised to the box `A2:C5`; swapping its columns or dropping its `$`s
changes nothing, and a second `!` is rejected. -/
theorem adjustRange_spec_corners :
    cornerFile.adjustRange (utf8 "Sheet1" ++ utf8 "!" ++ utf8 "$C$5:$A$2") =
      .ok (utf8 "Sheet1", 1, 2, 3, 5) ∧
    cornerFile.adjustRange (utf8 "Sheet1" ++ utf8 "!" ++ utf8 "$A$5:$C$2") =
      cornerFile.adjustRange (utf8 "Sheet1" ++ utf8 "!" ++ utf8 "$C$5:$A$2") ∧
    cornerFile.adjustRange (utf8 "Sheet1" ++ utf8 "!" ++ utf8 "C5:A2") =
      cornerFile.adjustRange (utf8 "Sheet1" ++ utf8 "!" ++ utf8 "$C$5:$A$2") ∧
    cornerFile.adjustRange (utf8 "Sheet1!C5!A2") = .error .parameterInvalid :=
  ⟨((adjustRange_spec cornerFile).1 (utf8 "Sheet1") (utf8 "$C$5:$A$2") 3 5 1 2 (by decide)
      (by decide) rfl).trans rfl,
    (adjustRange_spec cornerFile).2.1 (utf8 "Sheet1") (utf8 "$C$5:$A$2") (utf8 "$A$5:$C$2") 3 5 1 2
      (by decide) (by decide) (by decide) rfl (.inl rfl),
    (adjustRange_spec cornerFile).2.2.1 _ _ _ (by decide),
    (adjustRange_spec cornerFile).2.2.2 _ (by decide) (by decide)⟩

/-- A document whose `areaRefToCoordinates` reads `A1:B2:!` as the corners `A1`, `B2` — as
`lib.go`'s does, which parses the first two `:`-separated pieces and ignores the rest. -/
def trailingBangFile : File where
  doc :=
    { areaRefToCoordinates := fun r =>
        if r = utf8 "A1:B2:!" then .ok (1, 1, 2, 2) else .error .parameterInvalid
      coordinatesToCellName := fun _ _ => []
      getDefinedNameRefTo := fun _ _ => []
      workSheetReader := fun _ => .ok ()
      getSheetXMLPath := fun _ => none
      getCellValue := fun _ _ => .ok []
      getWorkbookRelsPath := [] }
  pkg := ∅
  relationships := ∅
  pivotCaches := []
  overrides := []

/-- An address whose corners are read but which holds a second `!` is rejected, not normalised. -/
theorem adjustRange_trailing_bang :
    '!'.toUInt8 ∉ utf8 "Sheet1" ∧
    trailingBangFile.doc.areaRefToCoordinates
      ((utf8 "A1:B2:!").filter (· ≠ '$'.toUInt8)) = .ok (1, 1, 2, 2) ∧
    trailingBangFile.adjustRange (utf8 "Sheet1" ++ utf8 "!" ++ utf8 "A1:B2:!") =
      .error .parameterInvalid :=
  ⟨by decide, rfl, rfl⟩

/-- A normalised box is ordered. -/
theorem adjustRange_le {f : File} {r s : GoString} {x1 y1 x2 y2 : Nat}
    (h : f.adjustRange r = .ok (s, x1, y1, x2, y2)) : x1 ≤ x2 ∧ y1 ≤ y2 := by
  unfold adjustRange at h
  simp only [sort_pair] at h
  split_ifs at h
  split at h
  · cases h
  · split_ifs at h
    cases h
    exact ⟨by omega, by omega⟩

/-! ## The header row -/

/-- The data range with a defined name resolved, as `parseFormatPivotTableSet`,
`getPivotFieldsOrder` and `addPivotCache` each compute it: the name's target when
`getDefinedNameRefTo` finds one, the literal range otherwise. -/
def resolveDataRange (f : File) (dataRange sheet : GoString) : GoString :=
  let ref := f.doc.getDefinedNameRefTo dataRange sheet
  if ref = [] then dataRange else ref

/-- The loop of `getPivotFieldsOrder`: read the cells left to right, stopping at the first error
with the names read so far. -/
def readHeaderCells (read : Nat → Except Error GoString) : List Nat → List GoString × Option Error
  | [] => ([], none)
  | col :: cols =>
    match read col with
    | .error e => ([], some e)
    | .ok name =>
      match readHeaderCells read cols with
      | (names, err) => (name :: names, err)

/-- `getPivotFieldsOrder`: the header cells of the data range, left to right, and the first
error. -/
def getPivotFieldsOrder (f : File) (opts : PivotTableOption) : List GoString × Option Error :=
  match f.adjustRange (f.resolveDataRange opts.dataRange opts.pivotTableSheetName) with
  | .error e => ([], some (.parsing (utf8 "DataRange") e))
  | .ok (dataSheet, x1, y1, x2, _) =>
    readHeaderCells (fun col => f.doc.getCellValue dataSheet (f.doc.coordinatesToCellName col y1))
      (List.range' x1 (x2 + 1 - x1))

theorem getPivotFieldsOrder_congr {f g : File} (h : f.doc = g.doc) :
    f.getPivotFieldsOrder = g.getPivotFieldsOrder := by
  funext opts
  simp only [getPivotFieldsOrder, resolveDataRange, adjustRange_congr h, h]

/-- A read of the whole header gives one name per column. -/
theorem length_readHeaderCells {read : Nat → Except Error GoString} {cols : List Nat}
    {order : List GoString} (h : readHeaderCells read cols = (order, none)) :
    order.length = cols.length := by
  induction cols generalizing order with
  | nil => cases h; rfl
  | cons c cs ih =>
    simp only [readHeaderCells] at h
    split at h
    · cases h
    · rcases hr : readHeaderCells read cs with ⟨names, err⟩
      rw [hr] at h
      cases h
      simp [ih hr]

/-- **The header has one name per column of the data range.** -/
theorem getPivotFieldsOrder_length {f : File} {opts : PivotTableOption} {order : List GoString}
    (h : f.getPivotFieldsOrder opts = (order, none)) :
    ∃ s x1 y1 x2 y2, f.adjustRange (f.resolveDataRange opts.dataRange opts.pivotTableSheetName) =
      .ok (s, x1, y1, x2, y2) ∧ x1 ≤ x2 ∧ order.length = x2 - x1 + 1 := by
  unfold getPivotFieldsOrder at h
  split at h
  · cases h
  · rename_i s x1 y1 x2 y2 hr
    refine ⟨s, x1, y1, x2, y2, hr, (adjustRange_le hr).1, ?_⟩
    rw [length_readHeaderCells h, List.length_range']
    have := (adjustRange_le hr).1
    omega

/-- A read that fails stops at the first unreadable cell: the names are the values of the cells
before it, in order, and the error is that cell's. -/
theorem readHeaderCells_of_error {read : Nat → Except Error GoString} {cols : List Nat}
    {order : List GoString} {e : Error} (h : readHeaderCells read cols = (order, some e)) :
    ∃ pre col post, cols = pre ++ col :: post ∧ pre.map read = order.map .ok ∧
      read col = .error e := by
  induction cols generalizing order with
  | nil => cases h
  | cons c cs ih =>
    simp only [readHeaderCells] at h
    split at h
    · rename_i hc
      cases h
      exact ⟨[], c, cs, rfl, rfl, hc⟩
    · rename_i name hc
      rcases hr : readHeaderCells read cs with ⟨names, err⟩
      rw [hr] at h
      cases h
      obtain ⟨pre, col, post, rfl, hpre, hcol⟩ := ih hr
      exact ⟨c :: pre, col, post, rfl, by simp [hc, hpre], hcol⟩

end File

/-! ## Header positions -/

/-- The header positions of the entries of `fields` that the header holds, in declaration order. -/
def fieldPositions (order : List GoString) (fields : List PivotTableField) : List Int :=
  fields.filterMap fun field => if field.data ∈ order then some (order.indexOf field.data) else none

theorem mem_fieldPositions {order : List GoString} {fields : List PivotTableField} {i : Int} :
    i ∈ fieldPositions order fields ↔
      ∃ x ∈ dataNames fields, x ∈ order ∧ i = order.indexOf x := by
  simp only [fieldPositions, List.mem_filterMap, dataNames, List.mem_map]
  constructor
  · rintro ⟨field, hf, hi⟩
    split at hi
    · cases hi; exact ⟨_, ⟨field, hf, rfl⟩, ‹_›, rfl⟩
    · cases hi
  · rintro ⟨_, ⟨field, hf, rfl⟩, hm, rfl⟩
    exact ⟨field, hf, by simp [hm]⟩

/-- Every header position lies in the header. -/
theorem fieldPositions_bound {order : List GoString} {fields : List PivotTableField} {i : Int}
    (h : i ∈ fieldPositions order fields) : 0 ≤ i ∧ i < order.length := by
  obtain ⟨x, -, hx, rfl⟩ := mem_fieldPositions.1 h
  exact ⟨Int.ofNat_nonneg _, Int.ofNat_lt.2 (indexOf_lt_length_iff.2 hx)⟩

namespace File

/-- `getPivotFieldsIndex`: the header position of each entry found in the header. -/
def getPivotFieldsIndex (f : File) (fields : List PivotTableField) (opts : PivotTableOption) :
    List Int × Option Error :=
  match f.getPivotFieldsOrder opts with
  | (_, some e) => ([], some e)
  | (orders, none) =>
    (fields.filterMap fun field =>
      let pos := inStrSlice orders field.data
      if pos ≠ -1 then some pos else none, none)

theorem getPivotFieldsIndex_congr {f g : File} (h : f.doc = g.doc) :
    f.getPivotFieldsIndex = g.getPivotFieldsIndex := by
  unfold getPivotFieldsIndex; rw [getPivotFieldsOrder_congr h]

/-- **`getPivotFieldsIndex` on a header read whole** gives the first header position of each
declared name the header holds. -/
theorem getPivotFieldsIndex_eq {f : File} {opts : PivotTableOption} {order : List GoString}
    (h : f.getPivotFieldsOrder opts = (order, none)) (fields : List PivotTableField) :
    f.getPivotFieldsIndex fields opts = (fieldPositions order fields, none) := by
  simp only [getPivotFieldsIndex, h, fieldPositions, Prod.mk.injEq, and_true]
  congr 1
  funext field
  by_cases hm : field.data ∈ order
  · simp [inStrSlice_of_mem hm, hm]
  · simp [inStrSlice_of_not_mem hm, hm]

end File

end Excelize
