import ExcelizePivot.Pivot.AdjustRange
import ExcelizePivot.Pivot.PivotFields

/-!
# Pivot/TableDefinition — the pivot-table definition `addPivotTable` builds

`buildPivotTable` is `addPivotTable` up to its `xml.Marshal`: the skeleton (name, cache id,
location, style, the static row and column item skeletons), then `addPivotFields`, the pivot-field
count, and the row, column, page and data builders, each of which re-reads the header.

Row, page and data builders share one loop, `appendAxisFields`: the `idx`-th resolved header index
is paired with the `idx`-th entry of a list built from the *declared* fields.  The column builder
keeps its own body: it creates its section whenever Columns is declared, and decides the `-2`
sentinel from the declared length of Data.

On a header read whole (`getPivotFieldsOrder … = (order, none)`) every builder is one equation
(`addPivotFields_eq`, `addPivotRowFields_eq`, …), and from them each section of the definition is a
function of `order` and the options (`buildPivotTable_eq`).
-/

namespace Excelize

/-- The loop the row, page and data builders share: for the `idx`-th resolved index `i`, create
the section if it is `nil` and append `entry idx i`; then set the count of a section that
exists. -/
def appendAxisFields {α : Type} (entry : Nat → Int → α) (indices : List Int)
    (fs : Option (Counted α)) : Option (Counted α) :=
  let fs := indices.enum.foldl (fun acc p =>
    some ⟨(acc.getD ⟨0, []⟩).count, (acc.getD ⟨0, []⟩).items ++ [entry p.1 p.2]⟩) fs
  fs.map fun s => { s with count := s.items.length }

theorem foldl_append_entries {α : Type} (entry : Nat → Int → α) (l : List (Nat × Int))
    (acc : Option (Counted α)) :
    l.foldl (fun acc p =>
      some ⟨(acc.getD ⟨0, []⟩).count, (acc.getD ⟨0, []⟩).items ++ [entry p.1 p.2]⟩) acc =
      if l = [] then acc
      else some ⟨(acc.getD ⟨0, []⟩).count,
        (acc.getD ⟨0, []⟩).items ++ l.map fun p => entry p.1 p.2⟩ := by
  induction l generalizing acc with
  | nil => rfl
  | cons p ps ih => rw [List.foldl_cons, ih]; split <;> simp_all

/-- **A fresh section** is absent when no index was resolved, and otherwise lists `entry idx i`
for the resolved indices, with its count. -/
theorem appendAxisFields_none {α : Type} (entry : Nat → Int → α) (indices : List Int) :
    appendAxisFields entry indices none =
      if indices = [] then none
      else some ⟨indices.length, indices.enum.map fun p => entry p.1 p.2⟩ := by
  unfold appendAxisFields
  rw [foldl_append_entries]
  by_cases h : indices = [] <;> simp [h]

/-- The column section the column builder leaves, from the one it finds. -/
def colFieldsAfter (order : List GoString) (opts : PivotTableOption)
    (fs : Option (Counted Int)) : Option (Counted Int) :=
  if opts.columns = [] ∧ opts.data.length ≤ 1 then fs
  else
    let field := fieldPositions order opts.columns ++ if 1 < opts.data.length then [-2] else []
    some ⟨field.length, field⟩

/-- The column section the column builder leaves when the header read fails: the lone `-2` it sets
without Columns, and the empty section it creates before reading the header with them. -/
def colFieldsOnError (opts : PivotTableOption) (fs : Option (Counted Int)) : Option (Counted Int) :=
  if opts.columns = [] then (if opts.data.length ≤ 1 then fs else some ⟨1, [-2]⟩) else some ⟨0, []⟩

namespace File

/-- `addPivotFields`: one pivot field per header name, appended to the definition. -/
def addPivotFields (f : File) (pt : PivotTableDefinition) (opts : PivotTableOption) :
    PivotTableDefinition × Option Error :=
  match f.getPivotFieldsOrder opts with
  | (_, some e) => (pt, some e)
  | (order, none) =>
    ({ pt with pivotFields := { pt.pivotFields with
        items := pt.pivotFields.items ++ order.map (pivotFieldOf opts) } }, none)

/-- `addPivotRowFields`. -/
def addPivotRowFields (f : File) (pt : PivotTableDefinition) (opts : PivotTableOption) :
    PivotTableDefinition × Option Error :=
  match f.getPivotFieldsIndex opts.rows opts with
  | (_, some e) => (pt, some e)
  | (rowFieldsIndex, none) =>
    let entry := fun (_ : Nat) (fieldIdx : Int) => fieldIdx
    ({ pt with rowFields := appendAxisFields entry rowFieldsIndex pt.rowFields }, none)

/-- `addPivotPageFields`: the `idx`-th index is named by the `idx`-th Filter entry. -/
def addPivotPageFields (f : File) (pt : PivotTableDefinition) (opts : PivotTableOption) :
    PivotTableDefinition × Option Error :=
  match f.getPivotFieldsIndex opts.filter opts with
  | (_, some e) => (pt, some e)
  | (pageFieldsIndex, none) =>
    let pageFieldsName := getPivotTableFieldsName opts.filter
    let entry := fun idx pageField => (⟨pageFieldsName.getD idx [], pageField⟩ : PageField)
    ({ pt with pageFields := appendAxisFields entry pageFieldsIndex pt.pageFields }, none)

/-- `addPivotDataFields`: the `idx`-th index takes the name and aggregation of the `idx`-th Data
entry. -/
def addPivotDataFields (f : File) (pt : PivotTableDefinition) (opts : PivotTableOption) :
    PivotTableDefinition × Option Error :=
  match f.getPivotFieldsIndex opts.data opts with
  | (_, some e) => (pt, some e)
  | (dataFieldsIndex, none) =>
    let dataFieldsSubtotals := getPivotTableFieldsSubtotal opts.data
    let dataFieldsName := getPivotTableFieldsName opts.data
    let entry := fun idx dataField =>
      (⟨dataFieldsName.getD idx [], dataField, dataFieldsSubtotals.getD idx []⟩ : DataField)
    ({ pt with dataFields := appendAxisFields entry dataFieldsIndex pt.dataFields }, none)

/-- `addPivotColFields`: no section without Columns and with at most one Data entry; a lone `-2`
without Columns; else the Columns positions, then `-2` when more than one Data entry is declared. -/
def addPivotColFields (f : File) (pt : PivotTableDefinition) (opts : PivotTableOption) :
    PivotTableDefinition × Option Error :=
  if opts.columns.length = 0 then
    if opts.data.length ≤ 1 then (pt, none)
    else ({ pt with colFields := some ⟨1, [-2]⟩ }, none)
  else
    let pt := { pt with colFields := some ⟨0, []⟩ }
    match f.getPivotFieldsIndex opts.columns opts with
    | (_, some e) => (pt, some e)
    | (colFieldsIndex, none) =>
      let field := colFieldsIndex ++ if opts.data.length > 1 then [-2] else []
      ({ pt with colFields := some ⟨field.length, field⟩ }, none)

/-- Lines 374–384 of `addPivotTable`: the pivot fields, their count, and the four axis sections,
each step's error dropped. -/
def addPivotTableFields (f : File) (opts : PivotTableOption) (pt : PivotTableDefinition) :
    PivotTableDefinition :=
  let pt := (f.addPivotFields pt opts).1
  let pt := { pt with pivotFields := { pt.pivotFields with count := pt.pivotFields.items.length } }
  let pt := (f.addPivotRowFields pt opts).1
  let pt := (f.addPivotColFields pt opts).1
  let pt := (f.addPivotPageFields pt opts).1
  (f.addPivotDataFields pt opts).1

/-- The definition `addPivotTable` starts from, before any field is added. -/
def pivotTableSkeleton (f : File) (cacheID : GoInt) (pivotTableID : Nat) (opts : PivotTableOption)
    (x1 y1 x2 y2 : Nat) : PivotTableDefinition :=
  let hCell := f.doc.coordinatesToCellName x1 y1
  let vCell := f.doc.coordinatesToCellName x2 y2
  let pivotTableStyle :=
    if opts.pivotTableStyleName = [] then utf8 "PivotStyleLight16" else opts.pivotTableStyleName
  { name := utf8 "Pivot Table" ++ itoa pivotTableID
    cacheID
    dataCaption := utf8 "Values"
    rowGrandTotals := opts.rowGrandTotals
    colGrandTotals := opts.colGrandTotals
    showDrill := opts.showDrill
    useAutoFormatting := opts.useAutoFormatting
    pageOverThenDown := opts.pageOverThenDown
    mergeItem := opts.mergeItem
    compactData := opts.compactData
    showError := opts.showError
    location := ⟨hCell ++ utf8 ":" ++ vCell, 1, 1, 1⟩
    pivotFields := ⟨0, []⟩
    rowFields := none
    rowItems := ⟨1, [2]⟩
    colFields := none
    colItems := ⟨1, [0]⟩
    pageFields := none
    dataFields := none
    pivotTableStyleInfo := ⟨pivotTableStyle, opts.showRowHeaders, opts.showColHeaders,
      opts.showRowStripes, opts.showColStripes, opts.showLastColumn⟩ }

/-- `addPivotTable` up to `xml.Marshal`: the definition it builds, or the error of re-parsing the
placement range. -/
def buildPivotTable (f : File) (cacheID : GoInt) (pivotTableID : Nat) (opts : PivotTableOption) :
    Except Error PivotTableDefinition :=
  match f.adjustRange opts.pivotTableRange with
  | .error e => .error (.parsing (utf8 "PivotTableRange") e)
  | .ok (_, x1, y1, x2, y2) =>
    .ok (f.addPivotTableFields opts (f.pivotTableSkeleton cacheID pivotTableID opts x1 y1 x2 y2))

/-! ## The builders read only the document -/

section Congr

variable {f g : File} (h : f.doc = g.doc)
include h

theorem addPivotFields_congr : f.addPivotFields = g.addPivotFields := by
  unfold addPivotFields; rw [getPivotFieldsOrder_congr h]
theorem addPivotRowFields_congr : f.addPivotRowFields = g.addPivotRowFields := by
  unfold addPivotRowFields; rw [getPivotFieldsIndex_congr h]
theorem addPivotColFields_congr : f.addPivotColFields = g.addPivotColFields := by
  unfold addPivotColFields; rw [getPivotFieldsIndex_congr h]
theorem addPivotPageFields_congr : f.addPivotPageFields = g.addPivotPageFields := by
  unfold addPivotPageFields; rw [getPivotFieldsIndex_congr h]
theorem addPivotDataFields_congr : f.addPivotDataFields = g.addPivotDataFields := by
  unfold addPivotDataFields; rw [getPivotFieldsIndex_congr h]

theorem buildPivotTable_congr : f.buildPivotTable = g.buildPivotTable := by
  unfold buildPivotTable addPivotTableFields pivotTableSkeleton
  rw [adjustRange_congr h, addPivotFields_congr h, addPivotRowFields_congr h,
    addPivotColFields_congr h, addPivotPageFields_congr h, addPivotDataFields_congr h, h]

end Congr

/-! ## On a header read whole

Each builder re-reads the header; when the read succeeds with `order`, each is one equation. -/

section Header

variable {f : File} {opts : PivotTableOption} {order : List GoString}

theorem addPivotFields_eq (h : f.getPivotFieldsOrder opts = (order, none))
    (pt : PivotTableDefinition) :
    f.addPivotFields pt opts = ({ pt with pivotFields := { pt.pivotFields with
      items := pt.pivotFields.items ++ order.map (pivotFieldOf opts) } }, none) := by
  simp only [addPivotFields, h]

theorem addPivotRowFields_eq (h : f.getPivotFieldsOrder opts = (order, none))
    (pt : PivotTableDefinition) :
    f.addPivotRowFields pt opts = ({ pt with rowFields :=
      (appendAxisFields (fun _ i => i) (fieldPositions order opts.rows) pt.rowFields) }, none) := by
  simp only [addPivotRowFields, getPivotFieldsIndex_eq h]

theorem addPivotPageFields_eq (h : f.getPivotFieldsOrder opts = (order, none))
    (pt : PivotTableDefinition) :
    f.addPivotPageFields pt opts = ({ pt with pageFields :=
      (appendAxisFields (fun idx i => ⟨(getPivotTableFieldsName opts.filter).getD idx [], i⟩)
        (fieldPositions order opts.filter) pt.pageFields) }, none) := by
  simp only [addPivotPageFields, getPivotFieldsIndex_eq h]

theorem addPivotDataFields_eq (h : f.getPivotFieldsOrder opts = (order, none))
    (pt : PivotTableDefinition) :
    f.addPivotDataFields pt opts = ({ pt with dataFields :=
      (appendAxisFields (fun idx i => ⟨(getPivotTableFieldsName opts.data).getD idx [], i,
        (getPivotTableFieldsSubtotal opts.data).getD idx []⟩)
        (fieldPositions order opts.data) pt.dataFields) }, none) := by
  simp only [addPivotDataFields, getPivotFieldsIndex_eq h]

theorem addPivotColFields_eq (h : f.getPivotFieldsOrder opts = (order, none))
    (pt : PivotTableDefinition) :
    f.addPivotColFields pt opts =
      ({ pt with colFields := colFieldsAfter order opts pt.colFields }, none) := by
  unfold addPivotColFields colFieldsAfter
  by_cases hc : opts.columns = []
  · by_cases hd : opts.data.length ≤ 1
    · simp [hc, hd]
    · simp [hc, hd, fieldPositions, show 1 < opts.data.length by omega]
  · simp [hc, getPivotFieldsIndex_eq h]

/-- **The sections of the definition**, from the ones it starts with. -/
theorem addPivotTableFields_eq (h : f.getPivotFieldsOrder opts = (order, none))
    (pt : PivotTableDefinition) :
    f.addPivotTableFields opts pt =
      { pt with
        pivotFields := ⟨(pt.pivotFields.items ++ order.map (pivotFieldOf opts)).length,
          pt.pivotFields.items ++ order.map (pivotFieldOf opts)⟩
        rowFields := appendAxisFields (fun _ i => i) (fieldPositions order opts.rows) pt.rowFields
        colFields := colFieldsAfter order opts pt.colFields
        pageFields := (appendAxisFields
          (fun idx i => ⟨(getPivotTableFieldsName opts.filter).getD idx [], i⟩)
          (fieldPositions order opts.filter) pt.pageFields)
        dataFields := (appendAxisFields (fun idx i => ⟨(getPivotTableFieldsName opts.data).getD idx [],
          i, (getPivotTableFieldsSubtotal opts.data).getD idx []⟩)
          (fieldPositions order opts.data) pt.dataFields) } := by
  simp only [addPivotTableFields, addPivotFields_eq h, addPivotRowFields_eq h,
    addPivotColFields_eq h, addPivotPageFields_eq h, addPivotDataFields_eq h]

end Header

/-- **On a header that fails to read** no pivot, row, page or data field is added; only the column
section may be set, from the declared lengths. -/
theorem addPivotTableFields_of_error {f : File} {opts : PivotTableOption} {o : List GoString}
    {e : Error} (h : f.getPivotFieldsOrder opts = (o, some e)) (pt : PivotTableDefinition) :
    f.addPivotTableFields opts pt = { pt with
      pivotFields := ⟨pt.pivotFields.items.length, pt.pivotFields.items⟩,
      colFields := colFieldsOnError opts pt.colFields } := by
  have hidx : ∀ fields, f.getPivotFieldsIndex fields opts = ([], some e) := fun _ => by
    rw [getPivotFieldsIndex, h]
  unfold addPivotTableFields addPivotFields addPivotRowFields addPivotColFields addPivotPageFields
    addPivotDataFields colFieldsOnError
  rw [h, hidx, hidx, hidx, hidx]
  dsimp only
  simp only [List.length_eq_zero]
  split_ifs <;> rfl

/-- **The builders write only the five field sections**, whatever the header reads give. -/
theorem addPivotTableFields_frame (f : File) (opts : PivotTableOption) (pt : PivotTableDefinition) :
    ∃ pf rf cf pgf df, f.addPivotTableFields opts pt = { pt with
      pivotFields := pf, rowFields := rf, colFields := cf, pageFields := pgf, dataFields := df } := by
  rcases h : f.getPivotFieldsOrder opts with ⟨order, _ | e⟩
  · exact ⟨_, _, _, _, _, addPivotTableFields_eq h pt⟩
  · exact ⟨_, _, _, _, _, addPivotTableFields_of_error h pt⟩

/-- `buildPivotTable` fails only at the placement range; otherwise it fills the skeleton. -/
theorem buildPivotTable_ok {f : File} {c : GoInt} {p : Nat} {opts : PivotTableOption}
    {pt : PivotTableDefinition} (hpt : f.buildPivotTable c p opts = .ok pt) :
    ∃ x1 y1 x2 y2, pt = f.addPivotTableFields opts (f.pivotTableSkeleton c p opts x1 y1 x2 y2) := by
  unfold buildPivotTable at hpt
  split at hpt
  · cases hpt
  · cases hpt; exact ⟨_, _, _, _, rfl⟩

/-- Once the placement range parses, the definition is built, whatever the header reads give. -/
theorem buildPivotTable_of_range {f : File} {opts : PivotTableOption}
    {r : GoString × Nat × Nat × Nat × Nat} (h : f.adjustRange opts.pivotTableRange = .ok r)
    (c : GoInt) (p : Nat) : ∃ pt, f.buildPivotTable c p opts = .ok pt := by
  obtain ⟨s, x1, y1, x2, y2⟩ := r
  simp only [buildPivotTable, h, Except.ok.injEq, exists_eq']

section CacheID

variable (f : File) (pt : PivotTableDefinition) (opts : PivotTableOption)

@[simp] theorem addPivotFields_cacheID : (f.addPivotFields pt opts).1.cacheID = pt.cacheID := by
  unfold addPivotFields; split <;> rfl
@[simp] theorem addPivotRowFields_cacheID :
    (f.addPivotRowFields pt opts).1.cacheID = pt.cacheID := by
  unfold addPivotRowFields; split <;> rfl
@[simp] theorem addPivotColFields_cacheID :
    (f.addPivotColFields pt opts).1.cacheID = pt.cacheID := by
  unfold addPivotColFields; split_ifs <;> try split
  all_goals rfl
@[simp] theorem addPivotPageFields_cacheID :
    (f.addPivotPageFields pt opts).1.cacheID = pt.cacheID := by
  unfold addPivotPageFields; split <;> rfl
@[simp] theorem addPivotDataFields_cacheID :
    (f.addPivotDataFields pt opts).1.cacheID = pt.cacheID := by
  unfold addPivotDataFields; split <;> rfl

end CacheID

/-- The definition carries the cache id it was given, whatever the header reads give. -/
theorem buildPivotTable_cacheID {f : File} {c : GoInt} {p : Nat} {opts : PivotTableOption}
    {pt : PivotTableDefinition} (hpt : f.buildPivotTable c p opts = .ok pt) : pt.cacheID = c := by
  obtain ⟨x1, y1, x2, y2, rfl⟩ := buildPivotTable_ok hpt
  simp [addPivotTableFields, pivotTableSkeleton]

/-- The definition is named `Pivot Table<p>` after the table number it was given. -/
theorem buildPivotTable_name {f : File} {c : GoInt} {p : Nat} {opts : PivotTableOption}
    {pt : PivotTableDefinition} (hpt : f.buildPivotTable c p opts = .ok pt) :
    pt.name = utf8 "Pivot Table" ++ itoa p := by
  obtain ⟨x1, y1, x2, y2, rfl⟩ := buildPivotTable_ok hpt
  obtain ⟨_, _, _, _, _, h⟩ := f.addPivotTableFields_frame opts
    (f.pivotTableSkeleton c p opts x1 y1 x2 y2)
  rw [h]
  rfl

/-- The location is the placement range, its corners as `adjustRange` orders them. -/
theorem buildPivotTable_location {f : File} {c : GoInt} {p : Nat} {opts : PivotTableOption}
    {pt : PivotTableDefinition} (hpt : f.buildPivotTable c p opts = .ok pt) :
    ∃ s x1 y1 x2 y2, f.adjustRange opts.pivotTableRange = .ok (s, x1, y1, x2, y2) ∧
      pt.location = ⟨f.doc.coordinatesToCellName x1 y1 ++ utf8 ":" ++
        f.doc.coordinatesToCellName x2 y2, 1, 1, 1⟩ := by
  unfold buildPivotTable at hpt
  split at hpt
  · cases hpt
  rename_i s x1 y1 x2 y2 hr
  cases hpt
  obtain ⟨_, _, _, _, _, h⟩ := f.addPivotTableFields_frame opts
    (f.pivotTableSkeleton c p opts x1 y1 x2 y2)
  exact ⟨s, x1, y1, x2, y2, hr, by rw [h]; rfl⟩

/-- **The definition built on a header read whole**: one pivot field per header name, and each
axis section built from the header positions of its declared fields. -/
theorem buildPivotTable_eq {f : File} {c : GoInt} {p : Nat} {opts : PivotTableOption}
    {order : List GoString} {pt : PivotTableDefinition}
    (h : f.getPivotFieldsOrder opts = (order, none)) (hpt : f.buildPivotTable c p opts = .ok pt) :
    pt.cacheID = c ∧
    pt.pivotFields = ⟨order.length, order.map (pivotFieldOf opts)⟩ ∧
    pt.rowFields = appendAxisFields (fun _ i => i) (fieldPositions order opts.rows) none ∧
    pt.colFields = colFieldsAfter order opts none ∧
    pt.pageFields = appendAxisFields
      (fun idx i => ⟨(getPivotTableFieldsName opts.filter).getD idx [], i⟩)
      (fieldPositions order opts.filter) none ∧
    pt.dataFields = appendAxisFields (fun idx i => ⟨(getPivotTableFieldsName opts.data).getD idx [],
      i, (getPivotTableFieldsSubtotal opts.data).getD idx []⟩) (fieldPositions order opts.data)
      none := by
  obtain ⟨x1, y1, x2, y2, rfl⟩ := buildPivotTable_ok hpt
  rw [addPivotTableFields_eq h]
  simp [pivotTableSkeleton]

end File

end Excelize
