import ExcelizePivot.Pivot.PartNames
import ExcelizePivot.Xlsx.PartUris

/-!
# Pivot/Links — what a reader of the package finds behind the names `AddPivotTable` writes

`AddPivotTable` writes part names, rels-part names and relationship targets as strings: the table's
rels part `xl/pivotTables/_rels/pivotTable<N>.xml.rels`, the sheet's `xl/worksheets/_rels/` with the
sheet's path after `xl/worksheets/` and `.rels`, and the targets `/xl/pivotCache/…` (from the
workbook), `../pivotCache/…` (from the table) and `../pivotTables/…` (from the sheet).  Read as the
package format reads them (`Xlsx/PartUris`):

* the table's rels part is the one the format reads for the table part, and both cache targets
  name the cache part written (`relsPartName_pivotTablePartName`,
  `resolveTarget_tablePivotCacheTarget`, `resolveTarget_workbookPivotCacheTarget`);
* so is the sheet's, and its target names the table part, for a sheet directly in
  `xl/worksheets/` (`sheetRelsName_eq_relsPartName`, `mem_linkedParts_of_sheetRel`), and for a
  sheet outside that folder the sheet's rels part is never the one written
  (`sheetRelsName_ne_relsPartName`);
* `linkedParts` and `registryCachePart` are the two routes a reader takes from a part to the parts
  it links: by its own rels part, and from a `cacheId` through the workbook's registry and
  relationships.  Both only grow as relationships are appended (`mem_linkedParts_of_subset`).
-/

namespace Excelize

/-- The targets of a rels part's pivot-cache relationships. -/
def pivotCacheTargets (rels : List Relationship) : List GoString :=
  (rels.filter fun r => r.type = .pivotCache).map (·.target)

/-! ## Names built from slash-free pieces -/

theorem slash_not_mem_affix {a b : GoString} (ha : slash ∉ a) (hb : slash ∉ b) (n : Nat) :
    slash ∉ a ++ itoa n ++ b := by
  simp only [List.mem_append, not_or]
  exact ⟨⟨ha, fun h => absurd (mem_itoa h).1 (by decide)⟩, hb⟩

theorem head?_affix {a : GoString} (ha : a ≠ []) (n : Nat) (b : GoString) :
    (a ++ itoa n ++ b).head? = a.head? := by
  rw [List.append_assoc, List.head?_append_of_ne_nil _ ha]

/-- A segment that does not start with `.` is neither `..` nor `.`, and is entered. -/
theorem removeDotSegments_enter {s : GoString} (h : s.head? ≠ some 46)
    (dir rest : List GoString) :
    removeDotSegments dir (s :: rest) = removeDotSegments (s :: dir) rest := by
  have h₂ : s ≠ utf8 ".." := fun he => h (he ▸ rfl)
  have h₁ : s ≠ utf8 "." := fun he => h (he ▸ rfl)
  rw [removeDotSegments, if_neg h₂, if_neg h₁]

theorem removeDotSegments_up (dir rest : List GoString) :
    removeDotSegments dir (utf8 ".." :: rest) = removeDotSegments dir.tail rest := by
  rw [removeDotSegments, if_pos rfl]

/-- A target `../<d>/<name>` read from a part `<r>/<x>/<s>` names `<r>/<d>/<name>`. -/
theorem resolveTarget_up {src d name r x s : GoString} (hsrc : segments src = [r, x, s])
    (hd : slash ∉ d) (hname : slash ∉ name) (hd₀ : d.head? ≠ some 46)
    (hname₀ : name.head? ≠ some 46) :
    resolveTarget src (utf8 ".." ++ slash :: (d ++ slash :: name)) = joinSegments [r, d, name] := by
  have h₀ : (utf8 ".." ++ slash :: (d ++ slash :: name)).head? = some 46 := rfl
  rw [resolveTarget, if_neg (by rw [h₀]; decide), hsrc, segments_append_cons (by decide),
    segments_append_cons hd, segments_of_not_mem hname,
    show [r, x, s].dropLast.reverse = [x, r] from rfl, removeDotSegments_up,
    removeDotSegments_enter hd₀, removeDotSegments_enter hname₀]
  rfl

/-! ## The table's and the cache's names -/

theorem pivotTablePartName_eq_joinSegments (n : Nat) : pivotTablePartName n =
    joinSegments [utf8 "xl", utf8 "pivotTables", utf8 "pivotTable" ++ itoa n ++ utf8 ".xml"] := by
  simp only [joinSegments_cons_cons, joinSegments_singleton, pivotTablePartName,
    ← List.append_assoc]
  rfl

theorem pivotCachePartName_eq_joinSegments (m : Nat) : pivotCachePartName m =
    joinSegments [utf8 "xl", utf8 "pivotCache",
      utf8 "pivotCacheDefinition" ++ itoa m ++ utf8 ".xml"] := by
  simp only [joinSegments_cons_cons, joinSegments_singleton, pivotCachePartName,
    ← List.append_assoc]
  rfl

theorem segments_pivotTablePartName (n : Nat) : segments (pivotTablePartName n) =
    [utf8 "xl", utf8 "pivotTables", utf8 "pivotTable" ++ itoa n ++ utf8 ".xml"] := by
  rw [pivotTablePartName_eq_joinSegments, segments_joinSegments _ (List.cons_ne_nil _ _)]
  simp only [List.mem_cons, List.mem_singleton, forall_eq_or_imp, forall_eq]
  exact ⟨by decide, by decide, slash_not_mem_affix (by decide) (by decide) n,
    fun _ h => absurd h (List.not_mem_nil _)⟩

/-- **The table's rels part is the one the format reads for the table part.** -/
theorem relsPartName_pivotTablePartName (n : Nat) :
    relsPartName (pivotTablePartName n) = pivotTableRelsName n := by
  rw [relsPartName_of_segments (I := [utf8 "xl", utf8 "pivotTables"])
    (segments_pivotTablePartName n)]
  simp only [List.cons_append, List.nil_append, joinSegments_cons_cons, joinSegments_singleton,
    pivotTableRelsName, List.append_assoc]
  rfl

/-- **The table's target names the cache part**, read from the table part. -/
theorem resolveTarget_tablePivotCacheTarget (n m : Nat) :
    resolveTarget (pivotTablePartName n) (tablePivotCacheTarget m) = pivotCachePartName m := by
  have ht : tablePivotCacheTarget m = utf8 ".." ++ slash :: (utf8 "pivotCache" ++ slash ::
      (utf8 "pivotCacheDefinition" ++ itoa m ++ utf8 ".xml")) := by
    simp only [tablePivotCacheTarget, ← List.append_assoc]
    rfl
  rw [ht, resolveTarget_up (segments_pivotTablePartName n) (by decide)
    (slash_not_mem_affix (by decide) (by decide) m) (by decide)
    (by rw [head?_affix (by decide)]; decide),
    pivotCachePartName_eq_joinSegments]

/-- **The workbook's target names the cache part**, from whichever part it is read. -/
theorem resolveTarget_workbookPivotCacheTarget (src : GoString) (m : Nat) :
    resolveTarget src (workbookPivotCacheTarget m) = pivotCachePartName m := by
  have h : (workbookPivotCacheTarget m).head? = some slash := rfl
  rw [resolveTarget, if_pos h]
  rfl

/-! ## The sheet's names -/

section Sheet

variable {b : GoString}

theorem segments_worksheet (hb : slash ∉ b) :
    segments (utf8 "xl/worksheets/" ++ b) = [utf8 "xl", utf8 "worksheets", b] := by
  rw [show utf8 "xl/worksheets/" ++ b = utf8 "xl" ++ slash :: (utf8 "worksheets" ++ slash :: b)
    from rfl,
    segments_append_cons (by decide), segments_append_cons (by decide), segments_of_not_mem hb]

/-- For a sheet directly in `xl/worksheets/`, the sheet's rels part is the one the format reads. -/
theorem sheetRelsName_eq_relsPartName (hb : slash ∉ b) :
    sheetRelsName (utf8 "xl/worksheets/" ++ b) = relsPartName (utf8 "xl/worksheets/" ++ b) := by
  rw [relsPartName_of_segments (I := [utf8 "xl", utf8 "worksheets"]) (segments_worksheet hb),
    sheetRelsName, trimPrefix, if_pos (List.prefix_append _ _), List.drop_left]
  simp only [List.cons_append, List.nil_append, joinSegments_cons_cons, joinSegments_singleton,
    List.append_assoc]
  rfl

/-- The sheet's target names the table part, read from a sheet directly in `xl/worksheets/`. -/
theorem resolveTarget_sheetPivotTableTarget (hb : slash ∉ b) (n : Nat) :
    resolveTarget (utf8 "xl/worksheets/" ++ b) (sheetPivotTableTarget n) = pivotTablePartName n := by
  have ht : sheetPivotTableTarget n = utf8 ".." ++ slash :: (utf8 "pivotTables" ++ slash ::
      (utf8 "pivotTable" ++ itoa n ++ utf8 ".xml")) := by
    simp only [sheetPivotTableTarget, ← List.append_assoc]
    rfl
  rw [ht, resolveTarget_up (segments_worksheet hb) (by decide)
    (slash_not_mem_affix (by decide) (by decide) n) (by decide)
    (by rw [head?_affix (by decide)]; decide),
    pivotTablePartName_eq_joinSegments]

end Sheet

/-- **A sheet outside `xl/worksheets/` never has its relationships written where the format reads
them**: `sheetRelsName` puts the whole path under `xl/worksheets/_rels/`, fourteen bytes longer than
the sheet's rels part. -/
theorem sheetRelsName_ne_relsPartName {p : GoString} (hp : ¬ utf8 "xl/worksheets/" <+: p) :
    sheetRelsName p ≠ relsPartName p := fun h => by
  have hl := congrArg List.length h
  rw [length_relsPartName, sheetRelsName, trimPrefix, if_neg hp] at hl
  simp only [List.length_append] at hl
  have h₁ : (utf8 "xl/worksheets/_rels/").length = 20 := rfl
  have h₂ : (utf8 ".rels").length = 5 := rfl
  omega

/-- A sheet in `xl/sheets/`: its relationships are not written where the format reads them. -/
theorem sheetRelsName_ne_relsPartName_sheets :
    ¬ utf8 "xl/worksheets/" <+: utf8 "xl/sheets/sheet1.xml" ∧
      sheetRelsName (utf8 "xl/sheets/sheet1.xml") ≠ relsPartName (utf8 "xl/sheets/sheet1.xml") :=
  ⟨by decide, sheetRelsName_ne_relsPartName (by decide)⟩

/-! ## The two routes from a table to its cache -/

/-- The first entry of a list whose key is `a`'s, when the keys are distinct, is `a`. -/
theorem find?_key_eq {α β : Type} [DecidableEq β] {key : α → β} {l : List α} {a : α}
    (hnd : (l.map key).Nodup) (ha : a ∈ l) : l.find? (fun x => key x = key a) = some a := by
  induction l with
  | nil => cases ha
  | cons x l ih =>
    rw [List.map_cons, List.nodup_cons] at hnd
    rcases List.mem_cons.1 ha with rfl | ha
    · simp
    · have hx : key x ≠ key a := fun h => hnd.1 (h ▸ List.mem_map_of_mem key ha)
      rw [List.find?_cons_of_neg _ (by simpa using hx)]
      exact ih hnd.2 ha

namespace File

/-- The parts that part `source` links by relationships of type `t`: the targets of that type in
its rels part, read from it. -/
def linkedParts (f : File) (source : GoString) (t : RelType) : List GoString :=
  ((f.relsReader (relsPartName source)).filter (·.type = t)).map (resolveTarget source ·.target)

/-- The part a reader reaches from `cacheId c` through the workbook part `workbookPart`: the
registry entry of `c`, the workbook relationship whose `Id` its `r:id` names, and that
relationship's target read from the workbook part; nothing when one is missing or the relationship
is not a pivot-cache one. -/
def registryCachePart (f : File) (workbookPart : GoString) (c : GoInt) : Option GoString := do
  let e ← f.pivotCaches.find? (·.cacheID = c)
  let r ← (f.relsReader (relsPartName workbookPart)).find? fun r => utf8 "rId" ++ itoa r.id = e.rid
  if r.type = .pivotCache then some (resolveTarget workbookPart r.target) else none

theorem linkedParts_pivotCache (f : File) (source : GoString) :
    f.linkedParts source .pivotCache =
      (pivotCacheTargets (f.relsReader (relsPartName source))).map (resolveTarget source) := by
  rw [linkedParts, pivotCacheTargets, List.map_map]
  rfl

/-- A part keeps the parts it linked while its rels part keeps its relationships. -/
theorem mem_linkedParts_of_subset {f g : File} {source x : GoString} {t : RelType}
    (h : f.relsReader (relsPartName source) ⊆ g.relsReader (relsPartName source))
    (hx : x ∈ f.linkedParts source t) : x ∈ g.linkedParts source t := by
  obtain ⟨r, hr, rfl⟩ := List.mem_map.1 hx
  obtain ⟨hr, ht⟩ := List.mem_filter.1 hr
  exact List.mem_map.2 ⟨r, List.mem_filter.2 ⟨h hr, ht⟩, rfl⟩

/-- **A sheet directly in `xl/worksheets/` links the table its rels part targets**: the
relationship `AddPivotTable` writes for the sheet is read, from the sheet, as one to table `n`. -/
theorem mem_linkedParts_of_sheetRel {f : File} {b : GoString} (hb : slash ∉ b) {n : Nat}
    {r : Relationship} (hr : r ∈ f.relsReader (sheetRelsName (utf8 "xl/worksheets/" ++ b)))
    (hrt : r.type = .pivotTable) (hrtg : r.target = sheetPivotTableTarget n) :
    pivotTablePartName n ∈ f.linkedParts (utf8 "xl/worksheets/" ++ b) .pivotTable := by
  rw [sheetRelsName_eq_relsPartName hb] at hr
  refine List.mem_map.2 ⟨r, List.mem_filter.2 ⟨hr, by simp [hrt]⟩, ?_⟩
  rw [hrtg, resolveTarget_sheetPivotTableTarget hb]

end File

end Excelize
