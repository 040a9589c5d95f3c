import ExcelizePivot.Xlsx.Definitions
import Mathlib.Data.List.AList

/-!
# Xlsx/Package — the document a pivot table is added to

`File` keeps what `AddPivotTable` changes — the package parts (`f.Pkg`), the relationship parts
(`f.Relationships`), the workbook's `<pivotCaches>` registry and the content-type overrides — and,
in `Doc`, the collaborators it only reads: cell values, sheets, defined names, the workbook's rels
path, and the two address helpers of `lib.go`.  All of them are declared outside `pivotTable.go`;
the pipeline never writes what they read.

The operations of the package are those `pivotTable.go` calls: `saveFileList`, `addRels`,
`addWorkbookPivotCache`, `addContentTypePart`, and the part counts.  Each comes with one lemma per
field of `File` it leaves alone or changes, so that later proofs never unfold it.
-/

namespace Excelize

/-- A package part: a pivot definition this pipeline wrote, or any other part's bytes. -/
inductive Part where
  | cacheDefinition (pc : PivotCacheDefinition)
  | tableDefinition (pt : PivotTableDefinition)
  | raw (content : GoString)
deriving DecidableEq, Repr

/-- The collaborators the pipeline reads and never changes.  `areaRefToCoordinates` and
`coordinatesToCellName` are the helpers of `lib.go` (the latter's error is dropped at every call
here); `getCellValue sheet cell` is `GetCellValue`; `workSheetReader` says whether the sheet can
be read. -/
structure Doc where
  areaRefToCoordinates : GoString → Except Error (Nat × Nat × Nat × Nat)
  coordinatesToCellName : Nat → Nat → GoString
  getDefinedNameRefTo : GoString → GoString → GoString
  workSheetReader : GoString → Except Error Unit
  getSheetXMLPath : GoString → Option GoString
  getCellValue : GoString → GoString → Except Error GoString
  getWorkbookRelsPath : GoString

/-- The document: its read-only collaborators and the state the pipeline writes. -/
structure File where
  doc : Doc
  pkg : AList (fun _ : GoString => Part)
  relationships : AList (fun _ : GoString => List Relationship)
  pivotCaches : List PivotCache
  overrides : List (GoString × Nat)

namespace File

/-! ## Parts -/

/-- `saveFileList`: store a part under `name`, replacing any part there. -/
def saveFileList (f : File) (name : GoString) (content : Part) : File :=
  { f with pkg := f.pkg.insert name content }

@[simp] theorem saveFileList_doc (f : File) (n : GoString) (c : Part) :
    (f.saveFileList n c).doc = f.doc := rfl
@[simp] theorem saveFileList_pkg (f : File) (n : GoString) (c : Part) :
    (f.saveFileList n c).pkg = f.pkg.insert n c := rfl
@[simp] theorem saveFileList_relationships (f : File) (n : GoString) (c : Part) :
    (f.saveFileList n c).relationships = f.relationships := rfl
@[simp] theorem saveFileList_pivotCaches (f : File) (n : GoString) (c : Part) :
    (f.saveFileList n c).pivotCaches = f.pivotCaches := rfl

/-- The parts whose name contains `sub`, counted as `f.Pkg.Range` does. -/
def countParts (f : File) (sub : GoString) : Nat :=
  (f.pkg.keys.filter fun k => contains k sub).length

/-- `countPivotTables`: the parts whose name contains `xl/pivotTables/pivotTable`. -/
def countPivotTables (f : File) : Nat := f.countParts (utf8 "xl/pivotTables/pivotTable")

/-- `countPivotCache`: the parts whose name contains `xl/pivotCache/pivotCacheDefinition`. -/
def countPivotCache (f : File) : Nat := f.countParts (utf8 "xl/pivotCache/pivotCacheDefinition")

/-! ## Relationships -/

/-- `relsReader` (declared outside `src/`, modelled by what its callers here use) — the
relationships of the rels part at `path`, none when there is no such part. -/
def relsReader (f : File) (path : GoString) : List Relationship :=
  (f.relationships.lookup path).getD []

/-- One past the largest relationship number of a rels part. -/
def nextRelID (rels : List Relationship) : Nat := rels.foldr (fun r m => max r.id m) 0 + 1

theorem lt_nextRelID {rels : List Relationship} {r : Relationship} (h : r ∈ rels) :
    r.id < nextRelID rels := by
  induction rels with
  | nil => cases h
  | cons s rels ih =>
    simp only [nextRelID, List.foldr_cons] at ih ⊢
    rcases List.mem_cons.1 h with rfl | h
    · omega
    · have := ih h; omega

/-- `addRels` (declared outside `src/`, modelled by what its callers here use) — allocate a
relationship ID given a source path, relationship type and target, and return the new ID.  The new
ID is one past the largest of that rels part, and the relationship is appended to it. -/
def addRels (f : File) (relPath : GoString) (relType : RelType) (target : GoString) : File × Nat :=
  let rels := f.relsReader relPath
  let rID := nextRelID rels
  ({ f with relationships := f.relationships.insert relPath (rels ++ [⟨rID, relType, target⟩]) },
    rID)

section addRels

variable (f : File) (p : GoString) (t : RelType) (g : GoString)

@[simp] theorem addRels_id : (f.addRels p t g).2 = nextRelID (f.relsReader p) := rfl
@[simp] theorem addRels_doc : (f.addRels p t g).1.doc = f.doc := rfl
@[simp] theorem addRels_pkg : (f.addRels p t g).1.pkg = f.pkg := rfl
@[simp] theorem addRels_pivotCaches : (f.addRels p t g).1.pivotCaches = f.pivotCaches := rfl

theorem relsReader_addRels (q : GoString) :
    (f.addRels p t g).1.relsReader q =
      if q = p then f.relsReader p ++ [⟨nextRelID (f.relsReader p), t, g⟩] else f.relsReader q := by
  unfold addRels
  split
  · subst q; simp [relsReader]
  · simp [relsReader, AList.lookup_insert_ne ‹_›]

theorem relsReader_addRels_of_ne {q : GoString} (h : q ≠ p) :
    (f.addRels p t g).1.relsReader q = f.relsReader q := by
  rw [relsReader_addRels, if_neg h]

theorem relsReader_addRels_self :
    (f.addRels p t g).1.relsReader p = f.relsReader p ++ [⟨nextRelID (f.relsReader p), t, g⟩] := by
  rw [relsReader_addRels, if_pos rfl]

/-- `addRels` only appends: every rels part keeps what it held, in order. -/
theorem prefix_relsReader_addRels (q : GoString) :
    f.relsReader q <+: (f.addRels p t g).1.relsReader q := by
  rw [relsReader_addRels]
  split
  · subst q; exact List.prefix_append _ _
  · exact List.prefix_refl _

theorem mem_relsReader_addRels {q : GoString} {r : Relationship} (h : r ∈ f.relsReader q) :
    r ∈ (f.addRels p t g).1.relsReader q :=
  (prefix_relsReader_addRels f p t g q).subset h

/-- `addRels` keeps the ids of every rels part distinct. -/
theorem ids_nodup_addRels {q : GoString} (h : ((f.relsReader q).map (·.id)).Nodup) :
    (((f.addRels p t g).1.relsReader q).map (·.id)).Nodup := by
  rw [relsReader_addRels]
  split
  · subst q
    rw [List.map_append, List.nodup_append]
    exact ⟨h, List.nodup_singleton _, fun a ha hb => by
      obtain ⟨r, hr, rfl⟩ := List.mem_map.mp ha
      rw [List.map_singleton, List.mem_singleton] at hb
      exact absurd hb (Nat.ne_of_lt (lt_nextRelID hr))⟩
  · exact h

end addRels

/-! ## The workbook's cache registry -/

/-- One step of the loop of `addWorkbookPivotCache`: keep the larger `cacheId`. -/
def maxStep (cacheID : GoInt) (pivotCache : PivotCache) : GoInt :=
  if pivotCache.cacheID.val > cacheID.val then pivotCache.cacheID else cacheID

/-- The loop of `addWorkbookPivotCache`: the largest registered `cacheId`, or `1`. -/
def maxCacheID (caches : List PivotCache) : GoInt := caches.foldl maxStep GoInt.one

/-- `addWorkbookPivotCache`: register the next `cacheId` with relationship `rId<RID>`. -/
def addWorkbookPivotCache (f : File) (RID : Nat) : File × GoInt :=
  let cacheID := (maxCacheID f.pivotCaches).succ
  ({ f with pivotCaches := f.pivotCaches ++ [⟨cacheID, utf8 "rId" ++ itoa RID⟩] }, cacheID)

section addWorkbookPivotCache

variable (f : File) (r : Nat)

@[simp] theorem addWorkbookPivotCache_id :
    (f.addWorkbookPivotCache r).2 = (maxCacheID f.pivotCaches).succ := rfl
@[simp] theorem addWorkbookPivotCache_doc : (f.addWorkbookPivotCache r).1.doc = f.doc := rfl
@[simp] theorem addWorkbookPivotCache_pkg : (f.addWorkbookPivotCache r).1.pkg = f.pkg := rfl
@[simp] theorem addWorkbookPivotCache_relationships :
    (f.addWorkbookPivotCache r).1.relationships = f.relationships := rfl
@[simp] theorem addWorkbookPivotCache_pivotCaches :
    (f.addWorkbookPivotCache r).1.pivotCaches =
      f.pivotCaches ++ [⟨(maxCacheID f.pivotCaches).succ, utf8 "rId" ++ itoa r⟩] := rfl

end addWorkbookPivotCache

/-- The running maximum is its start or a registered id, and bounds both. -/
theorem foldl_maxStep (caches : List PivotCache) (c : GoInt) :
    (caches.foldl maxStep c = c ∨ ∃ e ∈ caches, e.cacheID = caches.foldl maxStep c) ∧
      c.val ≤ (caches.foldl maxStep c).val ∧
      ∀ e ∈ caches, e.cacheID.val ≤ (caches.foldl maxStep c).val := by
  induction caches generalizing c with
  | nil => simp
  | cons e es ih =>
    obtain ⟨h1, h2, h3⟩ := ih (maxStep c e)
    have hs : c.val ≤ (maxStep c e).val ∧ e.cacheID.val ≤ (maxStep c e).val ∧
        (maxStep c e = c ∨ maxStep c e = e.cacheID) := by
      unfold maxStep; split <;> exact ⟨by omega, by omega, by simp⟩
    simp only [List.foldl_cons, List.mem_cons, exists_eq_or_imp, forall_eq_or_imp]
    refine ⟨?_, hs.1.trans h2, hs.2.1.trans h2, h3⟩
    rcases h1 with h | h
    · rcases hs.2.2 with h' | h'
      · exact .inl (h.trans h')
      · exact .inr (.inl (h'.symm.trans h.symm))
    · exact .inr (.inr h)

section Wrap

variable {caches : List PivotCache}

/-- `cacheId++` lands on a registered id: the largest `int` is registered, so the increment wraps,
and the smallest `int`, where it wraps to, is registered too. -/
def WrapsOntoRegistered (caches : List PivotCache) : Prop :=
  (∃ e ∈ caches, e.cacheID.val = GoInt.max) ∧ ∃ e ∈ caches, e.cacheID.val = GoInt.min

/-- Below the largest `int`, the increment exceeds every registered id. -/
theorem lt_maxCacheID_succ (h : (maxCacheID caches).val < GoInt.max) :
    ∀ e ∈ caches, e.cacheID.val < (maxCacheID caches).succ.val := by
  obtain ⟨-, -, hle⟩ := foldl_maxStep caches GoInt.one
  intro e he
  rw [GoInt.succ_val h]
  exact Int.lt_add_one_of_le (hle e he)

/-- At the largest `int`, the largest id is a registered one. -/
theorem exists_max_of_maxCacheID (h : (maxCacheID caches).val = GoInt.max) :
    ∃ e ∈ caches, e.cacheID.val = GoInt.max := by
  obtain ⟨hmem, -, -⟩ := foldl_maxStep caches GoInt.one
  rcases hmem with heq | ⟨e, he, heq⟩
  · rw [maxCacheID, heq] at h
    exact absurd h (by decide)
  · exact ⟨e, he, by rw [heq]; exact h⟩

theorem maxCacheID_of_max_mem (h : ∃ e ∈ caches, e.cacheID.val = GoInt.max) :
    (maxCacheID caches).val = GoInt.max := by
  obtain ⟨e, he, hv⟩ := h
  obtain ⟨-, -, hle⟩ := foldl_maxStep caches GoInt.one
  exact le_antisymm (GoInt.val_le_max _) (hv ▸ hle e he)

/-- **The next `cacheId` is fresh exactly when it does not wrap onto a registered id**: below the
largest `int` it exceeds them all; at it, it wraps to the smallest. -/
theorem maxCacheID_succ_fresh_iff :
    (∀ e ∈ caches, e.cacheID ≠ (maxCacheID caches).succ) ↔
      ¬ WrapsOntoRegistered caches := by
  constructor
  · rintro h ⟨hmax, e, he, hmin⟩
    exact h e he (GoInt.ext (by rw [hmin, GoInt.succ_val_max (maxCacheID_of_max_mem hmax)]))
  · intro h e he heq
    rcases (GoInt.val_le_max (maxCacheID caches)).lt_or_eq with hlt | hm
    · exact absurd (heq ▸ lt_maxCacheID_succ hlt e he) (lt_irrefl _)
    · exact h ⟨exists_max_of_maxCacheID hm, e, he, by rw [heq, GoInt.succ_val_max hm]⟩

theorem not_wrapsOntoRegistered (h : ∀ e ∈ caches, e.cacheID.val < GoInt.max) :
    ¬ WrapsOntoRegistered caches := fun ⟨⟨e, he, hv⟩, _⟩ => absurd hv (h e he).ne

end Wrap

/-- The largest registered id stays below any bound `b ≥ 1` of the registered ids. -/
theorem maxCacheID_le {caches : List PivotCache} {b : Int} (hb : 1 ≤ b)
    (h : ∀ e ∈ caches, e.cacheID.val ≤ b) : (maxCacheID caches).val ≤ b := by
  obtain ⟨hmem, -, -⟩ := foldl_maxStep caches GoInt.one
  rcases hmem with heq | ⟨e, he, heq⟩
  · rw [maxCacheID, heq]; exact hb
  · rw [maxCacheID, ← heq]; exact h e he

/-! ## Content types -/

/-- `addContentTypePart` (declared outside `src/`, modelled by what its callers here use) —
register a content type given a sequence number and a type tag, once. -/
def addContentTypePart (f : File) (index : Nat) (contentType : GoString) : File :=
  { f with overrides := if (contentType, index) ∈ f.overrides then f.overrides
      else f.overrides ++ [(contentType, index)] }

section addContentTypePart

variable (f : File) (i : Nat) (c : GoString)

@[simp] theorem addContentTypePart_doc : (f.addContentTypePart i c).doc = f.doc := rfl
@[simp] theorem addContentTypePart_pkg : (f.addContentTypePart i c).pkg = f.pkg := rfl
@[simp] theorem addContentTypePart_relationships :
    (f.addContentTypePart i c).relationships = f.relationships := rfl
@[simp] theorem addContentTypePart_pivotCaches :
    (f.addContentTypePart i c).pivotCaches = f.pivotCaches := rfl

end addContentTypePart

theorem addContentTypePart_overrides_of_mem {f : File} {i : Nat} {c : GoString}
    (h : (c, i) ∈ f.overrides) : (f.addContentTypePart i c).overrides = f.overrides := if_pos h

theorem addContentTypePart_overrides_of_not_mem {f : File} {i : Nat} {c : GoString}
    (h : (c, i) ∉ f.overrides) : (f.addContentTypePart i c).overrides = f.overrides ++ [(c, i)] :=
  if_neg h

end File

end Excelize
