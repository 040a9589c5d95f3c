import ExcelizePivot.Xlsx.Package

/-!
# Pivot/PartNames — the names `AddPivotTable` writes under, and how parts are numbered

`AddPivotTable` numbers a new table `N = countPivotTables + 1` and its cache
`M = countPivotCache + 1`, and writes

* the parts `xl/pivotTables/pivotTable<N>.xml` and `xl/pivotCache/pivotCacheDefinition<M>.xml`,
* the table's rels part `xl/pivotTables/_rels/pivotTable<N>.xml.rels`,
* relationships to `/xl/pivotCache/pivotCacheDefinition<M>.xml` (from the workbook),
  `../pivotCache/pivotCacheDefinition<M>.xml` (from the table) and `../pivotTables/pivotTable<N>.xml`
  (from the sheet).

Every such name is a fixed prefix, decimal digits, a fixed suffix.  A needle without digits cannot
straddle the digits (`infix_append_of_disjoint`), so which name contains which needle is decided on
the fixed parts alone (`not_infix_itoa`).

The counts are substring counts, so whether `N` names a fresh part depends on how the parts present
are numbered.  `Numbered pkg sub name n` says the parts whose name contains `sub` are exactly
`name 1, …, name n`; then the count is `n` (`Numbered.count`), `name (n + 1)` is fresh
(`Numbered.fresh`), and writing it gives `Numbered … (n + 1)` (`Numbered.insert_next`).
-/

namespace Excelize

/-! ## A needle cannot straddle a block it avoids -/

section Straddle

variable {α : Type} {needle d b : List α}

/-- A prefix that avoids `y` ends before it. -/
theorem prefix_of_prefix_append_cons {a : List α} {y : α} {r : List α} (hy : y ∉ needle)
    (h : needle <+: a ++ y :: r) : needle <+: a := by
  induction a generalizing needle with
  | nil =>
    rcases List.prefix_cons_iff.mp h with rfl | ⟨t, rfl, -⟩
    · exact List.nil_prefix
    · exact absurd (List.mem_cons_self y t) hy
  | cons x a ih =>
    rcases List.prefix_cons_iff.mp h with rfl | ⟨t, rfl, ht⟩
    · exact List.nil_prefix
    · exact List.cons_prefix_cons.mpr ⟨rfl, ih (fun hm => hy (List.mem_cons_of_mem x hm)) ht⟩

/-- A non-empty needle that avoids every element of `d` and occurs in `d ++ b` occurs in `b`. -/
theorem infix_of_infix_append_disjoint (hn : ∀ x ∈ d, x ∉ needle) (hne : needle ≠ [])
    (h : needle <:+: d ++ b) : needle <:+: b := by
  induction d with
  | nil => exact h
  | cons y d ih =>
    rcases List.infix_cons_iff.mp h with hp | hi
    · rcases List.prefix_cons_iff.mp hp with rfl | ⟨t, rfl, -⟩
      · exact absurd rfl hne
      · exact absurd (List.mem_cons_self y t) (hn y (List.mem_cons_self y d))
    · exact ih (fun x hx => hn x (List.mem_cons_of_mem y hx)) hi

/-- **A needle cannot straddle a block it avoids**: occurring in `a ++ d ++ b` with `d` non-empty,
it occurs in `a` or in `b`. -/
theorem infix_append_of_disjoint {a : List α} (hd : d ≠ []) (hn : ∀ x ∈ d, x ∉ needle)
    (h : needle <:+: a ++ d ++ b) : needle <:+: a ∨ needle <:+: b := by
  rcases eq_or_ne needle [] with rfl | hne
  · exact .inl List.nil_infix
  induction a with
  | nil => exact .inr (infix_of_infix_append_disjoint hn hne h)
  | cons x a ih =>
    rcases List.infix_cons_iff.mp h with hp | hi
    · obtain ⟨y, r, rfl⟩ := List.exists_cons_of_ne_nil hd
      have hp' : needle <+: x :: a ++ y :: (r ++ b) := by simpa using hp
      exact .inl (prefix_of_prefix_append_cons (hn y (List.mem_cons_self y r)) hp').isInfix
    · exact (ih hi).imp_left (List.infix_cons ·)

end Straddle

/-- A needle without digits occurs in `a ++ itoa n ++ b` only within `a` or `b`. -/
theorem not_infix_itoa {needle a b : GoString} (n : Nat)
    (hdig : ∀ x ∈ needle, x.toNat < 48 ∨ 57 < x.toNat) (ha : ¬ needle <:+: a)
    (hb : ¬ needle <:+: b) : ¬ needle <:+: a ++ itoa n ++ b := fun h =>
  (infix_append_of_disjoint (itoa_ne_nil n)
    (fun x hx hm => by have := mem_itoa hx; have := hdig x hm; omega) h).elim ha hb

/-- A name built on the prefix contains it. -/
theorem contains_prefix_itoa (a b : GoString) (n : Nat) : contains (a ++ itoa n ++ b) a = true :=
  decide_eq_true ⟨[], itoa n ++ b, by simp⟩

/-- The digits determine a name built around them. -/
theorem itoa_affix_inj {a b : GoString} {n n' : Nat} : a ++ itoa n ++ b = a ++ itoa n' ++ b ↔ n = n' :=
  ⟨fun h => itoa_injective (List.append_cancel_left (List.append_cancel_right h)), by rintro rfl; rfl⟩

/-! ## The names -/

/-- The pivot-table part of sequence number `n`. -/
def pivotTablePartName (n : Nat) : GoString :=
  utf8 "xl/pivotTables/pivotTable" ++ itoa n ++ utf8 ".xml"

/-- The rels part of the pivot table of sequence number `n`. -/
def pivotTableRelsName (n : Nat) : GoString :=
  utf8 "xl/pivotTables/_rels/pivotTable" ++ itoa n ++ utf8 ".xml.rels"

/-- The pivot-cache part of cache number `m`. -/
def pivotCachePartName (m : Nat) : GoString :=
  utf8 "xl/pivotCache/pivotCacheDefinition" ++ itoa m ++ utf8 ".xml"

/-- The target of the workbook's relationship to cache `m`. -/
def workbookPivotCacheTarget (m : Nat) : GoString :=
  utf8 "/xl/pivotCache/pivotCacheDefinition" ++ itoa m ++ utf8 ".xml"

/-- The target of a table's relationship to cache `m`. -/
def tablePivotCacheTarget (m : Nat) : GoString :=
  utf8 "../pivotCache/pivotCacheDefinition" ++ itoa m ++ utf8 ".xml"

/-- The target of a sheet's relationship to table `n`. -/
def sheetPivotTableTarget (n : Nat) : GoString :=
  utf8 "../pivotTables/pivotTable" ++ itoa n ++ utf8 ".xml"

/-- The rels part of the worksheet at `pivotTableSheetPath`. -/
def sheetRelsName (pivotTableSheetPath : GoString) : GoString :=
  utf8 "xl/worksheets/_rels/" ++ trimPrefix pivotTableSheetPath (utf8 "xl/worksheets/") ++
    utf8 ".rels"

@[simp] theorem pivotTablePartName_inj {n n' : Nat} :
    pivotTablePartName n = pivotTablePartName n' ↔ n = n' := itoa_affix_inj
@[simp] theorem pivotTableRelsName_inj {n n' : Nat} :
    pivotTableRelsName n = pivotTableRelsName n' ↔ n = n' := itoa_affix_inj
@[simp] theorem pivotCachePartName_inj {m m' : Nat} :
    pivotCachePartName m = pivotCachePartName m' ↔ m = m' := itoa_affix_inj

/-- The table part `AddPivotTable` writes is its sheet target with `..` replaced by `xl`. -/
theorem replaceAll_sheetPivotTableTarget (n : Nat) :
    replaceAll (utf8 "../pivotTables/pivotTable" ++ itoa n ++ utf8 ".xml") (utf8 "..") (utf8 "xl") =
      pivotTablePartName n := by
  have hs : utf8 "../pivotTables/pivotTable" ++ itoa n ++ utf8 ".xml" =
      utf8 ".." ++ (utf8 "/pivotTables/pivotTable" ++ itoa n ++ utf8 ".xml") := by
    simp only [← List.append_assoc]; rfl
  rw [hs, replaceAll_append_left (by decide),
    replaceAll_of_not_infix _ (not_infix_itoa n (by decide) (by decide) (by decide))]
  simp only [pivotTablePartName, ← List.append_assoc]; rfl

/-! ## Which counter counts which part -/

theorem contains_pivotTablePartName (n : Nat) :
    contains (pivotTablePartName n) (utf8 "xl/pivotTables/pivotTable") = true :=
  contains_prefix_itoa _ _ n

theorem contains_pivotCachePartName (m : Nat) :
    contains (pivotCachePartName m) (utf8 "xl/pivotCache/pivotCacheDefinition") = true :=
  contains_prefix_itoa _ _ m

theorem contains_pivotCachePartName_tables (m : Nat) :
    contains (pivotCachePartName m) (utf8 "xl/pivotTables/pivotTable") = false :=
  decide_eq_false (not_infix_itoa m (by decide) (by decide) (by decide))

theorem contains_pivotTablePartName_caches (n : Nat) :
    contains (pivotTablePartName n) (utf8 "xl/pivotCache/pivotCacheDefinition") = false :=
  decide_eq_false (not_infix_itoa n (by decide) (by decide) (by decide))

theorem pivotCachePartName_ne_pivotTablePartName (m n : Nat) :
    pivotCachePartName m ≠ pivotTablePartName n := fun h => by
  have := contains_pivotTablePartName n
  rw [← h, contains_pivotCachePartName_tables] at this
  exact Bool.false_ne_true this

theorem take_pivotTableRelsName (n : Nat) : (pivotTableRelsName n).take 4 = utf8 "xl/p" := by
  rw [pivotTableRelsName, List.append_assoc, List.take_append_of_le_length (by decide)]; rfl

/-- A sheet's rels part is never a table's: they differ at the fourth byte. -/
theorem sheetRelsName_ne_pivotTableRelsName (p : GoString) (n : Nat) :
    sheetRelsName p ≠ pivotTableRelsName n := fun h => by
  have h4 := congrArg (List.take 4) h
  rw [take_pivotTableRelsName, sheetRelsName, List.append_assoc,
    List.take_append_of_le_length (by decide)] at h4
  exact absurd h4 (by decide)

/-! ## Numbered parts -/

/-- The parts whose name contains `sub` are exactly `name 1, …, name n`. -/
def Numbered (pkg : AList (fun _ : GoString => Part)) (sub : GoString) (name : Nat → GoString)
    (n : Nat) : Prop :=
  (pkg.keys.filter fun k => contains k sub).Perm ((List.range' 1 n).map name)

instance (pkg : AList (fun _ : GoString => Part)) (sub : GoString) (name : Nat → GoString)
    (n : Nat) : Decidable (Numbered pkg sub name n) :=
  inferInstanceAs (Decidable (List.Perm _ _))

section Numbered

variable {pkg : AList (fun _ : GoString => Part)} {sub : GoString} {name : Nat → GoString}
  {n : Nat}

theorem Numbered.count {f : File} (h : Numbered f.pkg sub name n) : f.countParts sub = n := by
  simpa [File.countParts] using h.length_eq

/-- **The next name is fresh** when the numbering is exact. -/
theorem Numbered.fresh (hinj : Function.Injective name) (hsub : ∀ i, contains (name i) sub = true)
    (h : Numbered pkg sub name n) : name (n + 1) ∉ pkg.keys := fun hk => by
  obtain ⟨i, hi, he⟩ := List.mem_map.mp (h.mem_iff.mp (List.mem_filter.mpr ⟨hk, hsub _⟩))
  rw [hinj he, List.mem_range'_1] at hi
  omega

theorem keys_insert_of_not_mem {k : GoString} {v : Part} (hk : k ∉ pkg.keys) :
    (pkg.insert k v).keys = k :: pkg.keys := by
  rw [AList.keys_insert, @List.erase_of_not_mem _ instBEqOfDecidableEq _ _ _ hk]

/-- Writing the next name keeps the numbering exact, one further. -/
theorem Numbered.insert_next (hinj : Function.Injective name)
    (hsub : ∀ i, contains (name i) sub = true) (h : Numbered pkg sub name n) (v : Part) :
    Numbered (pkg.insert (name (n + 1)) v) sub name (n + 1) := by
  unfold Numbered
  rw [keys_insert_of_not_mem (h.fresh hinj hsub), List.filter_cons, if_pos (hsub _),
    List.range'_concat, List.map_append, List.map_singleton, Nat.one_mul, Nat.add_comm 1 n]
  exact (h.cons _).trans (List.perm_append_singleton _ _).symm

/-- Writing a fresh name outside the family leaves the numbering as it is. -/
theorem Numbered.insert_other {k : GoString} (hk : k ∉ pkg.keys) (hc : contains k sub = false)
    (h : Numbered pkg sub name n) (v : Part) : Numbered (pkg.insert k v) sub name n := by
  unfold Numbered
  rwa [keys_insert_of_not_mem hk, List.filter_cons_of_neg (by simp [hc])]

end Numbered

/-- The pivot-table parts are exactly `pivotTable1.xml … pivotTable<n>.xml`. -/
abbrev TablesNumbered (pkg : AList (fun _ : GoString => Part)) (n : Nat) : Prop :=
  Numbered pkg (utf8 "xl/pivotTables/pivotTable") pivotTablePartName n

/-- The pivot-cache parts are exactly `pivotCacheDefinition1.xml … pivotCacheDefinition<m>.xml`. -/
abbrev CachesNumbered (pkg : AList (fun _ : GoString => Part)) (m : Nat) : Prop :=
  Numbered pkg (utf8 "xl/pivotCache/pivotCacheDefinition") pivotCachePartName m

theorem pivotTablePartName_injective : Function.Injective pivotTablePartName :=
  fun _ _ => pivotTablePartName_inj.mp

theorem pivotCachePartName_injective : Function.Injective pivotCachePartName :=
  fun _ _ => pivotCachePartName_inj.mp

end Excelize
