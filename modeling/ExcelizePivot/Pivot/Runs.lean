import ExcelizePivot.Pivot.Invariant

/-!
# Pivot/Runs — a client's calls, in order

A program using excelize calls `AddPivotTable` again and again on one `File`.  Some calls fail the
validation and return an error; the others write.  `runCalls f calls` is such a sequence from `f`:
the file after the calls, and what each call returned.  From a package without pivot parts, over
any sequence of calls of which at most `2^63 - 2` succeed:

* `runCalls_lockstep` — the three numberings advance in lockstep with the successful calls: after
  `k` of them the table parts are `1 … k` and the cache parts `1 … k`, the registry holds the
  `cacheId`s `2 … k + 1` in call order, and table `i` is named `Pivot Table<i>`, refers to
  `cacheId i + 1`, and its rels part targets cache part `i` alone;
* `runCalls_extends` — no write is lost: every part present after some of the calls is present,
  unchanged, after any later ones, and so is every relationship and every registry entry;
* `runCalls_cacheLinks`, `runCalls_sheetLinks` — read as a package reader reads it, every table a
  run wrote reaches its cache by both routes, and is linked from the sheet its call's
  `PivotTableRange` names, when that sheet lies directly in `xl/worksheets/`;
* `runCalls_contentTypes` — the pivot content types are those of table `1`, cache `1`, …, table
  `k`, cache `k`, each once, and no other content type is touched.

A failed call changes nothing (`AddPivotTable_fst_of_error`), so only the successful calls count.
-/

namespace Excelize

namespace File

/-- A client's calls of `AddPivotTable` on one file, in order: the file after them, and the error
each call returned. -/
def runCalls (f : File) : List (Option PivotTableOption) → File × List (Option Error)
  | [] => (f, [])
  | opts :: calls =>
    let r := (f.AddPivotTable opts).1.runCalls calls
    (r.1, (f.AddPivotTable opts).2 :: r.2)

/-- The number of calls that returned `nil`. -/
def successes (errs : List (Option Error)) : Nat := errs.countP Option.isNone

@[simp] theorem runCalls_nil (f : File) : f.runCalls [] = (f, []) := rfl

@[simp] theorem runCalls_cons (f : File) (opts : Option PivotTableOption)
    (calls : List (Option PivotTableOption)) :
    f.runCalls (opts :: calls) = (((f.AddPivotTable opts).1.runCalls calls).1,
      (f.AddPivotTable opts).2 :: ((f.AddPivotTable opts).1.runCalls calls).2) := rfl

/-- Running two sequences of calls is running the second from where the first left off. -/
theorem runCalls_append (f : File) (calls₁ calls₂ : List (Option PivotTableOption)) :
    f.runCalls (calls₁ ++ calls₂) = (((f.runCalls calls₁).1.runCalls calls₂).1,
      (f.runCalls calls₁).2 ++ ((f.runCalls calls₁).1.runCalls calls₂).2) := by
  induction calls₁ generalizing f with
  | nil => rfl
  | cons opts calls ih => simp [ih]

@[simp] theorem successes_nil : successes [] = 0 := rfl

@[simp] theorem successes_cons (e : Option Error) (errs : List (Option Error)) :
    successes (e :: errs) = successes errs + if e.isNone then 1 else 0 := by
  simp [successes, List.countP_cons]

theorem successes_append (errs₁ errs₂ : List (Option Error)) :
    successes (errs₁ ++ errs₂) = successes errs₁ + successes errs₂ :=
  List.countP_append _ _ _

/-- A call that returns an error leaves the file as it was. -/
theorem AddPivotTable_fst_of_error {f : File} {opts : Option PivotTableOption}
    (h : (f.AddPivotTable opts).2 ≠ none) : (f.AddPivotTable opts).1 = f := by
  rcases hp : f.parseFormatPivotTableSet opts with e | ⟨o, path⟩
  · simp only [AddPivotTable, hp]
  · obtain ⟨pc, pt, -, -, hadd⟩ := AddPivotTable_of_parse_ok hp
    rw [hadd] at h
    exact absurd rfl h

/-- A call never changes what the document's collaborators read. -/
theorem AddPivotTable_doc (f : File) (opts : Option PivotTableOption) :
    (f.AddPivotTable opts).1.doc = f.doc := by
  by_cases h : (f.AddPivotTable opts).2 = none
  · obtain ⟨_, _, _, _, -, hadd⟩ := AddPivotTable_writes h
    rw [hadd, pivotTableWrites_doc]
  · rw [AddPivotTable_fst_of_error h]

theorem runCalls_doc (f : File) (calls : List (Option PivotTableOption)) :
    (f.runCalls calls).1.doc = f.doc := by
  induction calls generalizing f with
  | nil => rfl
  | cons opts calls ih => rw [runCalls_cons, ih, AddPivotTable_doc]

/-! ## The registry after `k` calls -/

section Registry

variable {caches : List PivotCache} {k : Nat}

/-- The registry holds the `cacheId`s `2 … k + 1`, in order. -/
def RegistryIDs (caches : List PivotCache) (k : Nat) : Prop :=
  caches.map (·.cacheID.val) = (List.range' 2 k).map fun j : Nat => (j : Int)

theorem cacheID_le_of_registryIDs (h : RegistryIDs caches k) :
    ∀ e ∈ caches, e.cacheID.val ≤ k + 1 := fun e he => by
  have hv : e.cacheID.val ∈ caches.map (·.cacheID.val) := List.mem_map_of_mem _ he
  rw [h, List.mem_map] at hv
  obtain ⟨j, hj, hje⟩ := hv
  rw [List.mem_range'_1] at hj
  omega

/-- With the ids `2 … k + 1` registered, the largest is `k + 1` (the loop's start `1` when
`k = 0`). -/
theorem maxCacheID_of_registryIDs (h : RegistryIDs caches k) : (maxCacheID caches).val = k + 1 := by
  obtain ⟨-, h1, hall⟩ := foldl_maxStep caches GoInt.one
  refine le_antisymm (maxCacheID_le (by omega) (cacheID_le_of_registryIDs h)) ?_
  rcases k with _ | k
  · exact h1
  · have hv : ((k + 2 : Nat) : Int) ∈ caches.map (·.cacheID.val) := by
      rw [h, List.mem_map]
      exact ⟨k + 2, List.mem_range'_1.2 (by omega), rfl⟩
    obtain ⟨e, he, hev⟩ := List.mem_map.1 hv
    have := hall e he
    rw [hev] at this
    exact_mod_cast this

end Registry

/-! ## Lockstep -/

/-- After `k` successful calls from a package without pivot parts: the invariant at `k, k`; the
registry's `cacheId`s are `2 … k + 1` in call order; table `i` is named `Pivot Table<i>` and refers
to `cacheId i + 1`; and the rels part of table `i` targets cache part `i` alone. -/
structure Lockstep (f : File) (k : Nat) : Prop where
  inv : PivotCore f k k
  registry : RegistryIDs f.pivotCaches k
  table : ∀ i, 1 ≤ i → i ≤ k → ∃ pt, f.pkg.lookup (pivotTablePartName i) = some (.tableDefinition pt) ∧
    pt.name = utf8 "Pivot Table" ++ itoa i ∧ pt.cacheID.val = i + 1
  rels : ∀ i, 1 ≤ i → i ≤ k →
    pivotCacheTargets (f.relsReader (pivotTableRelsName i)) = [tablePivotCacheTarget i]
  cache : ∀ i, 1 ≤ i → i ≤ k → ∃ pc, f.pkg.lookup (pivotCachePartName i) = some (.cacheDefinition pc)

theorem Lockstep.of_noPivotParts {f : File} (hf : NoPivotParts f) : Lockstep f 0 where
  inv := (PivotInv.of_noPivotParts hf).toPivotCore
  registry := by rw [RegistryIDs, hf.no_registry]; rfl
  table := fun _ h1 h0 => absurd h0 (by omega)
  rels := fun _ h1 h0 => absurd h0 (by omega)
  cache := fun _ h1 h0 => absurd h0 (by omega)

/-- **One successful call** moves the lockstep from `k` to `k + 1`. -/
theorem Lockstep.step {g : File} {k : Nat} {opts : Option PivotTableOption} (hl : Lockstep g k)
    (hk : k < 9223372036854775806) (h : (g.AddPivotTable opts).2 = none) :
    Lockstep (g.AddPivotTable opts).1 (k + 1) := by
  have hmax : ∀ e ∈ g.pivotCaches, e.cacheID.val < GoInt.max := fun e he => by
    have := cacheID_le_of_registryIDs hl.registry e he
    simp only [GoInt.max]; omega
  have hM := maxCacheID_of_registryIDs hl.registry
  have hsucc : (maxCacheID g.pivotCaches).succ.val = k + 2 := by
    rw [GoInt.succ_val (by simp only [GoInt.max, hM]; omega), hM]; ring
  have hN : g.countPivotTables = k := hl.inv.tables.count
  have hC : g.countPivotCache = k := hl.inv.caches.count
  have hinv := hl.inv.of_AddPivotTable (not_wrapsOntoRegistered hmax) h
  obtain ⟨o, path, pc, pt, hpt, hadd⟩ := AddPivotTable_writes h
  rw [hadd] at hinv ⊢
  refine ⟨hinv, ?registry, ?table, ?rels, ?cache⟩
  case registry =>
    rw [RegistryIDs, pivotTableWrites_pivotCaches, List.map_append, hl.registry,
      List.range'_1_concat, List.map_append]
    simp [hsucc]
    omega
  case table =>
    intro i h1 hi
    rcases Nat.lt_or_ge i (k + 1) with hlt | hge
    · rw [lookup_pivotTableWrites_of_ne (by rw [hN, Ne, pivotTablePartName_inj]; omega)
        (pivotCachePartName_ne_pivotTablePartName _ _).symm]
      exact hl.table i h1 (by omega)
    · obtain rfl : i = k + 1 := by omega
      refine ⟨pt, hN ▸ lookup_pivotTableWrites_table, by rw [buildPivotTable_name hpt, hN],
        ?_⟩
      rw [buildPivotTable_cacheID hpt, hsucc]
      push_cast; ring
  case rels =>
    intro i h1 hi
    rcases Nat.lt_or_ge i (k + 1) with hlt | hge
    · rw [relsReader_pivotTableWrites_of_ne (hl.inv.workbook_rels_path i).symm
        (by rw [hN, Ne, pivotTableRelsName_inj]; omega)
        (sheetRelsName_ne_pivotTableRelsName _ _).symm]
      exact hl.rels i h1 (by omega)
    · obtain rfl : i = k + 1 := by omega
      rw [← hN, relsReader_pivotTableWrites_table (hl.inv.workbook_rels_path _),
        hl.inv.no_stale_rels _ (by omega), hC, hN]
      rfl
  case cache =>
    intro i h1 hi
    rcases Nat.lt_or_ge i (k + 1) with hlt | hge
    · rw [lookup_pivotTableWrites_of_ne (pivotCachePartName_ne_pivotTablePartName _ _)
        (by rw [hC, Ne, pivotCachePartName_inj]; omega)]
      exact hl.cache i h1 (by omega)
    · obtain rfl : i = k + 1 := by omega
      exact ⟨pc, hC ▸ lookup_pivotTableWrites_cache⟩

/-- A call keeps the lockstep, one further when it succeeds. -/
theorem Lockstep.call {g : File} {k : Nat} (opts : Option PivotTableOption) (hl : Lockstep g k)
    (hk : k + (if (g.AddPivotTable opts).2.isNone then 1 else 0) < 9223372036854775807) :
    Lockstep (g.AddPivotTable opts).1 (k + if (g.AddPivotTable opts).2.isNone then 1 else 0) := by
  by_cases h : (g.AddPivotTable opts).2 = none
  · simp only [h, Option.isNone_none, if_true] at hk ⊢
    exact hl.step (by omega) h
  · simpa [AddPivotTable_fst_of_error h, Option.isNone_iff_eq_none, h] using hl

theorem Lockstep.runCalls {g : File} {k : Nat} (hl : Lockstep g k)
    (calls : List (Option PivotTableOption))
    (hk : k + successes (g.runCalls calls).2 < 9223372036854775807) :
    Lockstep (g.runCalls calls).1 (k + successes (g.runCalls calls).2) := by
  induction calls generalizing g k with
  | nil => simpa using hl
  | cons opts calls ih =>
    simp only [runCalls_cons, successes_cons] at hk ⊢
    rw [show ∀ a b c : Nat, a + (b + c) = a + c + b from fun _ _ _ => by omega]
    exact ih (hl.call opts (by omega)) (by omega)

/-- **The numberings advance in lockstep with the successful calls.**  From a package without
pivot parts, after any sequence of calls of which `k ≤ 2^63 - 2` succeed, failures anywhere among
them: the table parts are exactly `1 … k` and the cache parts exactly `1 … k`; the registry holds
the `cacheId`s `2 … k + 1`, in call order; and table `i` is named `Pivot Table<i>`, refers to
`cacheId i + 1`, and its rels part targets cache part `i` alone. -/
theorem runCalls_lockstep {f : File} (hf : NoPivotParts f) (calls : List (Option PivotTableOption))
    (hk : successes (f.runCalls calls).2 < 9223372036854775807) :
    TablesNumbered (f.runCalls calls).1.pkg (successes (f.runCalls calls).2) ∧
    CachesNumbered (f.runCalls calls).1.pkg (successes (f.runCalls calls).2) ∧
    RegistryIDs (f.runCalls calls).1.pivotCaches (successes (f.runCalls calls).2) ∧
    ∀ i, 1 ≤ i → i ≤ successes (f.runCalls calls).2 →
      (∃ pt, (f.runCalls calls).1.pkg.lookup (pivotTablePartName i) = some (.tableDefinition pt) ∧
        pt.name = utf8 "Pivot Table" ++ itoa i ∧ pt.cacheID.val = i + 1) ∧
      pivotCacheTargets ((f.runCalls calls).1.relsReader (pivotTableRelsName i)) =
        [tablePivotCacheTarget i] := by
  have hl := (Lockstep.of_noPivotParts hf).runCalls calls (by omega)
  rw [Nat.zero_add] at hl
  exact ⟨hl.inv.tables, hl.inv.caches, hl.registry,
    fun i h1 hi => ⟨hl.table i h1 hi, hl.rels i h1 hi⟩⟩

/-- Three calls on the sales example, the second without options. -/
def salesCalls : List (Option PivotTableOption) := [some salesOptions, none, some salesOptions]

theorem successes_salesCalls : successes ((headerFile salesHeader).runCalls salesCalls).2 = 2 := rfl

/-- On `salesCalls` two calls succeed, and the second table is `Pivot Table2`, refers to
`cacheId 3`, and its rels part links cache part 2. -/
theorem runCalls_lockstep_sales :
    successes ((headerFile salesHeader).runCalls salesCalls).2 = 2 ∧
    (∃ pt, ((headerFile salesHeader).runCalls salesCalls).1.pkg.lookup (pivotTablePartName 2) =
        some (.tableDefinition pt) ∧ pt.name = utf8 "Pivot Table" ++ itoa 2 ∧ pt.cacheID.val = 3) ∧
    pivotCacheTargets (((headerFile salesHeader).runCalls salesCalls).1.relsReader
      (pivotTableRelsName 2)) = [tablePivotCacheTarget 2] :=
  have h := (runCalls_lockstep (headerFile_noPivotParts salesHeader) salesCalls
    (by rw [successes_salesCalls]; decide)).2.2.2 2 (by decide) successes_salesCalls.ge
  ⟨successes_salesCalls, h.1, h.2⟩

/-! ## No write is lost -/

/-- `h` extends `g`: every part of `g` is in `h` unchanged, every relationship of `g` is in `h`,
and `g`'s registry is a prefix of `h`'s. -/
structure Extends (g h : File) : Prop where
  parts : ∀ name p, g.pkg.lookup name = some p → h.pkg.lookup name = some p
  rels : ∀ q r, r ∈ g.relsReader q → r ∈ h.relsReader q
  registry : g.pivotCaches <+: h.pivotCaches

theorem Extends.refl (g : File) : Extends g g :=
  ⟨fun _ _ h => h, fun _ _ h => h, List.prefix_refl _⟩

theorem Extends.trans {g h i : File} (hgh : Extends g h) (hhi : Extends h i) : Extends g i :=
  ⟨fun n p hp => hhi.parts n p (hgh.parts n p hp), fun q r hr => hhi.rels q r (hgh.rels q r hr),
    hgh.registry.trans hhi.registry⟩

/-- **A call never overwrites**: under the invariant, every part there was keeps its content,
since the two parts written are fresh. -/
theorem Extends.of_call {g : File} {n m : Nat} (hinv : PivotCore g n m)
    (opts : Option PivotTableOption) : Extends g (g.AddPivotTable opts).1 := by
  by_cases h : (g.AddPivotTable opts).2 = none
  · obtain ⟨o, path, pc, pt, -, hadd⟩ := AddPivotTable_writes h
    have hT := hinv.tables.fresh pivotTablePartName_injective contains_pivotTablePartName
    have hC := hinv.caches.fresh pivotCachePartName_injective contains_pivotCachePartName
    rw [← hinv.tables.count] at hT
    rw [← hinv.caches.count] at hC
    rw [hadd]
    refine ⟨fun name p hp => ?_, fun q r hr => mem_relsReader_pivotTableWrites hr,
      by rw [pivotTableWrites_pivotCaches]; exact List.prefix_append _ _⟩
    have hk : name ∈ g.pkg.keys := AList.mem_keys.2 (AList.lookup_isSome.1 (by rw [hp]; rfl))
    rw [lookup_pivotTableWrites_of_ne (fun he => hT (he ▸ hk)) (fun he => hC (he ▸ hk)), hp]
  · rw [AddPivotTable_fst_of_error h]
    exact Extends.refl g

theorem Lockstep.extends_runCalls {g : File} {k : Nat} (hl : Lockstep g k)
    (calls : List (Option PivotTableOption))
    (hk : k + successes (g.runCalls calls).2 < 9223372036854775807) :
    Extends g (g.runCalls calls).1 := by
  induction calls generalizing g k with
  | nil => exact Extends.refl g
  | cons opts calls ih =>
    simp only [runCalls_cons, successes_cons] at hk ⊢
    exact (Extends.of_call hl.inv opts).trans (ih (hl.call opts (by omega)) (by omega))

/-- **No write is lost.**  From a package without pivot parts, over any sequence of calls of which
at most `2^63 - 2` succeed: every part present after the first calls is present, with the same
content, after any later ones; so is every relationship, and the registry only grows at its end. -/
theorem runCalls_extends {f : File} (hf : NoPivotParts f)
    (calls₁ calls₂ : List (Option PivotTableOption))
    (hk : successes (f.runCalls (calls₁ ++ calls₂)).2 < 9223372036854775807) :
    Extends (f.runCalls calls₁).1 (f.runCalls (calls₁ ++ calls₂)).1 := by
  rw [runCalls_append] at hk ⊢
  rw [successes_append] at hk
  have hl := (Lockstep.of_noPivotParts hf).runCalls calls₁ (by omega)
  exact hl.extends_runCalls calls₂ (by omega)

/-- On the sales example, a failed call and a second table keep the first call's parts. -/
theorem runCalls_extends_sales :
    successes ((headerFile salesHeader).runCalls
      ([some salesOptions] ++ [none, some salesOptions])).2 < 9223372036854775807 ∧
    Extends ((headerFile salesHeader).runCalls [some salesOptions]).1
      ((headerFile salesHeader).runCalls ([some salesOptions] ++ [none, some salesOptions])).1 :=
  have hk : successes ((headerFile salesHeader).runCalls
      ([some salesOptions] ++ [none, some salesOptions])).2 < 9223372036854775807 := by
    rw [show successes ((headerFile salesHeader).runCalls
      ([some salesOptions] ++ [none, some salesOptions])).2 = 2 from rfl]
    decide
  ⟨hk, runCalls_extends (headerFile_noPivotParts salesHeader) _ _ hk⟩

/-! ## What a reader finds after a run

Read as a package reader reads it (`Pivot/Links`), every table a run wrote reaches its own cache by
both routes, and is linked from the sheet its call's `PivotTableRange` names, when that sheet lies
directly in `xl/worksheets/`; later calls keep both. -/

/-- **Every table a run wrote reaches its cache by both routes.**  From a package without pivot
parts whose workbook part's rels part is the one the document names, over any sequence of calls of
which at most `2^63 - 2` succeed: table `i` and cache `i` are there, and the table's rels part and
its `cacheId`, through the registry and the workbook's relationships, both lead to cache part
`i`. -/
theorem runCalls_cacheLinks {f : File} (hf : NoPivotParts f) {workbookPart : GoString}
    (hwb : relsPartName workbookPart = f.doc.getWorkbookRelsPath)
    (calls : List (Option PivotTableOption))
    (hk : successes (f.runCalls calls).2 < 9223372036854775807) :
    ∀ i, 1 ≤ i → i ≤ successes (f.runCalls calls).2 →
      ∃ pt pc,
        (f.runCalls calls).1.pkg.lookup (pivotTablePartName i) = some (.tableDefinition pt) ∧
        (f.runCalls calls).1.pkg.lookup (pivotCachePartName i) = some (.cacheDefinition pc) ∧
        (f.runCalls calls).1.linkedParts (pivotTablePartName i) .pivotCache =
          [pivotCachePartName i] ∧
        (f.runCalls calls).1.registryCachePart workbookPart pt.cacheID =
          some (pivotCachePartName i) := by
  intro i h1 hi
  have hl := (Lockstep.of_noPivotParts hf).runCalls calls (by omega)
  rw [Nat.zero_add] at hl
  obtain ⟨pt, j, hpt, htg, hlink, hreg⟩ :=
    hl.inv.routes (by rw [runCalls_doc]; exact hwb) h1 hi
  have hj : j = i := by
    have := htg.symm.trans (hl.rels i h1 hi)
    simpa only [List.cons.injEq, and_true, tablePivotCacheTarget, itoa_affix_inj] using this
  subst hj
  obtain ⟨pc, hpc⟩ := hl.cache j h1 hi
  exact ⟨pt, pc, hpt, hpc, hlink, hreg⟩

/-- On `salesCalls`, read from `xl/workbook.xml`, the second table reaches cache part 2 by both
routes. -/
theorem runCalls_cacheLinks_sales :
    relsPartName (utf8 "xl/workbook.xml") = utf8 "xl/_rels/workbook.xml.rels" ∧
    ∃ pt pc, ((headerFile salesHeader).runCalls salesCalls).1.pkg.lookup (pivotTablePartName 2) =
        some (.tableDefinition pt) ∧
      ((headerFile salesHeader).runCalls salesCalls).1.pkg.lookup (pivotCachePartName 2) =
        some (.cacheDefinition pc) ∧
      ((headerFile salesHeader).runCalls salesCalls).1.linkedParts (pivotTablePartName 2)
        .pivotCache = [pivotCachePartName 2] ∧
      ((headerFile salesHeader).runCalls salesCalls).1.registryCachePart (utf8 "xl/workbook.xml")
        pt.cacheID = some (pivotCachePartName 2) :=
  have hwb : relsPartName (utf8 "xl/workbook.xml") = utf8 "xl/_rels/workbook.xml.rels" := rfl
  ⟨hwb, runCalls_cacheLinks (headerFile_noPivotParts salesHeader) hwb salesCalls
    (by rw [successes_salesCalls]; decide) 2 (by decide) successes_salesCalls.ge⟩

/-- **A successful call links its table from the sheet its `PivotTableRange` names**, when that
sheet lies directly in `xl/worksheets/`: the sheet's rels part, read as the format reads it, holds
a pivot-table relationship to table `k + 1`. -/
theorem Lockstep.sheetLinked_call {g : File} {k : Nat} {o : PivotTableOption} (hl : Lockstep g k)
    (hplace : ∀ s r path, g.adjustRange o.pivotTableRange = .ok (s, r) →
      g.doc.getSheetXMLPath s = some path →
        ∃ b, path = utf8 "xl/worksheets/" ++ b ∧ slash ∉ b)
    (hok : (g.AddPivotTable (some o)).2 = none) :
    ∃ s r path, g.adjustRange o.pivotTableRange = .ok (s, r) ∧
      g.doc.getSheetXMLPath s = some path ∧
      pivotTablePartName (k + 1) ∈ (g.AddPivotTable (some o)).1.linkedParts path .pivotTable := by
  obtain ⟨s, r, path, -, pc, pt, hr, hs, -, hadd⟩ := AddPivotTable_placed hok
  obtain ⟨b, rfl, hb⟩ := hplace s r path hr hs
  obtain ⟨_, hrel, hrt, hrtg⟩ := @sheetRel_pivotTableWrites g _ pc pt
  rw [hadd, ← hl.inv.tables.count]
  exact ⟨_, r, _, hr, hs, mem_linkedParts_of_sheetRel hb hrel hrt hrtg⟩

/-- **Every table a run wrote is linked from the sheet its call placed it on.**  From a package
without pivot parts, when a call with options `o` succeeds after the calls `calls₁`, and the sheet
`o`'s `PivotTableRange` names lies directly in `xl/worksheets/`: that sheet's rels part, read as
the format reads it, links the table the call wrote, numbered one past the successes before it,
after any later calls `calls₂` too. -/
theorem runCalls_sheetLinks {f : File} (hf : NoPivotParts f)
    (calls₁ : List (Option PivotTableOption)) (o : PivotTableOption)
    (calls₂ : List (Option PivotTableOption))
    (hplace : ∀ s r path, f.adjustRange o.pivotTableRange = .ok (s, r) →
      f.doc.getSheetXMLPath s = some path →
        ∃ b, path = utf8 "xl/worksheets/" ++ b ∧ slash ∉ b)
    (hk : successes (f.runCalls (calls₁ ++ some o :: calls₂)).2 < 9223372036854775807)
    (hok : ((f.runCalls calls₁).1.AddPivotTable (some o)).2 = none) :
    ∃ s r path, f.adjustRange o.pivotTableRange = .ok (s, r) ∧
      f.doc.getSheetXMLPath s = some path ∧
      pivotTablePartName (successes (f.runCalls calls₁).2 + 1) ∈
        (f.runCalls (calls₁ ++ some o :: calls₂)).1.linkedParts path .pivotTable := by
  rw [runCalls_append, runCalls_cons] at hk ⊢
  simp only [successes_append, successes_cons, hok, Option.isNone_none, if_true] at hk
  have hl := (Lockstep.of_noPivotParts hf).runCalls calls₁ (by omega)
  rw [Nat.zero_add] at hl
  have hdoc := runCalls_doc f calls₁
  have hrange := adjustRange_congr hdoc
  obtain ⟨s, r, path, hr, hs, hlink⟩ :=
    hl.sheetLinked_call (fun s r p h₁ h₂ => hplace s r p (hrange ▸ h₁) (hdoc ▸ h₂)) hok
  have hext := (hl.step (by omega) hok).extends_runCalls calls₂ (by omega)
  exact ⟨s, r, path, hrange ▸ hr, hdoc ▸ hs,
    mem_linkedParts_of_subset (fun x hx => hext.rels _ x hx) hlink⟩

/-- On the sales example, the third call (after a failed one) links the second table from
`Sheet1`, the sheet its `PivotTableRange` names. -/
theorem runCalls_sheetLinks_sales :
    ∃ s r path, (headerFile salesHeader).adjustRange salesOptions.pivotTableRange = .ok (s, r) ∧
      (headerFile salesHeader).doc.getSheetXMLPath s = some path ∧
      pivotTablePartName (successes ((headerFile salesHeader).runCalls [some salesOptions, none]).2
        + 1) ∈ ((headerFile salesHeader).runCalls
          ([some salesOptions, none] ++ some salesOptions :: [])).1.linkedParts path .pivotTable :=
  runCalls_sheetLinks (headerFile_noPivotParts salesHeader) [some salesOptions, none] salesOptions
    [] (fun _ _ _ _ hs => ⟨utf8 "sheet1.xml", (Option.some.inj hs).symm, by decide⟩)
    (by rw [show successes ((headerFile salesHeader).runCalls
      ([some salesOptions, none] ++ some salesOptions :: [])).2 = 2 from rfl]; decide) rfl

/-! ## Content types

A successful call registers the content type of the two parts it writes, each once
(`addContentTypePart`).  Run after run, the package then types every pivot part it holds and
nothing else: after `k` successful calls the pivot overrides are those of table `1`, cache `1`, …,
table `k`, cache `k`, in call order, and the overrides of every other type are as they were. -/

/-- The content types `AddPivotTable` registers. -/
def isPivotContentType (c : GoString) : Bool := c == utf8 "pivotTable" || c == utf8 "pivotCache"

/-- The content-type overrides of pivot parts. -/
def pivotOverrides (f : File) : List (GoString × Nat) :=
  f.overrides.filter fun o => isPivotContentType o.1

/-- The content-type overrides of every other part. -/
def otherOverrides (f : File) : List (GoString × Nat) :=
  f.overrides.filter fun o => !isPivotContentType o.1

/-- The pivot overrides after `k` calls: table `i`, then cache `i`, for `i = 1 … k`. -/
def pivotContentTypes (k : Nat) : List (GoString × Nat) :=
  (List.range' 1 k).flatMap fun i => [(utf8 "pivotTable", i), (utf8 "pivotCache", i)]

theorem le_of_mem_pivotContentTypes {k : Nat} {o : GoString × Nat}
    (h : o ∈ pivotContentTypes k) : o.2 ≤ k := by
  obtain ⟨i, hi, ho⟩ := List.mem_flatMap.1 h
  rw [List.mem_range'_1] at hi
  rcases List.mem_pair.1 ho with rfl | rfl <;> dsimp only <;> omega

theorem pivotContentTypes_succ (k : Nat) :
    pivotContentTypes (k + 1) =
      pivotContentTypes k ++ [(utf8 "pivotTable", k + 1), (utf8 "pivotCache", k + 1)] := by
  rw [pivotContentTypes, List.range'_1_concat, List.flatMap_append, Nat.add_comm 1 k]
  simp only [List.flatMap_cons, List.flatMap_nil, List.append_nil]
  rfl

theorem otherOverrides_addContentTypePart (f : File) (i : Nat) {c : GoString}
    (hc : isPivotContentType c = true) :
    otherOverrides (f.addContentTypePart i c) = otherOverrides f := by
  by_cases h : (c, i) ∈ f.overrides
  · rw [otherOverrides, addContentTypePart_overrides_of_mem h]; rfl
  · rw [otherOverrides, addContentTypePart_overrides_of_not_mem h, List.filter_append]
    simp [hc, otherOverrides]

/-- A call never touches the content type of a part of another type. -/
theorem otherOverrides_AddPivotTable (f : File) (opts : Option PivotTableOption) :
    otherOverrides (f.AddPivotTable opts).1 = otherOverrides f := by
  by_cases h : (f.AddPivotTable opts).2 = none
  · obtain ⟨_, _, _, _, -, hadd⟩ := AddPivotTable_writes h
    rw [hadd, otherOverrides, pivotTableWrites_overrides, ← otherOverrides,
      otherOverrides_addContentTypePart _ _ (c := utf8 "pivotCache") rfl,
      otherOverrides_addContentTypePart _ _ (c := utf8 "pivotTable") rfl]
  · rw [AddPivotTable_fst_of_error h]

theorem otherOverrides_runCalls (f : File) (calls : List (Option PivotTableOption)) :
    otherOverrides (f.runCalls calls).1 = otherOverrides f := by
  induction calls generalizing f with
  | nil => rfl
  | cons opts calls ih => rw [runCalls_cons, ih, otherOverrides_AddPivotTable]

/-- With the pivot overrides of `k` calls and `k` parts of each kind, the writes register table
`k + 1` and cache `k + 1`, both fresh, at the end. -/
theorem pivotOverrides_pivotTableWrites {f : File} {k : Nat} {path : GoString}
    {pc : PivotCacheDefinition} {pt : PivotTableDefinition}
    (ht : pivotOverrides f = pivotContentTypes k) (hN : f.countPivotTables = k)
    (hC : f.countPivotCache = k) :
    pivotOverrides (f.pivotTableWrites path pc pt) = pivotContentTypes (k + 1) := by
  have hfresh : ∀ c, isPivotContentType c = true → (c, k + 1) ∉ f.overrides :=
      fun c hc hm => by
    have h : (c, k + 1) ∈ pivotOverrides f := List.mem_filter.2 ⟨hm, hc⟩
    rw [ht] at h
    exact absurd (le_of_mem_pivotContentTypes h) (by omega)
  have htable := addContentTypePart_overrides_of_not_mem (hfresh (utf8 "pivotTable") rfl)
  have hcache : (utf8 "pivotCache", k + 1) ∉
      (f.addContentTypePart (k + 1) (utf8 "pivotTable")).overrides := by
    simp only [htable, List.mem_append, List.mem_singleton, Prod.mk.injEq, not_or]
    exact ⟨hfresh _ rfl, fun h => absurd h.1 (by decide)⟩
  have hkeep : ∀ o : GoString × Nat, isPivotContentType o.1 = true →
      [o].filter (fun o => isPivotContentType o.1) = [o] := fun o ho => by simp [ho]
  rw [pivotOverrides, pivotTableWrites_overrides, hN, hC,
    addContentTypePart_overrides_of_not_mem hcache, htable, List.filter_append, List.filter_append,
    ← pivotOverrides, ht, hkeep (utf8 "pivotTable", k + 1) rfl,
    hkeep (utf8 "pivotCache", k + 1) rfl, pivotContentTypes_succ, List.append_assoc]
  rfl

/-- A call keeps the pivot overrides in step with the lockstep. -/
theorem Lockstep.pivotOverrides_call {g : File} {k : Nat} (hl : Lockstep g k)
    (ht : pivotOverrides g = pivotContentTypes k) (opts : Option PivotTableOption) :
    pivotOverrides (g.AddPivotTable opts).1 =
      pivotContentTypes (k + if (g.AddPivotTable opts).2.isNone then 1 else 0) := by
  by_cases h : (g.AddPivotTable opts).2 = none
  · obtain ⟨_, _, _, _, -, hadd⟩ := AddPivotTable_writes h
    rw [h, hadd]
    exact pivotOverrides_pivotTableWrites ht hl.inv.tables.count hl.inv.caches.count
  · simpa [AddPivotTable_fst_of_error h, Option.isNone_iff_eq_none, h] using ht

theorem Lockstep.pivotOverrides_runCalls {g : File} {k : Nat} (hl : Lockstep g k)
    (ht : pivotOverrides g = pivotContentTypes k) (calls : List (Option PivotTableOption))
    (hk : k + successes (g.runCalls calls).2 < 9223372036854775807) :
    pivotOverrides (g.runCalls calls).1 =
      pivotContentTypes (k + successes (g.runCalls calls).2) := by
  induction calls generalizing g k with
  | nil => simpa using ht
  | cons opts calls ih =>
    simp only [runCalls_cons, successes_cons] at hk ⊢
    rw [show ∀ a b c : Nat, a + (b + c) = a + c + b from fun _ _ _ => by omega]
    exact ih (hl.call opts (by omega)) (hl.pivotOverrides_call ht opts) (by omega)

/-- **Every pivot part is typed, once, and nothing else is.**  From a package without pivot parts
or pivot content types, after any sequence of calls of which `k ≤ 2^63 - 2` succeed: the pivot
overrides are table `1`, cache `1`, …, table `k`, cache `k`, in call order and each once, so
exactly the parts of `runCalls_lockstep`; and the overrides of every other type are those the
package started with. -/
theorem runCalls_contentTypes {f : File} (hf : NoPivotParts f) (ht : pivotOverrides f = [])
    (calls : List (Option PivotTableOption))
    (hk : successes (f.runCalls calls).2 < 9223372036854775807) :
    pivotOverrides (f.runCalls calls).1 = pivotContentTypes (successes (f.runCalls calls).2) ∧
    otherOverrides (f.runCalls calls).1 = otherOverrides f := by
  have h := (Lockstep.of_noPivotParts hf).pivotOverrides_runCalls ht calls (by omega)
  rw [Nat.zero_add] at h
  exact ⟨h, otherOverrides_runCalls f calls⟩

theorem runCalls_contentTypes_sales :
    pivotOverrides ((headerFile salesHeader).runCalls salesCalls).1 = pivotContentTypes 2 ∧
    otherOverrides ((headerFile salesHeader).runCalls salesCalls).1 = [] := by
  have h := runCalls_contentTypes (headerFile_noPivotParts salesHeader) rfl salesCalls
    (by rw [successes_salesCalls]; decide)
  rwa [successes_salesCalls] at h

end File

end Excelize
