import ExcelizePivot.Pivot.AxisLists
import ExcelizePivot.Go.Utf8

/-!
# Pivot/DisplayNames — the display names a table definition carries

`getPivotTableFieldsName` keeps a display name of at most `MaxFieldLength` bytes and cuts a longer
one to its first `MaxFieldLength` bytes (`truncatedName_eq_take`): `len(fld.Name)` and
`fld.Name[:MaxFieldLength]` count bytes, where the doc comment of `PivotTableField` speaks of
characters.  The two agree on ASCII text only.

* `buildPivotTable_displayNames` — every display name the definition carries, through
  `getPivotTableFieldName` in the pivot fields and through `getPivotTableFieldsName` in the page and
  data fields, is a declared name so cut;
* `truncatedName_of_isASCII` — an ASCII name keeps its first `MaxFieldLength` characters, all of
  them when it has no more;
* a cut after a whole character leaves valid UTF-8 (`validUTF8_truncatedName`), a cut after a lead
  byte does not (`not_validUTF8_truncatedName`);
* a name of 128 `é`, 128 characters in 256 bytes, is cut although it is within the limit, and cut
  into invalid UTF-8 (`displayName_splits_character`).
-/

namespace Excelize

/-! ## One display name -/

section Text

variable {fld : PivotTableField} {s : String}

/-- **An ASCII display name** keeps its first `MaxFieldLength` characters. -/
theorem truncatedName_of_isASCII (hs : fld.name = utf8 s) (h : IsASCII s) :
    truncatedName fld = utf8 ⟨s.data.take MaxFieldLength⟩ := by
  rw [truncatedName_eq_take, hs, take_utf8_of_isASCII h]

/-- Three hundred `a`s: an ASCII name longer than `MaxFieldLength`. -/
def longName : String := ⟨List.replicate 300 'a'⟩

/-- The name of three hundred `a`s is cut to its first 255. -/
theorem truncatedName_of_isASCII_long :
    MaxFieldLength < (utf8 longName).length ∧
    (sampleField "Sales" longName "" true).name = utf8 longName ∧ IsASCII longName ∧
    truncatedName (sampleField "Sales" longName "" true) =
      utf8 ⟨longName.data.take MaxFieldLength⟩ :=
  have hascii : IsASCII longName := fun c hc => by rw [List.eq_of_mem_replicate hc]; decide
  ⟨by
    rw [length_utf8]
    simp only [longName, List.map_replicate, List.sum_replicate, smul_eq_mul]
    decide, rfl, hascii, truncatedName_of_isASCII rfl hascii⟩

/-- A display name that is kept whole, or cut after a whole character, is valid UTF-8. -/
theorem validUTF8_truncatedName (hs : fld.name = utf8 s)
    (hcut : (utf8 s).length ≤ MaxFieldLength ∨
      ∃ j, (utf8 ⟨s.data.take j⟩).length = MaxFieldLength) :
    ValidUTF8 (truncatedName fld) := by
  rw [truncatedName_eq_take, hs]
  rcases hcut with hle | ⟨j, hj⟩
  · rw [List.take_of_length_le hle]; exact validUTF8_utf8 s
  · rw [← hj, take_utf8_prefix]; exact validUTF8_utf8 _

/-- An `a` and two hundred `é`s, 401 bytes, whose first 128 characters take 255 bytes. -/
def accentedLongName : String := ⟨'a' :: List.replicate 200 'é'⟩

/-- The name of an `a` and two hundred `é`s is cut after its 128th character, and stays valid
UTF-8. -/
theorem validUTF8_truncatedName_accented :
    (sampleField "Sales" accentedLongName "" true).name = utf8 accentedLongName ∧
    (utf8 ⟨accentedLongName.data.take 128⟩).length = MaxFieldLength ∧
    MaxFieldLength < (utf8 accentedLongName).length ∧
    ValidUTF8 (truncatedName (sampleField "Sales" accentedLongName "" true)) :=
  have hcut : (utf8 ⟨accentedLongName.data.take 128⟩).length = MaxFieldLength := by
    rw [length_utf8]
    simp only [accentedLongName, List.take_succ_cons, List.take_replicate, List.map_cons,
      List.map_replicate, List.sum_cons, List.sum_replicate, smul_eq_mul]
    decide
  ⟨rfl, hcut, by
    rw [length_utf8]
    simp only [accentedLongName, List.map_cons, List.map_replicate, List.sum_cons,
      List.sum_replicate, smul_eq_mul]
    decide, validUTF8_truncatedName rfl (.inr ⟨128, hcut⟩)⟩

end Text

/-- **A display name cut after a lead byte is not valid UTF-8.** -/
theorem not_validUTF8_truncatedName {fld : PivotTableField} {b : UInt8}
    (hb : fld.name[MaxFieldLength - 1]? = some b) (hlead : 0xC0 ≤ b.toNat) :
    ¬ ValidUTF8 (truncatedName fld) := by
  rw [truncatedName_eq_take, show MaxFieldLength = MaxFieldLength - 1 + 1 from rfl,
    List.take_succ, hb, Option.toList_some]
  exact not_validUTF8_of_lead hlead

/-! ## Through the emitters -/

/-- The name `getPivotTableFieldName` finds is that of an entry of the list, or empty. -/
theorem getPivotTableFieldName_mem (name : GoString) (fields : List PivotTableField) :
    getPivotTableFieldName name fields = [] ∨
      ∃ fld ∈ fields, getPivotTableFieldName name fields = truncatedName fld := by
  rw [getPivotTableFieldName_eq]
  cases h : fields.find? (·.data == name) with
  | none => exact .inl rfl
  | some fld => exact .inr ⟨fld, List.mem_of_find?_eq_some h, rfl⟩

/-- A pivot field's display name is that of a Rows or Columns entry, or empty. -/
theorem pivotFieldOf_name_mem (opts : PivotTableOption) (x : GoString) :
    (pivotFieldOf opts x).name = [] ∨
      ∃ fld ∈ opts.rows ++ opts.columns, (pivotFieldOf opts x).name = truncatedName fld := by
  have hr := getPivotTableFieldName_mem x opts.rows
  have hc := getPivotTableFieldName_mem x opts.columns
  rw [pivotFieldOf_name]
  split_ifs
  · exact hr.imp_right fun ⟨fld, hf, he⟩ => ⟨fld, List.mem_append_left _ hf, he⟩
  · exact hc.imp_right fun ⟨fld, hf, he⟩ => ⟨fld, List.mem_append_right _ hf, he⟩
  · exact .inl rfl

/-- The `idx`-th value of a list read entry by entry, within it, is that of one of its entries. -/
theorem getD_map_mem {β : Type} {g : PivotTableField → β} {d : β} {fields : List PivotTableField}
    {idx : Nat} (h : idx < fields.length) : ∃ fld ∈ fields, (fields.map g).getD idx d = g fld :=
  ⟨fields[idx], List.getElem_mem h, by simp [h]⟩

/-- Each entry the page or data builder appends takes its value from the declared entry at its
place, and there is one: a list has no more header positions than entries. -/
theorem exists_mem_of_appendAxisFields {α β : Type} {proj : α → β} {g : PivotTableField → β}
    {d : β} {entry : Nat → Int → α} {fields : List PivotTableField} {order : List GoString}
    (hproj : ∀ idx i, proj (entry idx i) = (fields.map g).getD idx d)
    {a : α} (ha : a ∈ sectionItems (appendAxisFields entry (fieldPositions order fields) none)) :
    ∃ fld ∈ fields, proj a = g fld := by
  rw [sectionItems_appendAxisFields, List.mem_map] at ha
  obtain ⟨⟨idx, i⟩, hp, rfl⟩ := ha
  rw [hproj]
  exact getD_map_mem (lt_of_lt_of_le (List.fst_lt_of_mem_enum hp) (List.length_filterMap_le _ _))

/-- **Every display name the definition carries** is a declared name cut to `MaxFieldLength`
bytes: a pivot field's that of a Rows or Columns entry (or empty), a page field's that of a Filter
entry, a data field's that of a Data entry. -/
theorem buildPivotTable_displayNames {f : File} {c : GoInt} {p : Nat} {opts : PivotTableOption}
    {pt : PivotTableDefinition} (hpt : f.buildPivotTable c p opts = .ok pt) :
    (∀ pf ∈ pt.pivotFields.items,
      pf.name = [] ∨ ∃ fld ∈ opts.rows ++ opts.columns, pf.name = truncatedName fld) ∧
    (∀ pf ∈ sectionItems pt.pageFields, ∃ fld ∈ opts.filter, pf.name = truncatedName fld) ∧
    (∀ df ∈ sectionItems pt.dataFields, ∃ fld ∈ opts.data, df.name = truncatedName fld) := by
  rcases hord : f.getPivotFieldsOrder opts with ⟨order, _ | e⟩
  · obtain ⟨-, hpf, -, -, hpage, hdata⟩ := File.buildPivotTable_eq hord hpt
    refine ⟨?_, ?_, ?_⟩
    · rw [hpf]
      intro pf hmem
      obtain ⟨x, -, rfl⟩ := List.mem_map.1 hmem
      exact pivotFieldOf_name_mem opts x
    · rw [hpage]; exact fun _ => exists_mem_of_appendAxisFields fun _ _ => rfl
    · rw [hdata]; exact fun _ => exists_mem_of_appendAxisFields fun _ _ => rfl
  · obtain ⟨x1, y1, x2, y2, rfl⟩ := File.buildPivotTable_ok hpt
    rw [File.addPivotTableFields_of_error hord]
    simp [File.pivotTableSkeleton, sectionItems]

theorem buildPivotTable_displayNames_sales :
    ∃ pt, (headerFile salesHeader).buildPivotTable GoInt.one 1 salesOptions = .ok pt ∧
      (∀ pf ∈ pt.pivotFields.items, pf.name = [] ∨
        ∃ fld ∈ salesOptions.rows ++ salesOptions.columns, pf.name = truncatedName fld) ∧
      (∀ pf ∈ sectionItems pt.pageFields, ∃ fld ∈ salesOptions.filter, pf.name = truncatedName fld) ∧
      (∀ df ∈ sectionItems pt.dataFields, ∃ fld ∈ salesOptions.data, df.name = truncatedName fld) :=
  ⟨_, rfl,
    @buildPivotTable_displayNames (headerFile salesHeader) GoInt.one 1 salesOptions _ rfl⟩

/-! ## A name within the limit, cut into invalid UTF-8 -/

/-- 128 `é`: 128 characters, 256 bytes. -/
def accentedText : String := ⟨List.replicate 128 'é'⟩

/-- The display name `accentedText`, declared for the Rows and Data entry `A`, has 128
characters, within `MaxFieldLength`, and is valid UTF-8.  The pivot field and the data field of `A`
both carry its first 255 bytes instead: not the name, and not valid UTF-8, since they end in the
lead byte of the last `é`. -/
theorem displayName_splits_character :
    accentedText.length ≤ MaxFieldLength ∧ ValidUTF8 (utf8 accentedText) ∧
    ((headerFile [utf8 "A"]).buildPivotTable GoInt.one 1
        (sampleOptions [sampleField "A" accentedText "" true] []
          [sampleField "A" accentedText "" true] [])).map
      (fun pt => (pt.pivotFields.items.map (·.name), (sectionItems pt.dataFields).map (·.name))) =
      .ok ([(utf8 accentedText).take MaxFieldLength], [(utf8 accentedText).take MaxFieldLength]) ∧
    (utf8 accentedText).take MaxFieldLength ≠ utf8 accentedText ∧
    ¬ ValidUTF8 ((utf8 accentedText).take MaxFieldLength) := by
  have hhead : (utf8 ⟨List.replicate 127 'é'⟩).length = MaxFieldLength - 1 := by
    simp only [length_utf8, List.map_replicate, List.sum_replicate, smul_eq_mul]; rfl
  -- the last byte kept is the lead byte of the 128th `é`
  have hlast : (utf8 accentedText)[MaxFieldLength - 1]? = some 0xC3 := by
    rw [accentedText, utf8_mk, List.replicate_succ', List.flatMap_append, ← utf8_mk,
      List.getElem?_append_right (Nat.le_of_eq hhead), hhead, Nat.sub_self]
    rfl
  have hcut : ¬ ValidUTF8 ((utf8 accentedText).take MaxFieldLength) := by
    have h := @not_validUTF8_truncatedName (sampleField "A" accentedText "" true) 0xC3 hlast
      (by decide)
    rwa [truncatedName_eq_take] at h
  -- the build, for any display name: nothing in it reads the name's bytes
  have hbuild : ∀ t : String, ((headerFile [utf8 "A"]).buildPivotTable GoInt.one 1
      (sampleOptions [sampleField "A" t "" true] [] [sampleField "A" t "" true] [])).map
      (fun pt => (pt.pivotFields.items.map (·.name), (sectionItems pt.dataFields).map (·.name))) =
      .ok ([truncatedName (sampleField "A" t "" true)],
        [truncatedName (sampleField "A" t "" true)]) := fun _ => rfl
  simp only [truncatedName_eq_take] at hbuild
  exact ⟨(List.length_replicate 128 'é').trans_le (by decide), validUTF8_utf8 _, hbuild accentedText,
    fun h => hcut (by rw [h]; exact validUTF8_utf8 _), hcut⟩

end Excelize
