import ExcelizePivot.Go.Basic

/-!
# Xlsx/Definitions — the pivot parts as `pivotTable.go` fills them

The `xlsx…` records that `addPivotCache` and `addPivotTable` build, with the fields they set, plus
the workbook's pivot-cache registry entry, a relationship record, and the errors of the pipeline.
A pointer the code may leave `nil` is an `Option`; a `Count`-plus-list element (`<rowFields>`,
`<dataFields>`, …) is a `Counted`.  XML serialisation is out of scope, so a part holds the record
itself rather than its bytes; the version attributes (`pivotTableVersion`, declared outside
`src/`) are left out.
-/

namespace Excelize

/-- The errors `AddPivotTable` can return.  `parsing p e` is
`fmt.Errorf("parameter '<p>' parsing error: %s", e)`; `sheetNotExist s` is
`fmt.Errorf("sheet %s does not exist", s)`; `external` is an error raised by a collaborator. -/
inductive Error where
  | parameterRequired
  | parameterInvalid
  | parsing (parameter : GoString) (cause : Error)
  | sheetNotExist (sheet : GoString)
  | external (message : GoString)
deriving DecidableEq, Repr

/-- An element holding a `Count` attribute and a list of children. -/
structure Counted (α : Type) where
  count : Nat
  items : List α
deriving DecidableEq, Repr

/-! ## The pivot cache -/

/-- `xlsxSharedItems`: a count and the optional placeholder `<s v=""/>`. -/
structure SharedItems where
  count : Nat
  s : Option GoString
deriving DecidableEq, Repr

/-- `xlsxCacheField`. -/
structure CacheField where
  name : GoString
  sharedItems : SharedItems
deriving DecidableEq, Repr

/-- `xlsxWorksheetSource`: a cell range on a sheet, or a defined name. -/
structure WorksheetSource where
  ref : GoString
  sheet : GoString
  name : GoString
deriving DecidableEq, Repr

/-- `xlsxPivotCacheDefinition`. -/
structure PivotCacheDefinition where
  saveData : Bool
  refreshOnLoad : Bool
  cacheSourceType : GoString
  worksheetSource : WorksheetSource
  cacheFields : Counted CacheField
deriving DecidableEq, Repr

/-! ## The pivot table -/

/-- `xlsxItem`: an index item `<item x="0"/>` or a typed one such as `<item t="default"/>`. -/
structure Item where
  x : Option Int
  t : GoString
deriving DecidableEq, Repr

/-- `xlsxPivotField`. -/
structure PivotField where
  name : GoString
  axis : GoString
  dataField : Bool
  compact : Option Bool
  outline : Option Bool
  defaultSubtotal : Option Bool
  items : Option (Counted Item)
deriving DecidableEq, Repr

/-- `xlsxPageField`. -/
structure PageField where
  name : GoString
  fld : Int
deriving DecidableEq, Repr

/-- `xlsxDataField`. -/
structure DataField where
  name : GoString
  fld : Int
  subtotal : GoString
deriving DecidableEq, Repr

/-- `xlsxLocation`. -/
structure Location where
  ref : GoString
  firstHeaderRow : Nat
  firstDataRow : Nat
  firstDataCol : Nat
deriving DecidableEq, Repr

/-- `xlsxPivotTableStyleInfo`. -/
structure PivotTableStyleInfo where
  name : GoString
  showRowHeaders : Bool
  showColHeaders : Bool
  showRowStripes : Bool
  showColStripes : Bool
  showLastColumn : Bool
deriving DecidableEq, Repr

/-- `xlsxPivotTableDefinition`.  `rowItems` and `colItems` record each `<i>` by its number of
`<x/>` placeholders. -/
structure PivotTableDefinition where
  name : GoString
  cacheID : GoInt
  dataCaption : GoString
  rowGrandTotals : Bool
  colGrandTotals : Bool
  showDrill : Bool
  useAutoFormatting : Bool
  pageOverThenDown : Bool
  mergeItem : Bool
  compactData : Bool
  showError : Bool
  location : Location
  pivotFields : Counted PivotField
  rowFields : Option (Counted Int)
  rowItems : Counted Nat
  colFields : Option (Counted Int)
  colItems : Counted Nat
  pageFields : Option (Counted PageField)
  dataFields : Option (Counted DataField)
  pivotTableStyleInfo : PivotTableStyleInfo
deriving DecidableEq, Repr

/-! ## Relationships and the workbook's cache registry -/

/-- The relationship types this pipeline writes; any other is `other`. -/
inductive RelType where
  | pivotCache
  | pivotTable
  | other (uri : GoString)
deriving DecidableEq, Repr

/-- `xlsxRelationship`, its `Id` `rId<id>` recorded by the number. -/
structure Relationship where
  id : Nat
  type : RelType
  target : GoString
deriving DecidableEq, Repr

/-- `xlsxPivotCache`: one entry of the workbook's `<pivotCaches>`. -/
structure PivotCache where
  cacheID : GoInt
  rid : GoString
deriving DecidableEq, Repr

end Excelize
