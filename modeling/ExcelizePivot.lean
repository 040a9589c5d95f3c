import ExcelizePivot.Go.Basic
import ExcelizePivot.Go.Utf8
import ExcelizePivot.Xlsx.Definitions
import ExcelizePivot.Xlsx.Package
import ExcelizePivot.Xlsx.PartUris
import ExcelizePivot.Pivot.Options
import ExcelizePivot.Pivot.AdjustRange
import ExcelizePivot.Pivot.PivotFields
import ExcelizePivot.Pivot.TableDefinition
import ExcelizePivot.Pivot.AxisLists
import ExcelizePivot.Pivot.CacheDefinition
import ExcelizePivot.Pivot.PartNames
import ExcelizePivot.Pivot.AddPivotTable
import ExcelizePivot.Pivot.Alignment
import ExcelizePivot.Pivot.Freshness
import ExcelizePivot.Pivot.Written
import ExcelizePivot.Pivot.Links
import ExcelizePivot.Pivot.Invariant
import ExcelizePivot.Pivot.DisplayNames
import ExcelizePivot.Pivot.Aggregations
import ExcelizePivot.Pivot.Runs
