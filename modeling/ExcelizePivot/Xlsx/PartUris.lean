import ExcelizePivot.Go.Basic

/-!
# Xlsx/PartUris — part names and relationship targets, as a reader of the package finds them

An xlsx file is an Open Packaging Conventions package.  Its parts are named by paths (kept here, as
excelize keeps them, without the leading `/`); the relationships of the part `<folder>/<name>` are
held by the part `<folder>/_rels/<name>.rels`; and a relationship's target is a URI reference that
names a part from the package root when it starts with `/`, and otherwise from the folder of the
part holding the relationship, a `..` segment going up one folder (the merge and dot-segment
removal of RFC 3986).

`pivotTable.go` never resolves a target: it writes part names, rels-part names and targets as
strings.  This module is the reader's side of those strings, against which `Pivot/Links` checks
what the code writes.

* `folder_append_lastSegment` — a part name is its folder followed by its own name;
* `relsPartName_of_segments` — the rels part of a name split into segments;
* `length_relsPartName` — a rels-part name is eleven bytes longer than the part's;
* `segments_joinSegments` — names built from slash-free segments split back into them.
-/

namespace Excelize

/-- The byte `/`. -/
def slash : UInt8 := 47

/-- The segments of a path: the byte strings between its slashes. -/
def segments (p : GoString) : List GoString := p.splitOn slash

/-- Segments joined by slashes. -/
def joinSegments (segs : List GoString) : GoString := [slash].intercalate segs

/-- The folder of a part name: every segment but the last, each followed by a slash. -/
def folder (p : GoString) : GoString := joinSegments ((segments p).dropLast ++ [[]])

/-- The last segment of a part name: the part's own name within its folder. -/
def lastSegment (p : GoString) : GoString := (segments p).getLastD []

/-- The part holding the relationships of part `p`: `_rels/<name>.rels` in `p`'s folder. -/
def relsPartName (p : GoString) : GoString :=
  folder p ++ utf8 "_rels/" ++ lastSegment p ++ utf8 ".rels"

/-- Dot-segment removal over the segments of a relative reference, from a folder given by its
segments last first: `..` leaves the folder, `.` stays in it, any other segment is entered. -/
def removeDotSegments : List GoString → List GoString → List GoString
  | dir, [] => dir.reverse
  | dir, s :: rest =>
    if s = utf8 ".." then removeDotSegments dir.tail rest
    else if s = utf8 "." then removeDotSegments dir rest
    else removeDotSegments (s :: dir) rest

/-- The part a relationship's target names, read from the part `source` that holds it: from the
package root when the target starts with `/`, else from `source`'s folder. -/
def resolveTarget (source target : GoString) : GoString :=
  if target.head? = some slash then target.tail
  else joinSegments (removeDotSegments (segments source).dropLast.reverse (segments target))

/-! ## Splitting and joining -/

section Segments

variable {a : GoString} {segs : List GoString}

theorem segments_of_not_mem (h : slash ∉ a) : segments a = [a] :=
  List.splitOnP_eq_single _ _ fun _ hx hx' => h (by simp only [beq_iff_eq] at hx'; exact hx' ▸ hx)

theorem segments_append_cons (h : slash ∉ a) (r : GoString) :
    segments (a ++ slash :: r) = a :: segments r :=
  List.splitOnP_first (· == slash) a
    (fun _ hx hx' => h (by simp only [beq_iff_eq] at hx'; exact hx' ▸ hx)) slash
    (beq_self_eq_true slash) r

theorem joinSegments_segments (p : GoString) : joinSegments (segments p) = p :=
  List.intercalate_splitOn _ _

/-- **Names built from slash-free segments split back into them.** -/
theorem segments_joinSegments (h : ∀ s ∈ segs, slash ∉ s) (hne : segs ≠ []) :
    segments (joinSegments segs) = segs :=
  List.splitOn_intercalate segs slash h hne

@[simp] theorem joinSegments_singleton (a : GoString) : joinSegments [a] = a := by
  simp [joinSegments, List.intercalate]

@[simp] theorem joinSegments_cons_cons (a b : GoString) (segs : List GoString) :
    joinSegments (a :: b :: segs) = a ++ slash :: joinSegments (b :: segs) := by
  simp [joinSegments, List.intercalate]

/-- The last segment is appended to the folder the others make. -/
theorem joinSegments_append_singleton (segs : List GoString) (a : GoString) :
    joinSegments (segs ++ [a]) = joinSegments (segs ++ [[]]) ++ a := by
  induction segs with
  | nil => simp
  | cons c segs ih =>
    rcases segs with _ | ⟨d, segs⟩
    · simp
    · simp only [List.cons_append, joinSegments_cons_cons] at ih ⊢
      rw [ih]
      simp

end Segments

/-! ## A part's folder, name and rels part -/

/-- **A part name is its folder followed by its own name.** -/
theorem folder_append_lastSegment (p : GoString) : folder p ++ lastSegment p = p := by
  obtain ⟨I, l, hS⟩ :=
    (List.eq_nil_or_concat (segments p)).resolve_left (List.splitOnP_ne_nil _ _)
  rw [List.concat_eq_append] at hS
  rw [folder, lastSegment, hS, List.dropLast_concat, List.getLastD_concat,
    ← joinSegments_append_singleton, ← hS, joinSegments_segments]

/-- The rels part of a name whose segments are `I ++ [l]`. -/
theorem relsPartName_of_segments {p l : GoString} {I : List GoString} (h : segments p = I ++ [l]) :
    relsPartName p = joinSegments (I ++ [[]]) ++ utf8 "_rels/" ++ l ++ utf8 ".rels" := by
  rw [relsPartName, folder, lastSegment, h, List.dropLast_concat, List.getLastD_concat]

/-- A rels-part name is eleven bytes longer than its part's: `_rels/` and `.rels`. -/
theorem length_relsPartName (p : GoString) : (relsPartName p).length = p.length + 11 := by
  conv_rhs => rw [← folder_append_lastSegment p]
  simp only [relsPartName, List.length_append]
  have h₁ : (utf8 "_rels/").length = 6 := rfl
  have h₂ : (utf8 ".rels").length = 5 := rfl
  omega

end Excelize
