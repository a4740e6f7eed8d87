import Mathlib.Data.List.Sort

/-! `ORDER BY` one column, ascending. Ties keep the order of the rows, so on keyed
tables the result depends only on which rows are present. -/

namespace NetLatencyMonitor.Keyed

universe u v

variable {Row : Type u} {Column : Type v} [LinearOrder Column]

def orderBy (column : Row → Column) (rows : List Row) : List Row :=
  rows.insertionSort (fun left right => column left ≤ column right)

theorem orderBy_perm (column : Row → Column) (rows : List Row) :
    (orderBy column rows).Perm rows :=
  List.perm_insertionSort _ rows

@[simp] theorem mem_orderBy {column : Row → Column} {rows : List Row} {row : Row} :
    row ∈ orderBy column rows ↔ row ∈ rows :=
  (orderBy_perm column rows).mem_iff

theorem orderBy_sorted (column : Row → Column) (rows : List Row) :
    (orderBy column rows).Pairwise (fun left right => column left ≤ column right) := by
  have : IsTrans Row (fun left right => column left ≤ column right) := ⟨fun _ _ _ => le_trans⟩
  have : Std.Total (fun left right : Row => column left ≤ column right) :=
    ⟨fun left right => le_total (column left) (column right)⟩
  exact List.pairwise_insertionSort _ rows

private theorem orderedInsert_front (column : Row → Column) (row : Row) {rows : List Row}
    (least : ∀ other ∈ rows, column row ≤ column other) :
    rows.orderedInsert (fun left right => column left ≤ column right) row = row :: rows := by
  cases rows with
  | nil => rfl
  | cons other others => rw [List.orderedInsert_cons, if_pos (least other List.mem_cons_self)]

private theorem filter_orderedInsert (column : Row → Column) (keep : Row → Bool) (row : Row)
    {rows : List Row} (sorted : rows.Pairwise (fun left right => column left ≤ column right)) :
    (rows.orderedInsert (fun left right => column left ≤ column right) row).filter keep =
      if keep row then (rows.filter keep).orderedInsert (fun left right => column left ≤ column right) row
      else rows.filter keep := by
  induction rows with
  | nil => cases kept : keep row <;> simp [kept]
  | cons first rest ih =>
    obtain ⟨least, sorted⟩ := List.pairwise_cons.mp sorted
    rw [List.orderedInsert_cons]
    split
    · rename_i below
      -- every kept row is at least `first`, so the new one goes in front of them
      have front : ∀ other ∈ (first :: rest).filter keep, column row ≤ column other := by
        intro other present
        rcases List.mem_cons.mp (List.mem_filter.mp present).1 with rfl | later
        · exact below
        · exact le_trans below (least other later)
      cases kept : keep row with
      | false => simp [kept]
      | true => rw [List.filter_cons_of_pos kept, if_pos rfl, orderedInsert_front column row front]
    · rename_i above
      cases kept : keep first with
      | false =>
        have dropped : ¬ keep first = true := by simp [kept]
        rw [List.filter_cons_of_neg dropped, List.filter_cons_of_neg dropped, ih sorted]
      | true =>
        rw [List.filter_cons_of_pos kept, List.filter_cons_of_pos kept, ih sorted,
          List.orderedInsert_cons, if_neg above]
        split
        · rfl
        · rfl

/-- Rows that a `WHERE` leaves out do not disturb the order of the others. -/
theorem orderBy_filter (column : Row → Column) (keep : Row → Bool) (rows : List Row) :
    orderBy column (rows.filter keep) = (orderBy column rows).filter keep := by
  induction rows with
  | nil => rfl
  | cons row rest ih =>
    have insert := filter_orderedInsert column keep row (orderBy_sorted column rest)
    have step : orderBy column (row :: rest) =
        (orderBy column rest).orderedInsert (fun left right => column left ≤ column right) row := rfl
    rw [step, insert, ← ih]
    cases kept : keep row with
    | false => rw [List.filter_cons_of_neg (by simp [kept])]; rfl
    | true => rw [List.filter_cons_of_pos kept]; rfl

/-- The same rows in any two storage orders sort alike, when the column tells
rows apart. -/
theorem orderBy_eq_of_mem_iff {column : Row → Column} {first second : List Row}
    (firstDistinct : (first.map column).Nodup) (secondDistinct : (second.map column).Nodup)
    (same : ∀ row, row ∈ first ↔ row ∈ second) :
    orderBy column first = orderBy column second := by
  have perm : first.Perm second :=
    (List.perm_ext_iff_of_nodup (.of_map column firstDistinct) (.of_map column secondDistinct)).mpr same
  have sorted : (orderBy column first).Perm (orderBy column second) :=
    (orderBy_perm column first).trans (perm.trans (orderBy_perm column second).symm)
  refine List.Perm.eq_of_pairwise ?_ (orderBy_sorted column first) (orderBy_sorted column second) sorted
  intro left right present other below above
  have leftFirst := mem_orderBy.mp present
  have rightFirst := (same right).mpr (mem_orderBy.mp other)
  exact List.inj_on_of_nodup_map firstDistinct leftFirst rightFirst (le_antisymm below above)

private theorem orderedInsert_concat (column : Row → Column) {row last : Row} (below : column row ≤ column last)
    (rows : List Row) :
    (rows ++ [last]).orderedInsert (fun left right => column left ≤ column right) row =
      rows.orderedInsert (fun left right => column left ≤ column right) row ++ [last] := by
  induction rows with
  | nil => simp [List.orderedInsert_cons, below]
  | cons first rest ih =>
    rw [List.cons_append, List.orderedInsert_cons, List.orderedInsert_cons, ih]
    split
    · rfl
    · rfl

/-- A row that is appended with a greatest column comes last. -/
theorem orderBy_concat (column : Row → Column) {rows : List Row} {last : Row}
    (greatest : ∀ row ∈ rows, column row ≤ column last) :
    orderBy column (rows ++ [last]) = orderBy column rows ++ [last] := by
  induction rows with
  | nil => rfl
  | cons row rest ih =>
    have later := ih (fun other member => greatest other (List.mem_cons_of_mem row member))
    have insert := orderedInsert_concat column (greatest row List.mem_cons_self) (orderBy column rest)
    have step : orderBy column (row :: rest ++ [last]) =
        (orderBy column (rest ++ [last])).orderedInsert (fun left right => column left ≤ column right) row := rfl
    rw [step, later, insert]
    rfl

/-- Rows in another representation, whose column compares as the first one does. -/
theorem orderBy_map {Other : Type*} {OtherColumn : Type*} [LinearOrder OtherColumn] {column : Row → Column}
    {other : Other → OtherColumn} (rewrite : Row → Other) {rows : List Row}
    (alike : ∀ left ∈ rows, ∀ right ∈ rows, column left ≤ column right ↔ other (rewrite left) ≤ other (rewrite right)) :
    orderBy other (rows.map rewrite) = (orderBy column rows).map rewrite :=
  (List.map_insertionSort _ _ rewrite rows alike).symm

end NetLatencyMonitor.Keyed
