import Mathlib.Data.List.Dedup

/-! `GROUP BY`: the rows of a table by the value of some of their columns. -/

namespace NetLatencyMonitor.Keyed

universe u v

variable {Row : Type u} {Group : Type v} [DecidableEq Group]

/-- The rows of one group. -/
def ofGroup (column : Row → Group) (rows : List Row) (group : Group) : List Row :=
  rows.filter (fun row => decide (column row = group))

/-- Every group that has a row, once, with its rows. The order of the groups carries no
meaning. -/
def groupBy (column : Row → Group) (rows : List Row) : List (Group × List Row) :=
  (rows.map column).dedup.map (fun group => (group, ofGroup column rows group))

theorem groupBy_groups (column : Row → Group) (rows : List Row) :
    (groupBy column rows).map Prod.fst = (rows.map column).dedup := by
  simp only [groupBy, List.map_map, Function.comp_def, List.map_id']

theorem groupBy_rows {column : Row → Group} {rows : List Row} {group : Group × List Row}
    (member : group ∈ groupBy column rows) : group.2 = ofGroup column rows group.1 := by
  obtain ⟨name, _, same⟩ := List.mem_map.mp member
  rw [← same]

theorem groupBy_nonempty {column : Row → Group} {rows : List Row} {group : Group × List Row}
    (member : group ∈ groupBy column rows) : group.2 ≠ [] := by
  have listed : group.1 ∈ (rows.map column).dedup := by
    rw [← groupBy_groups]
    exact List.mem_map_of_mem member
  obtain ⟨row, present, same⟩ := List.mem_map.mp (List.mem_dedup.mp listed)
  rw [groupBy_rows member]
  exact List.ne_nil_of_mem (List.mem_filter.mpr ⟨present, decide_eq_true same⟩)

theorem mem_groupBy {column : Row → Group} {rows : List Row} {group : Group}
    (filled : ofGroup column rows group ≠ []) : (group, ofGroup column rows group) ∈ groupBy column rows := by
  obtain ⟨row, member⟩ := List.exists_mem_of_ne_nil _ filled
  obtain ⟨present, same⟩ := List.mem_filter.mp member
  refine List.mem_map.mpr ⟨group, List.mem_dedup.mpr ?_, rfl⟩
  exact of_decide_eq_true same ▸ List.mem_map_of_mem present

theorem groupBy_eq_nil_iff {column : Row → Group} {rows : List Row} : groupBy column rows = [] ↔ rows = [] := by
  rw [groupBy, List.map_eq_nil_iff, List.dedup_eq_nil, List.map_eq_nil_iff]

end NetLatencyMonitor.Keyed
