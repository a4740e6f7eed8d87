import Mathlib.Data.List.Nodup
import Mathlib.Data.List.Perm.Basic

/-! Finite tables whose rows are told apart by a key. The key's uniqueness is a
field, so an operation that would break a UNIQUE or PRIMARY KEY constraint has to
refuse. -/

namespace NetLatencyMonitor.Keyed

universe u v

/-- Rows in insertion order, no two with the same key. -/
@[ext] structure Table (Row : Type u) {Key : Type v} (key : Row → Key) where
  rows : List Row
  unique : (rows.map key).Nodup

namespace Table

variable {Row : Type u} {Key : Type v} {key : Row → Key}

instance [DecidableEq Row] : DecidableEq (Table Row key) := fun left right =>
  decidable_of_iff (left.rows = right.rows) Table.ext_iff.symm

def empty : Table Row key := ⟨[], List.nodup_nil⟩

theorem eq_of_key {table : Table Row key} {left right : Row} (present : left ∈ table.rows)
    (other : right ∈ table.rows) (same : key left = key right) : left = right :=
  List.inj_on_of_nodup_map table.unique present other same

private theorem rows_nodup (table : Table Row key) : table.rows.Nodup := List.Nodup.of_map key table.unique

variable [DecidableEq Key]

def find? (table : Table Row key) (name : Key) : Option Row :=
  table.rows.find? (fun row => decide (key row = name))

theorem find?_eq_some_iff {table : Table Row key} {name : Key} {row : Row} :
    table.find? name = some row ↔ row ∈ table.rows ∧ key row = name := by
  constructor
  · intro found
    exact ⟨List.mem_of_find?_eq_some found, by simpa using List.find?_some found⟩
  · intro ⟨present, named⟩
    cases found : table.find? name with
    | none => exact absurd named (by simpa using List.find?_eq_none.mp found row present)
    | some other =>
      have otherPresent : other ∈ table.rows := List.mem_of_find?_eq_some found
      have otherNamed : key other = name := by simpa using List.find?_some found
      rw [eq_of_key otherPresent present (otherNamed.trans named.symm)]

theorem find?_eq_none_iff {table : Table Row key} {name : Key} :
    table.find? name = none ↔ ∀ row ∈ table.rows, key row ≠ name := by
  simp [find?, List.find?_eq_none]

/-- Append a row, or refuse when its key is taken. -/
def insert? (table : Table Row key) (row : Row) : Option (Table Row key) :=
  if fresh : key row ∈ table.rows.map key then none
  else some ⟨table.rows ++ [row], by
    rw [List.map_append, List.map_singleton]
    exact List.nodup_append.mpr ⟨table.unique, List.nodup_singleton _, fun taken present other single => by
      rw [List.mem_singleton.mp single]
      exact fun same => fresh (same ▸ present)⟩⟩

theorem insert?_eq_some_iff {table after : Table Row key} {row : Row} :
    table.insert? row = some after ↔ table.find? (key row) = none ∧ after.rows = table.rows ++ [row] := by
  rw [find?_eq_none_iff]
  unfold insert?
  split
  · rename_i taken
    obtain ⟨other, present, same⟩ := List.mem_map.mp taken
    simp only [reduceCtorEq, false_iff, not_and]
    intro free
    exact absurd same (free other present)
  · rename_i fresh
    constructor
    · intro inserted
      cases inserted
      exact ⟨fun other present same => fresh (List.mem_map.mpr ⟨other, present, same⟩), rfl⟩
    · intro ⟨_, rows⟩
      exact congrArg some (Table.ext rows.symm)

theorem insert?_eq_none_iff {table : Table Row key} {row : Row} :
    table.insert? row = none ↔ ∃ other ∈ table.rows, key other = key row := by
  simp [insert?]

/-- Rewrite the row with the given key; the rewrite may not touch the key. -/
def modify (table : Table Row key) (name : Key) (change : Row → Row)
    (keeps : ∀ row, key (change row) = key row) : Table Row key where
  rows := table.rows.map (fun row => if key row = name then change row else row)
  unique := by
    have same : (table.rows.map (fun row => if key row = name then change row else row)).map key =
        table.rows.map key := by
      rw [List.map_map]
      apply List.map_congr_left
      intro row _
      simp only [Function.comp_apply]
      split
      · exact keeps row
      · rfl
    rw [same]
    exact table.unique

theorem mem_modify {table : Table Row key} {name : Key} {change : Row → Row}
    {keeps : ∀ row, key (change row) = key row} {row : Row} :
    row ∈ (table.modify name change keeps).rows ↔
      (row ∈ table.rows ∧ key row ≠ name) ∨
        ∃ old ∈ table.rows, key old = name ∧ row = change old := by
  simp only [modify, List.mem_map]
  constructor
  · rintro ⟨old, present, same⟩
    by_cases named : key old = name
    · rw [if_pos named] at same
      exact Or.inr ⟨old, present, named, same.symm⟩
    · rw [if_neg named] at same
      subst row
      exact Or.inl ⟨present, named⟩
  · rintro (⟨present, other⟩ | ⟨old, present, named, same⟩)
    · exact ⟨row, present, if_neg other⟩
    · exact ⟨old, present, by rw [if_pos named, same]⟩

/-- Delete the row with the given key, if there is one. -/
def erase (table : Table Row key) (name : Key) : Table Row key where
  rows := table.rows.filter (fun row => decide (key row ≠ name))
  unique := List.Nodup.sublist (List.Sublist.map key List.filter_sublist) table.unique

theorem mem_erase {table : Table Row key} {name : Key} {row : Row} :
    row ∈ (table.erase name).rows ↔ row ∈ table.rows ∧ key row ≠ name := by
  simp [erase]

/-- A stored row is the only one under its key. -/
theorem filter_key {table : Table Row key} {row : Row} (present : row ∈ table.rows) :
    table.rows.filter (fun other => decide (key other = key row)) = [row] := by
  have nodup := (rows_nodup table).filter (fun other => decide (key other = key row))
  refine List.perm_singleton.mp ((List.perm_ext_iff_of_nodup nodup (List.nodup_singleton row)).mpr ?_)
  intro other
  simp only [List.mem_filter, decide_eq_true_eq, List.mem_singleton]
  constructor
  · intro ⟨member, same⟩
    exact eq_of_key member present same
  · intro same
    subst other
    exact ⟨present, rfl⟩

/-- Erasing a present key removes exactly one row. -/
theorem length_erase {table : Table Row key} {name : Key} {row : Row}
    (found : table.find? name = some row) :
    (table.erase name).rows.length + 1 = table.rows.length := by
  obtain ⟨present, named⟩ := find?_eq_some_iff.mp found
  subst name
  have only : table.rows.filter (fun other => !decide (key other ≠ key row)) = [row] := by
    simpa using filter_key present
  have split := List.length_eq_length_filter_add (l := table.rows) (fun other => decide (key other ≠ key row))
  rw [only] at split
  simpa [erase] using split.symm

theorem erase_absent {table : Table Row key} {name : Key} (missing : table.find? name = none) :
    table.erase name = table := by
  apply Table.ext
  apply List.filter_eq_self.mpr
  intro row present
  simpa using find?_eq_none_iff.mp missing row present

/-- Keep the rows that satisfy a test. -/
def filter (table : Table Row key) (keep : Row → Bool) : Table Row key where
  rows := table.rows.filter keep
  unique := List.Nodup.sublist (List.Sublist.map key List.filter_sublist) table.unique

theorem find?_filter {table : Table Row key} {keep : Row → Bool} {name : Key} :
    (table.filter keep).find? name = (table.find? name).filter keep := by
  apply Option.ext
  intro row
  rw [find?_eq_some_iff, Option.filter_eq_some_iff, find?_eq_some_iff]
  simp only [filter, List.mem_filter]
  constructor
  · intro ⟨⟨present, kept⟩, named⟩
    exact ⟨⟨present, named⟩, kept⟩
  · intro ⟨⟨present, named⟩, kept⟩
    exact ⟨⟨present, kept⟩, named⟩

/-- `INSERT .. ON CONFLICT DO UPDATE`: rewrite the row in place when its key is
taken, append it otherwise. -/
def upsert (table : Table Row key) (row : Row) (change : Row → Row)
    (keeps : ∀ old, key (change old) = key old) : Table Row key :=
  match table.insert? row with
  | some inserted => inserted
  | none => table.modify (key row) change keeps

theorem mem_upsert {table : Table Row key} {row : Row} {change : Row → Row}
    {keeps : ∀ old, key (change old) = key old} {other : Row} :
    other ∈ (table.upsert row change keeps).rows ↔
      (other ∈ table.rows ∧ key other ≠ key row) ∨
        (table.find? (key row) = none ∧ other = row) ∨
        ∃ old, table.find? (key row) = some old ∧ other = change old := by
  unfold upsert
  cases inserted : table.insert? row with
  | some after =>
    obtain ⟨missing, rows⟩ := insert?_eq_some_iff.mp inserted
    have free := find?_eq_none_iff.mp missing
    simp only [rows, List.mem_append, List.mem_singleton, missing, true_and, reduceCtorEq,
      false_and, exists_false, or_false]
    constructor
    · rintro (present | same)
      · exact Or.inl ⟨present, free other present⟩
      · exact Or.inr same
    · rintro (⟨present, _⟩ | same)
      · exact Or.inl present
      · exact Or.inr same
  | none =>
    obtain ⟨old, present, same⟩ := insert?_eq_none_iff.mp inserted
    have found : table.find? (key row) = some old := find?_eq_some_iff.mpr ⟨present, same⟩
    rw [mem_modify]
    simp only [found, reduceCtorEq, false_and, false_or, Option.some.injEq, exists_eq_left']
    constructor
    · rintro (kept | ⟨first, member, named, rewritten⟩)
      · exact Or.inl kept
      · rw [eq_of_key member present (named.trans same.symm)] at rewritten
        exact Or.inr rewritten
    · rintro (kept | rewritten)
      · exact Or.inl kept
      · exact Or.inr ⟨old, present, same, rewritten⟩

/-- An upsert that leaves the row as it is leaves the table as it is. -/
theorem upsert_same {table : Table Row key} {row old : Row} {change : Row → Row}
    {keeps : ∀ old, key (change old) = key old} (found : table.find? (key row) = some old) (same : change old = old) :
    table.upsert row change keeps = table := by
  obtain ⟨present, named⟩ := find?_eq_some_iff.mp found
  have taken : table.insert? row = none := insert?_eq_none_iff.mpr ⟨old, present, named⟩
  simp only [upsert, taken]
  refine Table.ext ?_
  calc table.rows.map (fun other => if key other = key row then change other else other)
      = table.rows.map id := by
        refine List.map_congr_left (fun other member => ?_)
        split
        · rename_i sameKey
          rw [eq_of_key member present (sameKey.trans named.symm), same]
          rfl
        · rfl
    _ = table.rows := List.map_id _

/-- What a lookup sees after an upsert: the written row under its own key, the
old answer under every other key. -/
theorem find?_upsert {table : Table Row key} {row : Row} {change : Row → Row}
    {keeps : ∀ old, key (change old) = key old} {name : Key} :
    (table.upsert row change keeps).find? name =
      if name = key row then some ((table.find? (key row)).elim row change) else table.find? name := by
  split
  · rename_i same
    subst name
    apply find?_eq_some_iff.mpr
    rw [mem_upsert]
    cases found : table.find? (key row) with
    | none => exact ⟨Or.inr (Or.inl ⟨rfl, rfl⟩), rfl⟩
    | some old => exact ⟨Or.inr (Or.inr ⟨old, rfl, rfl⟩), (keeps old).trans (find?_eq_some_iff.mp found).2⟩
  · rename_i other
    have agree : ∀ found, (table.upsert row change keeps).find? name = some found ↔
        table.find? name = some found := by
      intro found
      rw [find?_eq_some_iff, find?_eq_some_iff, mem_upsert]
      constructor
      · rintro ⟨(⟨present, _⟩ | ⟨_, same⟩ | ⟨old, taken, same⟩), named⟩
        · exact ⟨present, named⟩
        · exact absurd (named.symm.trans (congrArg key same)) other
        · have oldKey := (find?_eq_some_iff.mp taken).2
          exact absurd (named.symm.trans ((congrArg key same).trans ((keeps old).trans oldKey))) other
      · rintro ⟨present, named⟩
        exact ⟨Or.inl ⟨present, fun same => other (named.symm.trans same)⟩, named⟩
    exact Option.ext (fun found => agree found)

theorem find?_erase {table : Table Row key} {name other : Key} :
    (table.erase name).find? other = if other = name then none else table.find? other := by
  split
  · rename_i same
    subst other
    exact find?_eq_none_iff.mpr (fun row present => (mem_erase.mp present).2)
  · rename_i different
    apply Option.ext
    intro row
    rw [find?_eq_some_iff, find?_eq_some_iff, mem_erase]
    constructor
    · rintro ⟨⟨present, _⟩, named⟩
      exact ⟨present, named⟩
    · rintro ⟨present, named⟩
      exact ⟨⟨present, fun same => different (named.symm.trans same)⟩, named⟩

theorem find?_modify {table : Table Row key} {name other : Key} {change : Row → Row}
    {keeps : ∀ row, key (change row) = key row} :
    (table.modify name change keeps).find? other =
      if other = name then (table.find? name).map change else table.find? other := by
  apply Option.ext
  intro row
  rw [find?_eq_some_iff, mem_modify]
  split
  · rename_i same
    subst other
    rw [Option.map_eq_some_iff]
    constructor
    · rintro ⟨(⟨_, different⟩ | ⟨old, present, named, rewritten⟩), found⟩
      · exact absurd found different
      · exact ⟨old, find?_eq_some_iff.mpr ⟨present, named⟩, rewritten.symm⟩
    · rintro ⟨old, found, rewritten⟩
      obtain ⟨present, named⟩ := find?_eq_some_iff.mp found
      exact ⟨Or.inr ⟨old, present, named, rewritten.symm⟩, by rw [← rewritten, keeps, named]⟩
  · rename_i different
    rw [find?_eq_some_iff]
    constructor
    · rintro ⟨(⟨present, _⟩ | ⟨old, _, named, rewritten⟩), found⟩
      · exact ⟨present, found⟩
      · exact absurd (found.symm.trans ((congrArg key rewritten).trans ((keeps old).trans named))) different
    · rintro ⟨present, found⟩
      exact ⟨Or.inl ⟨present, fun same => different (found.symm.trans same)⟩, found⟩

end Table

end NetLatencyMonitor.Keyed
