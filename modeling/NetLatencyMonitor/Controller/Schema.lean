import Mathlib.Data.Rat.Defs
import NetLatencyMonitor.Clock
import NetLatencyMonitor.Keyed.Table
import NetLatencyMonitor.Text.GoString

/-! The controller database after both migrations, and the SQL statements the
controller runs on it. One definition is one statement: it takes effect as a whole
or fails and leaves the database as it was. The constraints of the schema are
fields, so no statement can produce a database that breaks them. -/

namespace NetLatencyMonitor.Controller

open Clock Keyed Text

def roleSpoke : GoString := lit "spoke"
def roleHub : GoString := lit "hub"
def roleListener : GoString := lit "listener"

/-- `CHECK (role IN ('spoke', 'hub', 'listener'))`. -/
def roles : List GoString := [roleSpoke, roleHub, roleListener]

/-- A row of `nodes`. `created_at` is left out: no statement reads it. -/
structure NodeRow where
  id : GoString
  role : GoString
  secretHash : GoString
  address : Option GoString
  disabled : Int
  spoolDepth : Int := 0
  spoolOldestTs : Option SqlTime := none
  spoolDropsTotal : Int := 0
  spoolUpdatedAt : Option SqlTime := none
  lastSeenAt : Option SqlTime := none
deriving DecidableEq, Repr

/-- A row of `probe_results`. A REAL column is kept as a rational. The surrogate
`id` and `received_at` are left out: no statement reads them. -/
structure ResultRow where
  sourceID : GoString
  probeRunID : GoString
  targetID : GoString
  observedAt : SqlTime
  latencyMs : Option ℚ
  error : Option GoString
deriving DecidableEq, Repr

/-- `UNIQUE (source_id, probe_run_id, target_id)`. -/
def ResultRow.key (row : ResultRow) : GoString × GoString × GoString :=
  (row.sourceID, row.probeRunID, row.targetID)

/-- Why a statement failed. -/
inductive SqlError where
  | unique
  | foreignKey
  | check
  | other (text : GoString)
deriving DecidableEq, Repr

theorem ok_of_toOption {Error Value : Type} {result : Except Error Value} {value : Value}
    (found : result.toOption = some value) : result = .ok value := by
  cases result with
  | ok other =>
    cases found
    rfl
  | error error => cases found

theorem ok_of_bind {Error First Second : Type} {first : Except Error First}
    {next : First → Except Error Second} {result : Second} (done : first.bind next = .ok result) :
    ∃ value, first = .ok value ∧ next value = .ok result := by
  cases first with
  | error error => cases done
  | ok value => exact ⟨value, rfl, done⟩

@[ext] structure DB where
  nodes : Table NodeRow NodeRow.id
  results : Table ResultRow ResultRow.key
  targetsVersion : Int
  roleChecked : ∀ row ∈ nodes.rows, row.role ∈ roles
  sourceExists : ∀ row ∈ results.rows, ∃ node ∈ nodes.rows, node.id = row.sourceID

namespace DB

/-- A freshly migrated database. -/
def migrated : DB where
  nodes := .empty
  results := .empty
  targetsVersion := 1
  roleChecked := by simp [Table.empty]
  sourceExists := by simp [Table.empty]

/-- The columns `INSERT INTO nodes .. ON CONFLICT(id) DO UPDATE SET` overwrites. -/
def overwrite (role secretHash : GoString) (address : Option GoString) (disabled : Int)
    (old : NodeRow) : NodeRow :=
  { old with role, secretHash, address, disabled }

private theorem overwrite_id (role secretHash : GoString) (address : Option GoString) (disabled : Int)
    (old : NodeRow) : (overwrite role secretHash address disabled old).id = old.id := rfl

def upsertNode (db : DB) (id role secretHash : GoString) (address : Option GoString)
    (disabled : Int) : Except SqlError DB :=
  if allowed : role ∈ roles then
    .ok {
      db with
      nodes := db.nodes.upsert { id, role, secretHash, address, disabled }
        (overwrite role secretHash address disabled) (overwrite_id role secretHash address disabled)
      roleChecked := by
        intro row present
        rcases Table.mem_upsert.mp present with ⟨kept, _⟩ | ⟨_, same⟩ | ⟨old, _, same⟩
        · exact db.roleChecked row kept
        · subst row
          exact allowed
        · subst row
          exact allowed
      sourceExists := by
        intro row present
        obtain ⟨node, member, named⟩ := db.sourceExists row present
        by_cases target : node.id = id
        · have found : db.nodes.find? id = some node := Table.find?_eq_some_iff.mpr ⟨member, target⟩
          exact ⟨overwrite role secretHash address disabled node,
            Table.mem_upsert.mpr (Or.inr (Or.inr ⟨node, found, rfl⟩)), named⟩
        · exact ⟨node, Table.mem_upsert.mpr (Or.inl ⟨member, target⟩), named⟩ }
  else .error .check

theorem find?_upsertNode {db after : DB} {id role secretHash : GoString} {address : Option GoString}
    {disabled : Int} (done : db.upsertNode id role secretHash address disabled = .ok after)
    (name : GoString) :
    after.nodes.find? name = if name = id then
      some ((db.nodes.find? id).elim { id, role, secretHash, address, disabled }
        (overwrite role secretHash address disabled))
    else db.nodes.find? name := by
  unfold upsertNode at done
  split at done
  · cases done
    exact Table.find?_upsert
  · cases done

/-- `DELETE FROM nodes WHERE id = ?`, with the number of rows it removed. -/
def deleteNode (db : DB) (id : GoString) : Except SqlError (DB × Nat) :=
  if referenced : db.results.rows.any (fun row => decide (row.sourceID = id)) then .error .foreignKey
  else .ok ({
    db with
    nodes := db.nodes.erase id
    roleChecked := fun row present => db.roleChecked row (Table.mem_erase.mp present).1
    sourceExists := by
      intro row present
      obtain ⟨node, member, named⟩ := db.sourceExists row present
      refine ⟨node, Table.mem_erase.mpr ⟨member, ?_⟩, named⟩
      intro same
      exact referenced (List.any_eq_true.mpr ⟨row, present, by simp [← named, same]⟩) },
    (db.nodes.find? id).toList.length)

/-- `UPDATE controller_meta SET value = value + 1 WHERE key = 'targets_version'`. -/
def bumpTargetsVersion (db : DB) : DB := { db with targetsVersion := db.targetsVersion + 1 }

/-- `INSERT INTO probe_results`. Uniqueness is checked before the foreign key. -/
def insertResult (db : DB) (row : ResultRow) : Except SqlError DB :=
  match inserted : db.results.insert? row with
  | none => .error .unique
  | some results =>
    if known : db.nodes.rows.any (fun node => decide (node.id = row.sourceID)) then
      .ok {
        db with
        results
        sourceExists := by
          intro other present
          rw [(Table.insert?_eq_some_iff.mp inserted).2, List.mem_append] at present
          rcases present with old | new
          · exact db.sourceExists other old
          · rw [List.mem_singleton.mp new]
            simpa using known }
    else .error .foreignKey

/-- The columns `UPDATE nodes SET spool_depth = ?, ..` overwrites. -/
def overwriteSpool (depth : Int) (oldest : Option SqlTime) (drops : Int) (updatedAt : SqlTime)
    (old : NodeRow) : NodeRow :=
  { old with
    spoolDepth := depth, spoolOldestTs := oldest, spoolDropsTotal := drops,
    spoolUpdatedAt := some updatedAt, lastSeenAt := some updatedAt }

private theorem overwriteSpool_id (depth : Int) (oldest : Option SqlTime) (drops : Int) (updatedAt : SqlTime)
    (old : NodeRow) : (overwriteSpool depth oldest drops updatedAt old).id = old.id := rfl

/-- The statement of `UpdateSpoolStats`, with the number of rows it changed. -/
def updateSpool (db : DB) (id : GoString) (depth : Int) (oldest : Option SqlTime) (drops : Int)
    (updatedAt : SqlTime) : DB × Nat :=
  ({ db with
    nodes := db.nodes.modify id (overwriteSpool depth oldest drops updatedAt)
      (overwriteSpool_id depth oldest drops updatedAt)
    roleChecked := by
      intro row present
      rcases Table.mem_modify.mp present with ⟨kept, _⟩ | ⟨old, member, _, same⟩
      · exact db.roleChecked row kept
      · subst row
        exact db.roleChecked old member
    sourceExists := by
      intro row present
      obtain ⟨node, member, named⟩ := db.sourceExists row present
      by_cases target : node.id = id
      · exact ⟨overwriteSpool depth oldest drops updatedAt node,
          Table.mem_modify.mpr (Or.inr ⟨node, member, target, rfl⟩), named⟩
      · exact ⟨node, Table.mem_modify.mpr (Or.inl ⟨member, target⟩), named⟩ },
    (db.nodes.find? id).toList.length)

end DB

end NetLatencyMonitor.Controller
