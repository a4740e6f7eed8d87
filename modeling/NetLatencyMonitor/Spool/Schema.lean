import NetLatencyMonitor.Clock
import NetLatencyMonitor.Keyed.OrderBy
import NetLatencyMonitor.Keyed.Table
import NetLatencyMonitor.Text.GoString

/-! The agent's spool database after both migrations, one definition per SQL
statement. -/

namespace NetLatencyMonitor.Spool

open Clock Keyed Text

/-- A row of `spool`. -/
structure SpoolRow where
  id : Nat
  enqueuedAt : SqlTime
  probeRunID : GoString
  payload : GoString
  attempts : Int := 0
  lastAttemptAt : Option SqlTime := none
  lastError : Option GoString := none
deriving DecidableEq, Repr

/-- The spool and its counters in `spool_meta`. `seq` is the sequence that
`AUTOINCREMENT` keeps, so an id is never given out twice. -/
structure SpoolDB where
  rows : Table SpoolRow SpoolRow.id
  seq : Nat
  dropsTotal : Int
  lastDepth : Int
  lastOldestAgeSecs : Int
  lastDropsTotal : Int
  runsUnique : (rows.rows.map SpoolRow.probeRunID).Nodup
  sequenced : ∀ row ∈ rows.rows, row.id ≤ seq

namespace SpoolDB

def migrated : SpoolDB where
  rows := .empty
  seq := 0
  dropsTotal := 0
  lastDepth := 0
  lastOldestAgeSecs := 0
  lastDropsTotal := 0
  runsUnique := List.nodup_nil
  sequenced := by simp [Table.empty]

/-- `SELECT COUNT(*) FROM spool`. -/
def depth (db : SpoolDB) : Nat := db.rows.rows.length

/-- `INSERT INTO spool(probe_run_id, payload)` at the given instant; `none` is the UNIQUE
violation. -/
def insert (db : SpoolDB) (probeRunID payload : GoString) (now : Time) : Option SpoolDB :=
  if taken : probeRunID ∈ db.rows.rows.map SpoolRow.probeRunID then none
  else
    let row : SpoolRow := { id := db.seq + 1, enqueuedAt := toSql now, probeRunID, payload }
    some {
      db with
      rows := {
        rows := db.rows.rows ++ [row]
        unique := by
          rw [List.map_append, List.map_singleton]
          refine List.nodup_append.mpr ⟨db.rows.unique, List.nodup_singleton _, ?_⟩
          intro id present other single
          obtain ⟨old, member, same⟩ := List.mem_map.mp present
          have bound := db.sequenced old member
          rw [List.mem_singleton.mp single, ← same]
          show old.id ≠ db.seq + 1
          omega }
      seq := db.seq + 1
      runsUnique := by
        rw [List.map_append, List.map_singleton]
        refine List.nodup_append.mpr ⟨db.runsUnique, List.nodup_singleton _, ?_⟩
        intro run present other single same
        rw [same, List.mem_singleton.mp single] at present
        exact taken present
      sequenced := by
        intro old present
        rcases List.mem_append.mp present with member | last
        · exact Nat.le_succ_of_le (db.sequenced old member)
        · rw [List.mem_singleton.mp last] }

/-- `DELETE FROM spool WHERE id = ?`. -/
def deleteRow (db : SpoolDB) (id : Nat) : SpoolDB :=
  { db with
    rows := db.rows.erase id
    runsUnique := List.Nodup.sublist (List.Sublist.map _ List.filter_sublist) db.runsUnique
    sequenced := fun row present => db.sequenced row (Table.mem_erase.mp present).1 }

/-- The columns `markFailure` sets. -/
def failedRow (now : Time) (message : GoString) (row : SpoolRow) : SpoolRow :=
  { row with
    attempts := row.attempts + 1
    lastAttemptAt := some (toSql now)
    lastError := some message }

private theorem failedRow_id (now : Time) (message : GoString) (row : SpoolRow) :
    (failedRow now message row).id = row.id := rfl

/-- The `UPDATE` of `markFailure`. -/
def markFailure (db : SpoolDB) (id : Nat) (now : Time) (message : GoString) : SpoolDB :=
  { db with
    rows := db.rows.modify id (failedRow now message) (failedRow_id now message)
    runsUnique := by
      have same : ((db.rows.modify id (failedRow now message) (failedRow_id now message)).rows.map
          SpoolRow.probeRunID) = db.rows.rows.map SpoolRow.probeRunID := by
        simp only [Table.modify, List.map_map]
        apply List.map_congr_left
        intro row _
        simp only [Function.comp_apply]
        split
        · rfl
        · rfl
      rw [same]
      exact db.runsUnique
    sequenced := by
      intro row present
      rcases Table.mem_modify.mp present with ⟨kept, _⟩ | ⟨old, member, _, same⟩
      · exact db.sequenced row kept
      · subst row
        exact db.sequenced old member }

/-- `ORDER BY enqueued_at ASC`; equal times in the order of the index, by id. -/
def oldestFirst (db : SpoolDB) : List SpoolRow := orderBy SpoolRow.enqueuedAt db.rows.rows

/-- `LIMIT ?`: a negative limit is none. -/
def limit (rows : List SpoolRow) (bound : Int) : List SpoolRow :=
  if bound < 0 then rows else rows.take bound.toNat

/-- `SELECT MIN(enqueued_at) FROM spool`. -/
def minEnqueuedAt (db : SpoolDB) : Option SqlTime := db.oldestFirst.head?.map SpoolRow.enqueuedAt

/-- `DELETE .. WHERE id = (SELECT id .. ORDER BY enqueued_at ASC LIMIT 1)`, with the number
of rows it removed. -/
def deleteOldest (db : SpoolDB) : SpoolDB × Nat :=
  match db.oldestFirst.head? with
  | none => (db, 0)
  | some row => (db.deleteRow row.id, 1)

/-- `UPDATE spool_meta SET value = value + 1 WHERE key = 'drops_total'`. -/
def bumpDrops (db : SpoolDB) : SpoolDB := { db with dropsTotal := db.dropsTotal + 1 }

theorem mem_deleteRow {db : SpoolDB} {id : Nat} {row : SpoolRow} :
    row ∈ (db.deleteRow id).rows.rows ↔ row ∈ db.rows.rows ∧ row.id ≠ id :=
  Table.mem_erase

theorem mem_markFailure {db : SpoolDB} {id : Nat} {now : Time} {message : GoString} {row : SpoolRow} :
    row ∈ (db.markFailure id now message).rows.rows ↔
      (row ∈ db.rows.rows ∧ row.id ≠ id) ∨ ∃ old ∈ db.rows.rows, old.id = id ∧ row = failedRow now message old :=
  @Table.mem_modify SpoolRow Nat SpoolRow.id _ db.rows id (failedRow now message) (failedRow_id now message) row

/-! How many rows each statement leaves. -/

theorem depth_insert {db after : SpoolDB} {probeRunID payload : GoString} {now : Time}
    (done : db.insert probeRunID payload now = some after) :
    after.depth = db.depth + 1 ∧ after.dropsTotal = db.dropsTotal := by
  unfold insert at done
  split at done
  · cases done
  · cases done
    exact ⟨by simp [depth], rfl⟩

theorem depth_deleteRow {db : SpoolDB} {id : Nat} {row : SpoolRow} (found : db.rows.find? id = some row) :
    (db.deleteRow id).depth + 1 = db.depth :=
  Table.length_erase found

theorem deleteRow_absent {db : SpoolDB} {id : Nat} (missing : db.rows.find? id = none) :
    db.deleteRow id = db := by
  cases db
  simp only [deleteRow, Table.erase_absent missing]

@[simp] theorem depth_markFailure (db : SpoolDB) (id : Nat) (now : Time) (message : GoString) :
    (db.markFailure id now message).depth = db.depth := by
  simp [depth, markFailure, Table.modify]

theorem depth_deleteOldest (db : SpoolDB) :
    (db.deleteOldest.1.depth + db.deleteOldest.2 = db.depth) ∧
      db.deleteOldest.1.dropsTotal = db.dropsTotal := by
  unfold deleteOldest
  cases first : db.oldestFirst.head? with
  | none => exact ⟨rfl, rfl⟩
  | some row =>
    have member : row ∈ db.rows.rows := mem_orderBy.mp (List.mem_of_head? first)
    have found : db.rows.find? row.id = some row := Table.find?_eq_some_iff.mpr ⟨member, rfl⟩
    exact ⟨depth_deleteRow found, rfl⟩

/-! The rows each statement leaves, oldest first. -/

@[simp] theorem length_oldestFirst (db : SpoolDB) : db.oldestFirst.length = db.depth :=
  (orderBy_perm SpoolRow.enqueuedAt db.rows.rows).length_eq

@[simp] theorem mem_oldestFirst {db : SpoolDB} {row : SpoolRow} :
    row ∈ db.oldestFirst ↔ row ∈ db.rows.rows := mem_orderBy

theorem oldestFirst_ids (db : SpoolDB) : (db.oldestFirst.map SpoolRow.id).Nodup :=
  ((orderBy_perm SpoolRow.enqueuedAt db.rows.rows).map SpoolRow.id).nodup_iff.mpr db.rows.unique

theorem oldestFirst_deleteRow (db : SpoolDB) (id : Nat) :
    (db.deleteRow id).oldestFirst = db.oldestFirst.filter (fun row => decide (row.id ≠ id)) :=
  orderBy_filter SpoolRow.enqueuedAt _ db.rows.rows

theorem oldestFirst_deleteOldest (db : SpoolDB) :
    db.deleteOldest.1.oldestFirst = db.oldestFirst.tail := by
  unfold deleteOldest
  cases order : db.oldestFirst with
  | nil => exact order
  | cons first rest =>
    show (db.deleteRow first.id).oldestFirst = rest
    have ids := db.oldestFirst_ids
    rw [order, List.map_cons, List.nodup_cons] at ids
    rw [oldestFirst_deleteRow, order, List.filter_cons_of_neg (by simp)]
    apply List.filter_eq_self.mpr
    intro row later
    simp only [decide_eq_true_eq]
    intro same
    exact ids.1 (same ▸ List.mem_map_of_mem later)

theorem deleteOldest_removed (db : SpoolDB) : db.deleteOldest.2 = 0 ↔ db.depth = 0 := by
  rw [← length_oldestFirst, List.length_eq_zero_iff]
  unfold deleteOldest
  cases db.oldestFirst with
  | nil => simp
  | cons first rest => simp

end SpoolDB

end NetLatencyMonitor.Spool
