import Mathlib.Data.List.Lex
import NetLatencyMonitor.Controller.Schema
import NetLatencyMonitor.Keyed.OrderBy

/-! The node registry: `NodeStore` and its calls, each as the composition of its SQL
statements run without another statement in between. -/

namespace NetLatencyMonitor.Controller

open Clock Keyed Text

/-- A registered agent. -/
structure Node where
  id : GoString
  role : GoString
  secretHash : GoString := []
  address : GoString := []
  disabled : Bool := false
deriving DecidableEq, Repr

/-- What a call of the store returns instead of success. -/
inductive StoreError where
  | unknownNode
  | noRows
  | sql (error : SqlError)
deriving DecidableEq, Repr

/-- `Scan` of the five registry columns: a NULL address reads as the empty string. -/
def scanNode (row : NodeRow) : Node where
  id := row.id
  role := row.role
  secretHash := row.secretHash
  address := row.address.getD []
  disabled := decide (row.disabled ≠ 0)

namespace NodeStore

def get (db : DB) (id : GoString) : Except StoreError Node :=
  match db.nodes.find? id with
  | some row => .ok (scanNode row)
  | none => .error .unknownNode

/-- Every registered node, sorted by id. -/
def list (db : DB) : List Node :=
  (orderBy (fun row : NodeRow => collation row.id) db.nodes.rows).map scanNode

/-- The `WHERE` clause of the target query, without the exclusion of the caller. -/
def selectsTarget (row : NodeRow) : Bool :=
  decide (row.role = roleHub) && decide (row.disabled = 0) &&
    decide (row.address ≠ none) && decide (row.address ≠ some [])

/-- The node query of `HubTargetsFor`: id, role and address, sorted by id. -/
def hubTargetRows (db : DB) (nodeID : GoString) : List Node :=
  orderBy (fun node : Node => collation node.id)
    ((db.nodes.rows.filter (fun row => selectsTarget row && decide (row.id ≠ nodeID))).map
      (fun row => { id := row.id, role := row.role, address := row.address.getD [] }))

/-- The active hubs that `nodeID` should probe, with the version read after them. -/
def hubTargetsFor (db : DB) (nodeID : GoString) : List Node × Int :=
  (hubTargetRows db nodeID, db.targetsVersion)

/-- A node other agents probe. -/
def isActiveHub (node : Node) : Bool :=
  decide (node.role = roleHub) && !node.disabled && decide (node.address ≠ [])

/-- `hubSetChanged`; a missing prior row is `none`. -/
def hubSetChanged (prior : Option Node) (next : Node) : Bool :=
  let priorActive := prior.any isActiveHub
  let nextActive := isActiveHub next
  if priorActive != nextActive then true
  else if priorActive && nextActive && decide ((prior.map Node.address) ≠ some next.address) then true
  else false

/-- `sql.NullString` of an address: the empty string is stored as NULL. -/
def nullable (text : GoString) : Option GoString := if text = [] then none else some text

/-- The write of `Upsert`. -/
def writeNode (db : DB) (n : Node) : Except SqlError DB :=
  db.upsertNode n.id n.role n.secretHash (nullable n.address) (if n.disabled then 1 else 0)

def upsert (db : DB) (n : Node) : Except StoreError DB :=
  let prior := (get db n.id).toOption
  match writeNode db n with
  | .error error => .error (.sql error)
  | .ok written => .ok (if hubSetChanged prior n then written.bumpTargetsVersion else written)

/-- Whether `Delete` bumps the version: the prior row was a hub and not disabled. -/
def deleteBumps (prior : Node) : Bool := decide (prior.role = roleHub) && !prior.disabled

def delete (db : DB) (id : GoString) : Except StoreError DB :=
  match get db id with
  | .error error => .error error
  | .ok prior =>
    match db.deleteNode id with
    | .error error => .error (.sql error)
    | .ok (deleted, removed) =>
      if removed = 0 then .error .noRows
      else .ok (if deleteBumps prior then deleted.bumpTargetsVersion else deleted)

/-- The per-node spool snapshot of a results post. -/
structure SpoolStats where
  depth : Int
  oldestAgeSecs : Int
  dropsTotal : Int
  observedAt : Time
  hasOldest : Bool
deriving DecidableEq, Repr

def updateSpoolStats (db : DB) (id : GoString) (stats : SpoolStats) : Except StoreError DB :=
  let oldest := if stats.hasOldest then
    some (toSql (stats.observedAt + wrap64 (wrap64 (-stats.oldestAgeSecs) * second))) else none
  let (updated, changed) := db.updateSpool id stats.depth oldest stats.dropsTotal (toSql stats.observedAt)
  if changed = 0 then .error .noRows else .ok updated

/-! What one statement does to a lookup. -/

theorem get_eq_ok_iff {db : DB} {id : GoString} {node : Node} :
    get db id = .ok node ↔ ∃ row, db.nodes.find? id = some row ∧ scanNode row = node := by
  unfold get
  cases db.nodes.find? id with
  | none => simp
  | some row => simp

theorem get_toOption (db : DB) (id : GoString) :
    (get db id).toOption = (db.nodes.find? id).map scanNode := by
  unfold get
  cases db.nodes.find? id with
  | none => rfl
  | some row => rfl

theorem get_id {db : DB} {id : GoString} {node : Node} (found : get db id = .ok node) :
    node.id = id := by
  obtain ⟨row, present, same⟩ := get_eq_ok_iff.mp found
  rw [← same]
  exact (Table.find?_eq_some_iff.mp present).2

theorem get_error_unknown {db : DB} {id : GoString} {error : StoreError}
    (missing : get db id = .error error) : error = .unknownNode := by
  unfold get at missing
  split at missing
  · cases missing
  · cases missing
    rfl

theorem get_of_toOption_none {db : DB} {id : GoString}
    (missing : (get db id).toOption = none) : get db id = .error .unknownNode := by
  cases found : get db id with
  | ok node =>
    rw [found] at missing
    cases missing
  | error error => rw [get_error_unknown found]

@[simp] theorem nullable_getD (text : GoString) : (nullable text).getD [] = text := by
  unfold nullable
  split
  · rename_i empty
    exact empty.symm
  · rfl

@[simp] theorem scanNode_written (n : Node) (old : NodeRow) (same : old.id = n.id) :
    scanNode (DB.overwrite n.role n.secretHash (nullable n.address) (if n.disabled then 1 else 0) old) = n := by
  cases n with
  | mk id role secretHash address disabled =>
    cases disabled <;> simp_all [scanNode, DB.overwrite]

/-- A write that passes the role check stores exactly the node it was given. -/
theorem get_writeNode {db written : DB} {n : Node} (done : writeNode db n = .ok written)
    (id : GoString) :
    (get written id).toOption = if id = n.id then some n else (get db id).toOption := by
  rw [get_toOption, get_toOption, DB.find?_upsertNode done]
  split
  · cases found : db.nodes.find? n.id with
    | none =>
      cases n with
      | mk _ _ _ _ disabled => cases disabled <;> simp [scanNode]
    | some old => simp [scanNode_written n old (Table.find?_eq_some_iff.mp found).2]
  · rfl

theorem writeNode_ok_iff {db : DB} {n : Node} :
    (∃ written, writeNode db n = .ok written) ↔ n.role ∈ roles := by
  unfold writeNode DB.upsertNode
  split
  · rename_i allowed
    simp [allowed]
  · rename_i refused
    simp [refused]

theorem writeNode_frame {db written : DB} {n : Node} (done : writeNode db n = .ok written) :
    written.results = db.results ∧ written.targetsVersion = db.targetsVersion := by
  unfold writeNode DB.upsertNode at done
  split at done
  · cases done
    exact ⟨rfl, rfl⟩
  · cases done

theorem get_deleteNode {db deleted : DB} {id : GoString} {removed : Nat}
    (done : db.deleteNode id = .ok (deleted, removed)) (other : GoString) :
    (get deleted other).toOption = if other = id then none else (get db other).toOption := by
  rw [get_toOption, get_toOption]
  unfold DB.deleteNode at done
  split at done
  · cases done
  · cases done
    simp only [Table.find?_erase]
    split
    · rfl
    · rfl

theorem deleteNode_frame {db deleted : DB} {id : GoString} {removed : Nat}
    (done : db.deleteNode id = .ok (deleted, removed)) :
    deleted.results = db.results ∧ deleted.targetsVersion = db.targetsVersion ∧
      removed = (db.nodes.find? id).toList.length := by
  unfold DB.deleteNode at done
  split at done
  · cases done
  · cases done
    exact ⟨rfl, rfl, rfl⟩

theorem deleteNode_nodes {db deleted : DB} {id : GoString} {removed : Nat}
    (done : db.deleteNode id = .ok (deleted, removed)) : deleted.nodes = db.nodes.erase id := by
  unfold DB.deleteNode at done
  split at done
  · cases done
  · cases done
    rfl

/-- A deletion is refused exactly when a result still names the node. -/
theorem deleteNode_ok_iff {db : DB} {id : GoString} :
    (∃ deleted removed, db.deleteNode id = .ok (deleted, removed)) ↔
      ∀ row ∈ db.results.rows, row.sourceID ≠ id := by
  unfold DB.deleteNode
  split
  · rename_i referenced
    simpa using referenced
  · rename_i free
    simpa using free

/-- A bump of the version touches no table. -/
theorem bumpIf_tables (bumps : Bool) (db : DB) :
    (if bumps then db.bumpTargetsVersion else db).nodes = db.nodes ∧
      (if bumps then db.bumpTargetsVersion else db).results = db.results := by
  cases bumps with
  | false => exact ⟨rfl, rfl⟩
  | true => exact ⟨rfl, rfl⟩

/-- What a successful `Upsert` did to the tables. -/
theorem upsert_ok {db after : DB} {n : Node} (done : upsert db n = .ok after) :
    ∃ written, writeNode db n = .ok written ∧ after.nodes = written.nodes ∧ after.results = written.results := by
  unfold upsert at done
  cases write : writeNode db n with
  | error error =>
    rw [write] at done
    cases done
  | ok written =>
    rw [write] at done
    cases done
    exact ⟨written, rfl, bumpIf_tables _ written⟩

/-- What a successful `Delete` did to the tables. -/
theorem delete_ok {db after : DB} {id : GoString} (done : delete db id = .ok after) :
    ∃ prior deleted removed, get db id = .ok prior ∧ db.deleteNode id = .ok (deleted, removed) ∧
      after.nodes = deleted.nodes ∧ after.results = deleted.results := by
  unfold delete at done
  cases found : get db id with
  | error error =>
    rw [found] at done
    cases done
  | ok prior =>
    cases removal : db.deleteNode id with
    | error error =>
      rw [found, removal] at done
      cases done
    | ok result =>
      rw [found, removal] at done
      simp only at done
      split at done
      · cases done
      · cases done
        exact ⟨prior, result.1, result.2, rfl, rfl, bumpIf_tables _ result.1⟩

theorem get_of_nodes {db other : DB} (same : db.nodes = other.nodes) (id : GoString) : get db id = get other id := by
  unfold get
  rw [same]

theorem updateSpoolStats_ok {db after : DB} {id : GoString} {stats : SpoolStats}
    (done : updateSpoolStats db id stats = .ok after) :
    (∃ row, db.nodes.find? id = some row) ∧
      ∃ oldest, after = (db.updateSpool id stats.depth oldest stats.dropsTotal (toSql stats.observedAt)).1 := by
  unfold updateSpoolStats at done
  generalize (if stats.hasOldest then _ else _ : Option SqlTime) = oldest at done
  simp only at done
  split at done
  · cases done
  · rename_i changed
    cases done
    refine ⟨?_, oldest, rfl⟩
    cases found : db.nodes.find? id with
    | none =>
      have count : (db.updateSpool id stats.depth oldest stats.dropsTotal (toSql stats.observedAt)).2 =
          (db.nodes.find? id).toList.length := rfl
      rw [count, found] at changed
      exact absurd rfl changed
    | some row => exact ⟨row, rfl⟩

end NodeStore

end NetLatencyMonitor.Controller
