import NetLatencyMonitor.Controller.Nodes

/-! `targets_version` as a name for the target set. The active hubs of a registry are
a partial function from ids to addresses; the SQL filter of `HubTargetsFor`, the
test of `hubSetChanged` and the test of `Delete` are all read against it. -/

namespace NetLatencyMonitor.Controller

open Keyed Text NodeStore

/-- The address under which a node is probed, if it is. -/
def probedAddress (node : Node) : Option GoString :=
  if isActiveHub node then some node.address else none

/-- The target set of a registry. -/
def activeAddress (db : DB) (id : GoString) : Option GoString :=
  (get db id).toOption.bind probedAddress

/-- An enabled hub with a non-empty address, in the words of the schema. -/
def ActiveHub (db : DB) (id address : GoString) : Prop :=
  ∃ row ∈ db.nodes.rows, row.id = id ∧ row.role = roleHub ∧ row.disabled = 0 ∧
    row.address = some address ∧ address ≠ []

private theorem probedAddress_eq_some_iff {row : NodeRow} {address : GoString} :
    probedAddress (scanNode row) = some address ↔
      row.role = roleHub ∧ row.disabled = 0 ∧ row.address = some address ∧ address ≠ [] := by
  unfold probedAddress isActiveHub scanNode
  cases stored : row.address with
  | none => simp
  | some text =>
    simp only [ne_eq, decide_not, Bool.not_not, Option.getD_some, Bool.and_eq_true, decide_eq_true_eq,
      Bool.not_eq_eq_eq_not, Bool.not_true, decide_eq_false_iff_not, Option.ite_none_right_eq_some,
      Option.some.injEq]
    constructor
    · intro ⟨⟨⟨hub, enabled⟩, filled⟩, same⟩
      exact ⟨hub, enabled, same, same ▸ filled⟩
    · intro ⟨hub, enabled, same, filled⟩
      exact ⟨⟨⟨hub, enabled⟩, same ▸ filled⟩, same⟩

private theorem activeAddress_eq_some_iff {db : DB} {id address : GoString} :
    activeAddress db id = some address ↔ ActiveHub db id address := by
  unfold activeAddress ActiveHub
  rw [get_toOption, Option.bind_map, Option.bind_eq_some_iff]
  constructor
  · intro ⟨row, found, probed⟩
    obtain ⟨present, named⟩ := Table.find?_eq_some_iff.mp found
    exact ⟨row, present, named, probedAddress_eq_some_iff.mp probed⟩
  · intro ⟨row, present, named, active⟩
    exact ⟨row, Table.find?_eq_some_iff.mpr ⟨present, named⟩, probedAddress_eq_some_iff.mpr active⟩

private theorem selectsTarget_iff {row : NodeRow} :
    selectsTarget row = true ↔ ∃ address, probedAddress (scanNode row) = some address := by
  unfold selectsTarget
  cases stored : row.address with
  | none => simp [probedAddress_eq_some_iff, stored]
  | some text =>
    simp only [probedAddress_eq_some_iff, stored, Bool.and_eq_true, decide_eq_true_eq, ne_eq,
      reduceCtorEq, not_false_eq_true, and_true, Option.some.injEq]
    constructor
    · intro ⟨⟨hub, enabled⟩, filled⟩
      exact ⟨text, hub, enabled, rfl, filled⟩
    · intro ⟨address, hub, enabled, same, filled⟩
      subst address
      exact ⟨⟨hub, enabled⟩, filled⟩

/-- The node query returns the active hubs other than the caller, and nothing else. -/
theorem mem_hubTargetRows {db : DB} {nodeID : GoString} {node : Node} :
    node ∈ hubTargetRows db nodeID ↔
      node.id ≠ nodeID ∧ activeAddress db node.id = some node.address ∧
        node = { id := node.id, role := roleHub, address := node.address } := by
  unfold hubTargetRows
  rw [mem_orderBy, List.mem_map]
  constructor
  · intro ⟨row, selected, same⟩
    obtain ⟨present, clause⟩ := List.mem_filter.mp selected
    rw [Bool.and_eq_true, decide_eq_true_eq] at clause
    obtain ⟨address, probed⟩ := selectsTarget_iff.mp clause.1
    have active := probedAddress_eq_some_iff.mp probed
    subst node
    refine ⟨clause.2, ?_, ?_⟩
    · apply activeAddress_eq_some_iff.mpr
      exact ⟨row, present, rfl, active.1, active.2.1, by simp [active.2.2.1], by simp [active.2.2.1, active.2.2.2]⟩
    · simp [active.1]
  · intro ⟨other, active, shape⟩
    obtain ⟨row, present, named, hub, enabled, stored, filled⟩ := activeAddress_eq_some_iff.mp active
    refine ⟨row, List.mem_filter.mpr ⟨present, ?_⟩, ?_⟩
    · rw [Bool.and_eq_true, decide_eq_true_eq]
      exact ⟨selectsTarget_iff.mpr ⟨node.address,
        probedAddress_eq_some_iff.mpr ⟨hub, enabled, stored, filled⟩⟩, named ▸ other⟩
    · rw [shape]
      simp [named, hub, stored]

private theorem hubTargetRows_distinct (db : DB) (nodeID : GoString) :
    (((db.nodes.rows.filter (fun row => selectsTarget row && decide (row.id ≠ nodeID))).map
      (fun row => ({ id := row.id, role := row.role, address := row.address.getD [] } : Node))).map
        (fun node => collation node.id)).Nodup := by
  rw [List.map_map]
  have ids : ((db.nodes.rows.filter (fun row => selectsTarget row && decide (row.id ≠ nodeID))).map
      NodeRow.id).Nodup :=
    List.Nodup.sublist (List.Sublist.map _ List.filter_sublist) db.nodes.unique
  have mapped := ids.map collation_injective
  rwa [List.map_map] at mapped

/-- Registries with the same target set answer every agent alike. -/
theorem hubTargetRows_congr {first second : DB}
    (same : ∀ id, activeAddress first id = activeAddress second id) (nodeID : GoString) :
    hubTargetRows first nodeID = hubTargetRows second nodeID := by
  apply orderBy_eq_of_mem_iff (hubTargetRows_distinct first nodeID) (hubTargetRows_distinct second nodeID)
  intro node
  have left := @mem_hubTargetRows first nodeID node
  have right := @mem_hubTargetRows second nodeID node
  unfold hubTargetRows at left right
  rw [mem_orderBy] at left right
  rw [left, right, same]

/-- The hand-written change test compares exactly the two target sets at the id. -/
theorem hubSetChanged_iff {prior : Option Node} {next : Node} :
    hubSetChanged prior next = true ↔ prior.bind probedAddress ≠ probedAddress next := by
  unfold hubSetChanged probedAddress
  cases prior with
  | none => cases isActiveHub next <;> simp
  | some node => cases active : isActiveHub node <;> cases isActiveHub next <;> simp [active]

private theorem activeAddress_writeNode {db written : DB} {n : Node} (done : writeNode db n = .ok written)
    (id : GoString) :
    activeAddress written id = if id = n.id then probedAddress n else activeAddress db id := by
  unfold activeAddress
  rw [get_writeNode done]
  split
  · rfl
  · rfl

theorem activeAddress_deleteNode {db deleted : DB} {id : GoString} {removed : Nat}
    (done : db.deleteNode id = .ok (deleted, removed)) (other : GoString) :
    activeAddress deleted other = if other = id then none else activeAddress db other := by
  unfold activeAddress
  rw [get_deleteNode done]
  split
  · rfl
  · rfl

/-- A write whose change test is negative keeps the target set. -/
theorem activeAddress_unchanged {db written : DB} {n : Node} (done : writeNode db n = .ok written)
    (unchanged : ¬ hubSetChanged (get db n.id).toOption n = true) (id : GoString) :
    activeAddress written id = activeAddress db id := by
  rw [activeAddress_writeNode done]
  split
  · rename_i same
    subst id
    have equal := mt hubSetChanged_iff.mpr unchanged
    exact (not_not.mp equal).symm
  · rfl

theorem activeAddress_updateSpool (db : DB) (id : GoString) (depth : Int) (oldest : Option Clock.SqlTime)
    (drops : Int) (updatedAt : Clock.SqlTime) (other : GoString) :
    activeAddress (db.updateSpool id depth oldest drops updatedAt).1 other = activeAddress db other := by
  unfold activeAddress
  rw [get_toOption, get_toOption]
  simp only [DB.updateSpool, Table.find?_modify]
  split
  · rename_i same
    subst other
    cases db.nodes.find? id with
    | none => rfl
    | some row => rfl
  · rfl

@[simp] theorem activeAddress_bump (db : DB) (id : GoString) :
    activeAddress db.bumpTargetsVersion id = activeAddress db id := rfl

/-- One call of the store. -/
inductive StoreOp where
  | upsert (n : Node)
  | delete (id : GoString)
deriving DecidableEq, Repr

/-- The database after a call; a call that returns an error has changed nothing. -/
def afterCall (db : DB) : Except StoreError DB → DB
  | .ok after => after
  | .error _ => db

def StoreOp.apply (db : DB) : StoreOp → DB
  | .upsert n => afterCall db (NodeStore.upsert db n)
  | .delete id => afterCall db (NodeStore.delete db id)

/-- An upsert bumps the version exactly when it changes the target set. -/
theorem upsert_effect (db : DB) (n : Node) :
    ((StoreOp.upsert n).apply db).targetsVersion = db.targetsVersion ∧
        (∀ id, activeAddress ((StoreOp.upsert n).apply db) id = activeAddress db id) ∨
      ((StoreOp.upsert n).apply db).targetsVersion = db.targetsVersion + 1 ∧
        ¬ ∀ id, activeAddress ((StoreOp.upsert n).apply db) id = activeAddress db id := by
  simp only [StoreOp.apply, NodeStore.upsert]
  cases done : writeNode db n with
  | error error => exact Or.inl ⟨rfl, fun _ => rfl⟩
  | ok written =>
    have version := (writeNode_frame done).2
    have targets := activeAddress_writeNode done
    by_cases changed : hubSetChanged (get db n.id).toOption n = true
    · right
      simp only [changed, if_true, afterCall]
      refine ⟨by simp [DB.bumpTargetsVersion, version], ?_⟩
      intro same
      have here := same n.id
      rw [activeAddress_bump, targets, if_pos rfl] at here
      exact hubSetChanged_iff.mp changed here.symm
    · left
      simp only [changed, afterCall]
      refine ⟨version, fun id => ?_⟩
      rw [if_neg Bool.false_ne_true]
      exact activeAddress_unchanged done changed id

/-- A delete may bump without need (a hub that has no address), never the other way. -/
theorem delete_effect (db : DB) (id : GoString) :
    ((StoreOp.delete id).apply db).targetsVersion = db.targetsVersion ∧
        (∀ other, activeAddress ((StoreOp.delete id).apply db) other = activeAddress db other) ∨
      ((StoreOp.delete id).apply db).targetsVersion = db.targetsVersion + 1 := by
  simp only [StoreOp.apply, NodeStore.delete]
  cases found : get db id with
  | error error => exact Or.inl ⟨rfl, fun _ => rfl⟩
  | ok prior =>
    cases done : db.deleteNode id with
    | error error => exact Or.inl ⟨rfl, fun _ => rfl⟩
    | ok result =>
      obtain ⟨deleted, removed⟩ := result
      have version := (deleteNode_frame done).2.1
      by_cases gone : removed = 0
      · simp [gone, afterCall]
      · by_cases bumps : deleteBumps prior = true
        · right
          simp [gone, bumps, afterCall, DB.bumpTargetsVersion, version]
        · left
          simp only [gone, bumps, if_false, afterCall]
          refine ⟨version, fun other => ?_⟩
          rw [if_neg Bool.false_ne_true, activeAddress_deleteNode done]
          split
          · rename_i same
            subst other
            -- A prior row that does not bump is no hub or is disabled, so it was not probed.
            have unprobed : probedAddress prior = none := by
              unfold probedAddress isActiveHub
              unfold deleteBumps at bumps
              simp [bumps]
            simp [activeAddress, found, Except.toOption, unprobed]
          · rfl

private theorem apply_effect (db : DB) (op : StoreOp) :
    db.targetsVersion ≤ (op.apply db).targetsVersion ∧
      ((op.apply db).targetsVersion = db.targetsVersion →
        ∀ id, activeAddress (op.apply db) id = activeAddress db id) := by
  have effect : (op.apply db).targetsVersion = db.targetsVersion ∧
        (∀ id, activeAddress (op.apply db) id = activeAddress db id) ∨
      (op.apply db).targetsVersion = db.targetsVersion + 1 := by
    cases op with
    | upsert n =>
      rcases upsert_effect db n with same | ⟨bumped, _⟩
      · exact Or.inl same
      · exact Or.inr bumped
    | delete id => exact delete_effect db id
  rcases effect with ⟨version, same⟩ | bumped
  · exact ⟨version.ge, fun _ => same⟩
  · exact ⟨by omega, fun stuck => by omega⟩

/-- The database after the first `count` calls of a run from a migrated database. -/
def moment (ops : List StoreOp) (count : Nat) : DB :=
  (ops.take count).foldl StoreOp.apply DB.migrated

private theorem moment_succ {ops : List StoreOp} {count : Nat} {op : StoreOp}
    (next : ops[count]? = some op) : moment ops (count + 1) = op.apply (moment ops count) := by
  unfold moment
  rw [List.take_add_one, next]
  simp

private theorem moment_past {ops : List StoreOp} {count : Nat} (past : ops[count]? = none) :
    moment ops (count + 1) = moment ops count := by
  unfold moment
  rw [List.take_add_one, past]
  simp

/-- Along a run the version only grows, and while it stands still so does the target set. -/
theorem moment_later (ops : List StoreOp) (first steps : Nat) :
    (moment ops first).targetsVersion ≤ (moment ops (first + steps)).targetsVersion ∧
      ((moment ops (first + steps)).targetsVersion = (moment ops first).targetsVersion →
        ∀ id, activeAddress (moment ops (first + steps)) id = activeAddress (moment ops first) id) := by
  induction steps with
  | zero => exact ⟨le_rfl, fun _ _ => rfl⟩
  | succ steps ih =>
    cases next : ops[first + steps]? with
    | none =>
      rw [← Nat.add_assoc, moment_past next]
      exact ih
    | some op =>
      rw [← Nat.add_assoc, moment_succ next]
      have one := apply_effect (moment ops (first + steps)) op
      refine ⟨ih.1.trans one.1, fun still id => ?_⟩
      have middle := ih.1
      have last := one.1
      rw [one.2 (by omega) id]
      exact ih.2 (by omega) id

/-- `targets_version` identifies the target set: over every run of store calls from
a migrated database it never decreases, two moments with the same version give
every agent the same ordered target list, and an upsert that leaves the active
hubs as they were leaves the version as it was. -/
theorem targetsVersion_identifies_targets (ops : List StoreOp) :
    (∀ earlier later, earlier ≤ later →
      (moment ops earlier).targetsVersion ≤ (moment ops later).targetsVersion) ∧
    (∀ first second, (moment ops first).targetsVersion = (moment ops second).targetsVersion →
      ∀ nodeID, (hubTargetsFor (moment ops first) nodeID).1.map (fun node => (node.id, node.address)) =
        (hubTargetsFor (moment ops second) nodeID).1.map (fun node => (node.id, node.address))) ∧
    (∀ count n, ops[count]? = some (.upsert n) →
      (∀ id address, ActiveHub (moment ops (count + 1)) id address ↔
        ActiveHub (moment ops count) id address) →
      (moment ops (count + 1)).targetsVersion = (moment ops count).targetsVersion) := by
  refine ⟨?_, ?_, ?_⟩
  · intro earlier later order
    obtain ⟨steps, rfl⟩ := Nat.exists_eq_add_of_le order
    exact (moment_later ops earlier steps).1
  · have ordered : ∀ first steps,
        (moment ops first).targetsVersion = (moment ops (first + steps)).targetsVersion →
        ∀ nodeID, hubTargetRows (moment ops first) nodeID = hubTargetRows (moment ops (first + steps)) nodeID := by
      intro first steps version nodeID
      have same := (moment_later ops first steps).2 version.symm
      exact hubTargetRows_congr (fun id => (same id).symm) nodeID
    intro first second version nodeID
    rcases Nat.le_total first second with order | order
    · obtain ⟨steps, rfl⟩ := Nat.exists_eq_add_of_le order
      simp only [hubTargetsFor, ordered first steps version nodeID]
    · obtain ⟨steps, rfl⟩ := Nat.exists_eq_add_of_le order
      simp only [hubTargetsFor, ordered second steps version.symm nodeID]
  · intro count n next unchanged
    rw [moment_succ next] at unchanged ⊢
    rcases upsert_effect (moment ops count) n with ⟨version, _⟩ | ⟨_, moved⟩
    · exact version
    · refine absurd (fun id => ?_) moved
      apply Option.ext
      intro address
      rw [activeAddress_eq_some_iff, activeAddress_eq_some_iff]
      exact unchanged id address

end NetLatencyMonitor.Controller
