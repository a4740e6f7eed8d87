import NetLatencyMonitor.Controller.DropsMetric
import NetLatencyMonitor.Controller.Parity
import NetLatencyMonitor.Controller.Persist

/-! Deleting nodes from a registry whose nodes report: `probe_results.source_id`
references `nodes`, and no request ever removes a result. -/

namespace NetLatencyMonitor.Controller

open Text Clock Keyed

/-- A node whose results are stored. -/
def Reported (db : DB) (id : GoString) : Prop := ∃ row ∈ db.results.rows, row.sourceID = id

theorem Reported.registered {db : DB} {id : GoString} (reported : Reported db id) :
    ∃ node, NodeStore.get db id = .ok node := by
  obtain ⟨row, stored, same⟩ := reported
  obtain ⟨node, member, named⟩ := db.sourceExists row stored
  exact ⟨scanNode node, NodeStore.get_eq_ok_iff.mpr
    ⟨node, Table.find?_eq_some_iff.mpr ⟨member, named.trans same⟩, rfl⟩⟩

/-! The three outcomes of `DELETE /api/v1/admin/nodes/{id}`. -/

private theorem handleAdminDeleteNode_reported {db : DB} {id : GoString} (named : id ≠ []) (reported : Reported db id) :
    handleAdminDeleteNode id db = (db, internalError) := by
  obtain ⟨node, found⟩ := reported.registered
  obtain ⟨row, stored, same⟩ := reported
  have refused : db.deleteNode id = .error .foreignKey := by
    unfold DB.deleteNode
    exact dif_pos (List.any_eq_true.mpr ⟨row, stored, by simp [same]⟩)
  simp only [handleAdminDeleteNode, NodeStore.delete, if_neg named, found, refused]

private theorem handleAdminDeleteNode_unknown {db : DB} {id : GoString} (named : id ≠ [])
    (missing : db.nodes.find? id = none) : handleAdminDeleteNode id db = (db, unknownNode) := by
  have unknown : NodeStore.get db id = .error .unknownNode := by simp only [NodeStore.get, missing]
  simp only [handleAdminDeleteNode, NodeStore.delete, if_neg named, unknown]

private theorem handleAdminDeleteNode_unreported {db : DB} {id : GoString} {row : NodeRow} (named : id ≠ [])
    (present : db.nodes.find? id = some row) (unreported : ¬ Reported db id) :
    (handleAdminDeleteNode id db).2 = ⟨204, .empty⟩ ∧
      (handleAdminDeleteNode id db).1.nodes = db.nodes.erase id ∧
      (handleAdminDeleteNode id db).1.results = db.results := by
  obtain ⟨deleted, removed, done⟩ := NodeStore.deleteNode_ok_iff.mpr
    (fun result stored same => unreported ⟨result, stored, same⟩)
  obtain ⟨results, _, count⟩ := NodeStore.deleteNode_frame done
  have nodes := NodeStore.deleteNode_nodes done
  have found : NodeStore.get db id = .ok (scanNode row) := NodeStore.get_eq_ok_iff.mpr ⟨row, present, rfl⟩
  have removedAny : removed ≠ 0 := by
    rw [count, present]
    exact Nat.one_ne_zero
  simp only [handleAdminDeleteNode, NodeStore.delete, if_neg named, found, done, if_neg removedAny]
  obtain ⟨sameNodes, sameResults⟩ := NodeStore.bumpIf_tables (NodeStore.deleteBumps (scanNode row)) deleted
  exact ⟨trivial, sameNodes.trans nodes, sameResults.trans results⟩

/-- The deletion an operator asks for: a registered node goes, alone and for good, and an
unknown id is answered as such. -/
structure DeletesAsAsked (db : DB) (id : GoString) : Prop where
  present : (∃ row ∈ db.nodes.rows, row.id = id) →
    (handleAdminDeleteNode id db).2.status = 204 ∧
      (∀ row, row ∈ (handleAdminDeleteNode id db).1.nodes.rows ↔ row ∈ db.nodes.rows ∧ row.id ≠ id) ∧
      (handleAdminDeleteNode id db).1.results = db.results ∧
      (handleAdminDeleteNode id (handleAdminDeleteNode id db).1).2.status = 404
  absent : (∀ row ∈ db.nodes.rows, row.id ≠ id) →
    (handleAdminDeleteNode id db).2.status = 404 ∧ (handleAdminDeleteNode id db).1 = db

private theorem deletesAsAsked_of_unreported {db : DB} {id : GoString} (named : id ≠ [])
    (unreported : ¬ Reported db id) :
    DeletesAsAsked db id where
  present := by
    rintro ⟨row, member, same⟩
    obtain ⟨answer, nodes, results⟩ := handleAdminDeleteNode_unreported named
      (Table.find?_eq_some_iff.mpr ⟨member, same⟩) unreported
    have gone : (handleAdminDeleteNode id db).1.nodes.find? id = none := by
      rw [nodes, Table.find?_erase, if_pos rfl]
    refine ⟨by rw [answer], fun other => ?_, results, ?_⟩
    · rw [nodes]
      exact Table.mem_erase
    · rw [handleAdminDeleteNode_unknown named gone]
      rfl
  absent := by
    intro missing
    rw [handleAdminDeleteNode_unknown named (Table.find?_eq_none_iff.mpr missing)]
    exact ⟨rfl, rfl⟩

/-- In every state, and for every id a path can carry, the deletion does what it is asked
exactly when the node has no stored results. -/
theorem deletesAsAsked_iff {db : DB} {id : GoString} (named : id ≠ []) :
    DeletesAsAsked db id ↔ ∀ row ∈ db.results.rows, row.sourceID ≠ id := by
  constructor
  · intro deletes row stored same
    have reported : Reported db id := ⟨row, stored, same⟩
    obtain ⟨node, member, known⟩ := db.sourceExists row stored
    have answer := (deletes.present ⟨node, member, known.trans same⟩).1
    rw [handleAdminDeleteNode_reported named reported] at answer
    exact absurd answer (show ¬ (500 : Nat) = 204 by decide)
  · intro free
    exact deletesAsAsked_of_unreported named (fun ⟨row, stored, same⟩ => free row stored same)

/-! Runs of requests. -/

def RegistryOp.isAdmin : RegistryOp → Bool
  | .ingest _ => false
  | .report _ _ => false
  | .restCreate _ _ => true
  | .restPatch _ _ => true
  | .restDelete _ => true
  | .uiCreate _ _ => true
  | .uiSetDisabled _ _ => true
  | .uiDelete _ => true

/-- The requests that change the controller's state. -/
inductive ControllerRequest where
  | admin (op : { op : RegistryOp // op.isAdmin = true })
  | results (nodeID : GoString) (body : Except GoString ResultsRequest) (now : Time)

section Runs

variable (sha256 : GoString → GoString)

def Ingest.serve (state : Ingest) : ControllerRequest → Ingest
  | .admin op => { state with db := op.val.apply sha256 state.db }
  | .results nodeID body now => (handleResults nodeID body now state).1

def Ingest.serveAll (state : Ingest) (requests : List ControllerRequest) : Ingest :=
  requests.foldl (Ingest.serve sha256) state

variable {sha256}

theorem StoreWrite.results {db after : DB} (write : StoreWrite db after) : after.results = db.results := by
  cases write with
  | nothing => rfl
  | upsert valid done =>
    obtain ⟨written, write, _, results⟩ := NodeStore.upsert_ok done
    exact results.trans (NodeStore.writeNode_frame write).1
  | delete done =>
    obtain ⟨_, deleted, removed, _, removal, _, results⟩ := NodeStore.delete_ok done
    exact results.trans (NodeStore.deleteNode_frame removal).1

private theorem RegistryOp.storeWrite {op : RegistryOp} (admin : op.isAdmin = true) (db : DB) :
    StoreWrite db (op.apply sha256 db) := by
  cases op with
  | restCreate minted body => exact storeWrite_create
  | restPatch id body => exact storeWrite_patch
  | restDelete id => exact storeWrite_restDelete
  | uiCreate minted form => exact storeWrite_fragCreate
  | uiSetDisabled disable id => exact storeWrite_patchDisabled
  | uiDelete id => exact storeWrite_fragDelete
  | ingest row => cases admin
  | report id stats => cases admin

private theorem insertRows_kept {db after : DB} {rows : List ResultRow} (done : insertRows db rows = .ok after) :
    ∀ row ∈ db.results.rows, row ∈ after.results.rows := by
  induction rows generalizing db with
  | nil =>
    cases done
    exact fun _ stored => stored
  | cons first rest ih =>
    unfold insertRows at done
    split at done
    · cases done
    · rename_i next inserted
      intro row stored
      refine ih done row ?_
      rw [(insertResult_ok inserted).1]
      exact List.mem_append_left _ stored

private theorem persistResults_kept {db after : DB} {req : ResultsRequest} {status : Nat}
    (done : persistResults db req = .ok (after, status)) : ∀ row ∈ db.results.rows, row ∈ after.results.rows := by
  rcases persistResults_ok_iff.mp done with ⟨ran, _⟩ | ⟨_, _, _, rfl, _⟩
  · exact insertRows_kept ran
  · exact fun _ stored => stored

private theorem handleResults_kept (nodeID : GoString) (body : Except GoString ResultsRequest) (now : Time)
    (state : Ingest) :
    ∀ row ∈ state.db.results.rows, row ∈ (handleResults nodeID body now state).1.db.results.rows := by
  unfold handleResults
  split
  · exact fun _ stored => stored
  · split
    · exact fun _ stored => stored
    · split
      · exact fun _ stored => stored
      · rename_i stored status done
        simp only
        split
        · rename_i updated snapshot
          obtain ⟨_, _, same⟩ := NodeStore.updateSpoolStats_ok snapshot
          have results : updated.results = stored.results := by rw [same]; rfl
          rw [results]
          exact persistResults_kept done
        · exact persistResults_kept done

private theorem serve_kept (state : Ingest) (request : ControllerRequest) :
    ∀ row ∈ state.db.results.rows, row ∈ (state.serve sha256 request).db.results.rows := by
  cases request with
  | admin op =>
    intro row stored
    have same := (RegistryOp.storeWrite op.property state.db : StoreWrite _ (op.val.apply sha256 state.db)).results
    rw [← same] at stored
    exact stored
  | results nodeID body now => exact handleResults_kept nodeID body now state

private theorem serveAll_kept (state : Ingest) (requests : List ControllerRequest) :
    ∀ row ∈ state.db.results.rows, row ∈ (state.serveAll sha256 requests).db.results.rows := by
  induction requests generalizing state with
  | nil => exact fun _ stored => stored
  | cons request rest ih =>
    intro row stored
    exact ih (state.serve sha256 request) row (serve_kept state request row stored)

/-- A node that has reported once can never be deleted again, whatever is requested in
between. -/
theorem reported_stays (state : Ingest) (requests : List ControllerRequest) {id : GoString} (named : id ≠ [])
    (reported : Reported state.db id) :
    handleAdminDeleteNode id (state.serveAll sha256 requests).db =
      ((state.serveAll sha256 requests).db, internalError) := by
  obtain ⟨row, stored, same⟩ := reported
  exact handleAdminDeleteNode_reported named ⟨row, serveAll_kept state requests row stored, same⟩

end Runs

/-- A spoke is created and posts one measurement. -/
def spokeReports : List ControllerRequest :=
  [.admin ⟨.restCreate none (.ok { id := lit "spoke-1", role := roleSpoke, secret := lit "abc" }), rfl⟩,
   .results (lit "spoke-1")
    (.ok {
      sourceID := lit "spoke-1", probeRunID := lit "run-1", observedAt := 0
      results := [{ targetID := lit "hub-1", latencyMs := some 1 }] }) 0]

/-- Deleting that spoke is answered with 500, and it stays registered. -/
theorem reported_spoke_not_deleted :
    (∃ row ∈ ((Ingest.start DB.migrated).serveAll digestOfAbc spokeReports).db.nodes.rows, row.id = lit "spoke-1") ∧
      (handleAdminDeleteNode (lit "spoke-1") ((Ingest.start DB.migrated).serveAll digestOfAbc spokeReports).db).2 =
        internalError ∧
      ¬ DeletesAsAsked ((Ingest.start DB.migrated).serveAll digestOfAbc spokeReports).db (lit "spoke-1") := by
  have registered : ∃ row ∈ ((Ingest.start DB.migrated).serveAll digestOfAbc spokeReports).db.nodes.rows,
      row.id = lit "spoke-1" := by decide +kernel
  have reported : Reported ((Ingest.start DB.migrated).serveAll digestOfAbc spokeReports).db (lit "spoke-1") := by
    unfold Reported
    decide +kernel
  have answer := handleAdminDeleteNode_reported (by decide) reported
  refine ⟨registered, by rw [answer], fun deletes => ?_⟩
  have status := (deletes.present registered).1
  rw [answer] at status
  exact absurd status (show ¬ (500 : Nat) = 204 by decide)

/-- Before it has posted anything, the spoke is deleted as asked. -/
theorem silent_spoke_deleted :
    DeletesAsAsked ((Ingest.start DB.migrated).serveAll digestOfAbc (spokeReports.take 1)).db (lit "spoke-1") :=
  (deletesAsAsked_iff (by decide)).mpr (by decide +kernel)

end NetLatencyMonitor.Controller
