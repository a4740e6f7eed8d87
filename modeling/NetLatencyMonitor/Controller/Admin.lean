import NetLatencyMonitor.Controller.Auth

/-! The registry handlers of the REST admin API and of the web UI, each run without
another request in between and without database I/O errors. -/

namespace NetLatencyMonitor.Controller

open Text

/-- The JSON shape of a node, which the UI's `NodeInfo` shares. -/
structure AdminNode where
  id : GoString
  role : GoString
  address : GoString
  disabled : Bool
deriving DecidableEq, Repr

def nodeToInfo (n : Node) : AdminNode := ⟨n.id, n.role, n.address, n.disabled⟩

structure AdminCreateRequest where
  id : GoString
  role : GoString
  address : GoString := []
  disabled : Bool := false
  secret : GoString := []
deriving DecidableEq, Repr

/-- A field that is absent from the JSON body is `none`. -/
structure AdminPatchRequest where
  role : Option GoString := none
  address : Option GoString := none
  disabled : Option Bool := none
  secret : Option GoString := none
deriving DecidableEq, Repr

/-- The form of the UI's create dialog. -/
structure CreateForm where
  id : GoString
  role : GoString
  address : GoString
  secret : GoString
deriving DecidableEq, Repr

inductive Body where
  | empty
  | error (text : GoString)
  | node (node : AdminNode)
  | created (node : AdminNode) (secret : GoString)
  | nodesPage (nodes : List AdminNode) (secret : GoString)
  | nodeRow (node : AdminNode)
deriving DecidableEq, Repr

structure Response where
  status : Nat
  body : Body
deriving DecidableEq, Repr

def Response.succeeded (response : Response) : Bool :=
  decide (200 ≤ response.status) && decide (response.status < 300)

/-- `validateAdminNodeFields`; `none` is success. -/
def validateAdminNodeFields (id role address : GoString) : Option GoString :=
  if id = [] then some (lit "id required")
  else if role ≠ roleSpoke ∧ role ≠ roleHub ∧ role ≠ roleListener then
    some (lit "role must be one of spoke, hub, listener")
  else if role = roleHub ∧ address = [] then some (lit "hub role requires address (host:port)")
  else none

def internalError : Response := ⟨500, .error (lit "internal error")⟩
def unknownNode : Response := ⟨404, .error (lit "unknown node")⟩
def notFound : Response := ⟨404, .error (lit "not found")⟩

/-- `err.Error()` of a store error that is not `ErrUnknownNode`. -/
def storeErrorText : StoreError → GoString
  | .unknownNode => lit "controller: unknown node"
  | .noRows => lit "sql: no rows in result set"
  | .sql (.other text) => text
  | .sql .unique => lit "UNIQUE constraint failed"
  | .sql .foreignKey => lit "FOREIGN KEY constraint failed"
  | .sql .check => lit "CHECK constraint failed"

/-- The row a PATCH writes, from the row it read. -/
def applyPatch (sha256 : GoString → GoString) (current : Node) (request : AdminPatchRequest) : Node where
  id := current.id
  role := request.role.getD current.role
  address := request.address.getD current.address
  disabled := request.disabled.getD current.disabled
  secretHash := match request.secret with
    | some secret => if secret ≠ [] then hashSecret sha256 secret else current.secretHash
    | none => current.secretHash

section Handlers

variable (sha256 : GoString → GoString)

/-- The secret of a new node: the operator's, or a minted one (`none` when the
random source failed). -/
def chooseSecret (given : GoString) (minted : Option GoString) : Option GoString :=
  if given = [] then minted else some given

/-- The node a create request asks for. -/
def createdNode (request : AdminCreateRequest) (secret : GoString) : Node where
  id := request.id
  role := request.role
  secretHash := hashSecret sha256 secret
  address := request.address
  disabled := request.disabled

/-- `POST /api/v1/admin/nodes`; an undecodable body is `.error` with the decoder's text. -/
def handleAdminCreateNode (minted : Option GoString) (body : Except GoString AdminCreateRequest)
    (db : DB) : DB × Response :=
  match body with
  | .error text => (db, ⟨422, .error (lit "invalid json: " ++ text)⟩)
  | .ok request =>
    match validateAdminNodeFields request.id request.role request.address with
    | some text => (db, ⟨422, .error text⟩)
    | none =>
      match NodeStore.get db request.id with
      | .ok _ => (db, ⟨409, .error (lit "node already exists")⟩)
      | .error .unknownNode =>
        match chooseSecret request.secret minted with
        | none => (db, internalError)
        | some secret =>
          let n := createdNode sha256 request secret
          match NodeStore.upsert db n with
          | .error _ => (db, internalError)
          | .ok after => (after, ⟨201, .created (nodeToInfo n) secret⟩)
      | .error error => (db, ⟨500, .error (storeErrorText error)⟩)

/-- `PATCH /api/v1/admin/nodes/{id}`. -/
def handleAdminPatchNode (id : GoString) (body : Except GoString AdminPatchRequest) (db : DB) :
    DB × Response :=
  if id = [] then (db, ⟨422, .error (lit "missing id")⟩)
  else
    match NodeStore.get db id with
    | .error .unknownNode => (db, unknownNode)
    | .error error => (db, ⟨500, .error (storeErrorText error)⟩)
    | .ok current =>
      match body with
      | .error text => (db, ⟨422, .error (lit "invalid json: " ++ text)⟩)
      | .ok request =>
        let next := applyPatch sha256 current request
        match validateAdminNodeFields next.id next.role next.address with
        | some text => (db, ⟨422, .error text⟩)
        | none =>
          match NodeStore.upsert db next with
          | .error _ => (db, internalError)
          | .ok after => (after, ⟨200, .node (nodeToInfo next)⟩)

/-- `DELETE /api/v1/admin/nodes/{id}`. -/
def handleAdminDeleteNode (id : GoString) (db : DB) : DB × Response :=
  if id = [] then (db, ⟨422, .error (lit "missing id")⟩)
  else
    match NodeStore.delete db id with
    | .error .unknownNode => (db, unknownNode)
    | .error .noRows => (db, unknownNode)
    | .error (.sql _) => (db, internalError)
    | .ok after => (after, ⟨204, .empty⟩)

/-- `POST /ui/frag/nodes`: every field trimmed, no look at an existing row. -/
def handleFragCreateNode (minted : Option GoString) (form : CreateForm) (db : DB) : DB × Response :=
  let id := trimSpace form.id
  let role := trimSpace form.role
  let address := trimSpace form.address
  let secret := trimSpace form.secret
  match validateAdminNodeFields id role address with
  | some text => (db, ⟨422, .error text⟩)
  | none =>
    match chooseSecret secret minted with
    | none => (db, internalError)
    | some secret =>
      let n : Node := { id, role, address, secretHash := hashSecret sha256 secret }
      match NodeStore.upsert db n with
      | .error _ => (db, internalError)
      | .ok after => (after, ⟨200, .nodesPage ((NodeStore.list after).map nodeToInfo) secret⟩)

/-- `DELETE /ui/frag/nodes/{id}`: every failure reads as not found. -/
def handleFragDeleteNode (id : GoString) (db : DB) : DB × Response :=
  match NodeStore.delete db id with
  | .error _ => (db, notFound)
  | .ok after => (after, ⟨200, .empty⟩)

def patchDisabled (disable : Bool) (id : GoString) (db : DB) : DB × Response :=
  match NodeStore.get db id with
  | .error _ => (db, notFound)
  | .ok node =>
    let node := { node with disabled := disable }
    match NodeStore.upsert db node with
    | .error _ => (db, internalError)
    | .ok after => (after, ⟨200, .nodeRow (nodeToInfo node)⟩)

/-- `PATCH /ui/frag/nodes/{id}/disable`. -/
def handleFragDisableNode (id : GoString) (db : DB) : DB × Response := patchDisabled true id db

/-- `PATCH /ui/frag/nodes/{id}/enable`. -/
def handleFragEnableNode (id : GoString) (db : DB) : DB × Response := patchDisabled false id db

end Handlers

theorem validateAdminNodeFields_ok_iff {id role address : GoString} :
    validateAdminNodeFields id role address = none ↔
      id ≠ [] ∧ role ∈ roles ∧ (role = roleHub → address ≠ []) := by
  unfold validateAdminNodeFields roles
  by_cases named : id = []
  · simp [named]
  · by_cases known : role ≠ roleSpoke ∧ role ≠ roleHub ∧ role ≠ roleListener
    · simp [named, known]
    · have listed : role = roleSpoke ∨ role = roleHub ∨ role = roleListener := by
        by_contra none
        simp only [not_or] at none
        exact known none
      simp [named, known, listed]

/-- What a valid node's upsert does: it always succeeds. -/
theorem upsert_valid {db : DB} {n : Node}
    (valid : validateAdminNodeFields n.id n.role n.address = none) :
    ∃ after, NodeStore.upsert db n = .ok after := by
  obtain ⟨_, allowed, _⟩ := validateAdminNodeFields_ok_iff.mp valid
  obtain ⟨written, done⟩ := (@NodeStore.writeNode_ok_iff db n).mpr allowed
  unfold NodeStore.upsert
  rw [done]
  exact ⟨_, rfl⟩

/-! What each success of a handler that writes a secret stands for. -/

section Written

variable {sha256 : GoString → GoString} {db : DB}

theorem handleAdminCreateNode_created {minted : Option GoString} {body : Except GoString AdminCreateRequest}
    {node : AdminNode} {secret : GoString}
    (reported : (handleAdminCreateNode sha256 minted body db).2 = ⟨201, .created node secret⟩) :
    ∃ request, node = nodeToInfo (createdNode sha256 request secret) ∧
      validateAdminNodeFields request.id request.role request.address = none ∧
      NodeStore.upsert db (createdNode sha256 request secret) =
        .ok (handleAdminCreateNode sha256 minted body db).1 := by
  unfold handleAdminCreateNode at reported ⊢
  split at reported
  · cases reported
  · rename_i request
    split at reported
    · cases reported
    · rename_i valid
      split at reported
      · cases reported
      · split at reported
        · cases reported
        · simp only at reported ⊢
          split at reported
          · cases reported
          · rename_i done
            cases reported
            exact ⟨request, rfl, valid, done⟩
      · cases reported

theorem handleFragCreateNode_reported {minted : Option GoString} {form : CreateForm} {nodes : List AdminNode}
    {secret : GoString}
    (reported : (handleFragCreateNode sha256 minted form db).2 = ⟨200, .nodesPage nodes secret⟩) :
    trimSpace form.id ≠ [] ∧
      NodeStore.upsert db
          { id := trimSpace form.id, role := trimSpace form.role, address := trimSpace form.address,
            secretHash := hashSecret sha256 secret } =
        .ok (handleFragCreateNode sha256 minted form db).1 := by
  unfold handleFragCreateNode at reported ⊢
  simp only at reported ⊢
  split at reported
  · cases reported
  · rename_i valid
    split at reported
    · cases reported
    · split at reported
      · cases reported
      · rename_i done
        cases reported
        exact ⟨(validateAdminNodeFields_ok_iff.mp valid).1, done⟩

theorem handleAdminPatchNode_succeeded {id : GoString} {request : AdminPatchRequest}
    (succeeded : (handleAdminPatchNode sha256 id (.ok request) db).2.succeeded = true) :
    id ≠ [] ∧ ∃ current, NodeStore.get db id = .ok current ∧
      NodeStore.upsert db (applyPatch sha256 current request) =
        .ok (handleAdminPatchNode sha256 id (.ok request) db).1 := by
  unfold handleAdminPatchNode at succeeded ⊢
  split at succeeded
  · cases succeeded
  · rename_i named
    simp only [if_neg named]
    split at succeeded
    · cases succeeded
    · cases succeeded
    · rename_i current found
      simp only at succeeded ⊢
      split at succeeded
      · cases succeeded
      · split at succeeded
        · cases succeeded
        · rename_i done
          exact ⟨named, current, found, done⟩

end Written

theorem get_upsert {db after : DB} {n : Node} (done : NodeStore.upsert db n = .ok after)
    (id : GoString) :
    (NodeStore.get after id).toOption = if id = n.id then some n else (NodeStore.get db id).toOption := by
  obtain ⟨written, write, nodes, _⟩ := NodeStore.upsert_ok done
  rw [NodeStore.get_of_nodes nodes, NodeStore.get_writeNode write]

theorem get_upsert_own {db after : DB} {n : Node} (done : NodeStore.upsert db n = .ok after) :
    NodeStore.get after n.id = .ok n := by
  have stored := get_upsert done n.id
  rw [if_pos rfl] at stored
  exact ok_of_toOption stored

theorem get_delete {db after : DB} {id : GoString} (done : NodeStore.delete db id = .ok after)
    (other : GoString) :
    (NodeStore.get after other).toOption =
      if other = id then none else (NodeStore.get db other).toOption := by
  obtain ⟨_, deleted, removed, _, removal, nodes, _⟩ := NodeStore.delete_ok done
  rw [NodeStore.get_of_nodes nodes, NodeStore.get_deleteNode removal]

end NetLatencyMonitor.Controller
