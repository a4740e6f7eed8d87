import Mathlib.Data.List.Permutation
import NetLatencyMonitor.Controller.Admin
import NetLatencyMonitor.Controller.StoreCalls
import NetLatencyMonitor.Machine.Serial

/-! Concurrent admin requests, interleaved one SQL statement at a time. No handler
opens a transaction: each reads the whole row, decides, and writes the whole row. -/

namespace NetLatencyMonitor.Controller

open Machine Text

/-- An admin request with everything it brings along: path, decoded body, and for a
create the secret it would mint. -/
inductive AdminRequest where
  | create (minted : Option GoString) (body : Except GoString AdminCreateRequest)
  | patch (id : GoString) (body : Except GoString AdminPatchRequest)
  | setDisabled (disable : Bool) (id : GoString)
  | delete (id : GoString)
  | uiDelete (id : GoString)

/-- A request that looks at the row itself before it writes one: a create with valid
fields, a PATCH with an id, an enable or disable. -/
inductive RowEdit where
  | create (minted : Option GoString) (request : AdminCreateRequest)
  | patch (id : GoString) (body : Except GoString AdminPatchRequest)
  | setDisabled (disable : Bool) (id : GoString)

def RowEdit.nodeID : RowEdit → GoString
  | .create _ request => request.id
  | .patch id _ => id
  | .setDisabled _ id => id

/-- How a handler answers once its store call has returned. -/
inductive Answer where
  | created (n : Node) (secret : GoString)
  | patched (n : Node)
  | toggled (n : Node)
  | deleted
  | uiDeleted

def Answer.respond : Answer → Except StoreError Unit → Response
  | .created n secret, .ok _ => ⟨201, .created (nodeToInfo n) secret⟩
  | .created _ _, .error _ => internalError
  | .patched n, .ok _ => ⟨200, .node (nodeToInfo n)⟩
  | .patched _, .error _ => internalError
  | .toggled n, .ok _ => ⟨200, .nodeRow (nodeToInfo n)⟩
  | .toggled _, .error _ => internalError
  | .deleted, .ok _ => ⟨204, .empty⟩
  | .deleted, .error .unknownNode => unknownNode
  | .deleted, .error .noRows => unknownNode
  | .deleted, .error (.sql _) => internalError
  | .uiDeleted, .ok _ => ⟨200, .empty⟩
  | .uiDeleted, .error _ => notFound

/-- The next statement of a request. `seen` is the row the handler itself read before
it decided what to write, `none` when there was none. -/
inductive AdminPhase where
  | look (edit : RowEdit)
  | calling (call : StoreCall) (seen : Option Node) (answer : Answer)
  | done (response : Response)

/-- Answer as soon as the store call has returned. -/
def AdminPhase.resume (call : StoreCall) (seen : Option Node) (answer : Answer) : AdminPhase :=
  match call with
  | .returned result => .done (answer.respond result)
  | running => .calling running seen answer

section Steps

variable (sha256 : GoString → GoString)

/-- The request served whole. -/
def AdminRequest.serve : AdminRequest → DB → DB × Response
  | .create minted body, db => handleAdminCreateNode sha256 minted body db
  | .patch id body, db => handleAdminPatchNode sha256 id body db
  | .setDisabled disable id, db => patchDisabled disable id db
  | .delete id, db => handleAdminDeleteNode id db
  | .uiDelete id, db => handleFragDeleteNode id db

/-- What a handler does before its first statement. -/
def AdminRequest.start : AdminRequest → AdminPhase
  | .create _ (.error text) => .done ⟨422, .error (lit "invalid json: " ++ text)⟩
  | .create minted (.ok request) =>
    match validateAdminNodeFields request.id request.role request.address with
    | some text => .done ⟨422, .error text⟩
    | none => .look (.create minted request)
  | .patch id body => if id = [] then .done ⟨422, .error (lit "missing id")⟩ else .look (.patch id body)
  | .setDisabled disable id => .look (.setDisabled disable id)
  | .delete id =>
    if id = [] then .done ⟨422, .error (lit "missing id")⟩ else .calling (.deleteGet id) none .deleted
  | .uiDelete id => .calling (.deleteGet id) none .uiDeleted

/-- The handler's own `Get` has returned. -/
def RowEdit.afterGet : RowEdit → Except StoreError Node → AdminPhase
  | .create _ _, .ok _ => .done ⟨409, .error (lit "node already exists")⟩
  | .create minted request, .error .unknownNode =>
    match chooseSecret request.secret minted with
    | none => .done internalError
    | some secret =>
      let n := createdNode sha256 request secret
      .calling (.upsertGet n) none (.created n secret)
  | .create _ _, .error error => .done ⟨500, .error (storeErrorText error)⟩
  | .patch _ _, .error .unknownNode => .done unknownNode
  | .patch _ _, .error error => .done ⟨500, .error (storeErrorText error)⟩
  | .patch _ (.error text), .ok _ => .done ⟨422, .error (lit "invalid json: " ++ text)⟩
  | .patch _ (.ok request), .ok current =>
    let next := applyPatch sha256 current request
    match validateAdminNodeFields next.id next.role next.address with
    | some text => .done ⟨422, .error text⟩
    | none => .calling (.upsertGet next) (some current) (.patched next)
  | .setDisabled _ _, .error _ => .done notFound
  | .setDisabled disable _, .ok node =>
    let next := { node with disabled := disable }
    .calling (.upsertGet next) (some node) (.toggled next)

/-- One SQL statement of one request. -/
def AdminPhase.step : AdminPhase → DB → Option (DB × AdminPhase)
  | .look edit, db => some (db, edit.afterGet sha256 (NodeStore.get db edit.nodeID))
  | .calling call seen answer, db =>
    (call.step db).map (fun (after, next) => (after, .resume next seen answer))
  | .done _, _ => none

end Steps

/-- The reply a request is bound to give: what is left is at most the version bump,
whose outcome the store ignores. -/
def AdminPhase.fate : AdminPhase → Option Response
  | .look _ => none
  | .calling .bump _ answer => some (answer.respond (.ok ()))
  | .calling (.returned result) _ answer => some (answer.respond result)
  | .calling _ _ _ => none
  | .done response => some response

/-- The row a create, PATCH, enable or disable is about to overwrite is still the one
its handler read. -/
def FreshWrite (db : DB) : AdminPhase → Prop
  | .calling (.upsertWrite n _) seen _ => (NodeStore.get db n.id).toOption = seen
  | _ => True

/-- Equal tables; the target version is not compared. -/
def SameTables (real model : DB) : Prop := real.nodes = model.nodes ∧ real.results = model.results

/-- A handler's answer to a whole store call. -/
def conclude (db : DB) (answer : Answer) : Except StoreError DB → DB × Response
  | .ok after => (after, answer.respond (.ok ()))
  | .error error => (db, answer.respond (.error error))

section Discipline

variable {sha256 : GoString → GoString}

/-- On every database whose row is the one the handler saw, the request is this upsert. -/
def WritesFrom (sha256 : GoString → GoString) (request : AdminRequest) (n : Node)
    (seen : Option Node) (answer : Answer) : Prop :=
  ∀ db, (NodeStore.get db n.id).toOption = seen →
    request.serve sha256 db = conclude db answer (NodeStore.upsert db n)

/-- On every database the request is this delete. -/
def Deletes (sha256 : GoString → GoString) (request : AdminRequest) (id : GoString)
    (answer : Answer) : Prop :=
  ∀ db, request.serve sha256 db = conclude db answer (NodeStore.delete db id) ∧
    answer.respond (.error .noRows) = answer.respond (.error .unknownNode)

/-- What the next statement of an undecided request owes to the request. -/
def AdminPhase.Owes (sha256 : GoString → GoString) (request : AdminRequest) : AdminPhase → Prop
  | .look edit => request.start = .look edit
  | .calling (.upsertGet n) seen answer => WritesFrom sha256 request n seen answer
  | .calling (.upsertWrite n _) seen answer => WritesFrom sha256 request n seen answer
  | .calling (.deleteGet id) _ answer => Deletes sha256 request id answer
  | .calling (.deleteWrite id _) _ answer => Deletes sha256 request id answer
  | .calling .bump _ _ => False
  | .calling (.returned _) _ _ => False
  | .done _ => False

private theorem get_congr {real model : DB} (same : SameTables real model) (id : GoString) :
    NodeStore.get real id = NodeStore.get model id := NodeStore.get_of_nodes same.1 id

/-- Which requests begin with a look at the row. -/
theorem start_look {request : AdminRequest} {edit : RowEdit} (begins : request.start = .look edit) :
    (∃ minted asked, request = .create minted (.ok asked) ∧ edit = .create minted asked ∧
      validateAdminNodeFields asked.id asked.role asked.address = none) ∨
    (∃ id body, request = .patch id body ∧ edit = .patch id body ∧ id ≠ []) ∨
    (∃ disable id, request = .setDisabled disable id ∧ edit = .setDisabled disable id) := by
  cases request with
  | create minted body =>
    cases body with
    | error text => cases begins
    | ok asked =>
      simp only [AdminRequest.start] at begins
      split at begins
      · cases begins
      · rename_i valid
        cases begins
        exact Or.inl ⟨minted, asked, rfl, rfl, valid⟩
  | patch id body =>
    simp only [AdminRequest.start] at begins
    split at begins
    · cases begins
    · rename_i named
      cases begins
      exact Or.inr (Or.inl ⟨id, body, rfl, rfl, named⟩)
  | setDisabled disable id =>
    cases begins
    exact Or.inr (Or.inr ⟨disable, id, rfl, rfl⟩)
  | delete id =>
    simp only [AdminRequest.start] at begins
    split at begins
    · cases begins
    · cases begins
  | uiDelete id => cases begins

/-- What the handler's own `Get` makes of the request: an answer, the same as on any
database with that row, or an upsert that is right for any database with that row. -/
def Decides (sha256 : GoString → GoString) (request : AdminRequest) (id : GoString)
    (result : Except StoreError Node) (next : AdminPhase) : Prop :=
  (∃ reply, next = .done reply ∧
    ∀ db, NodeStore.get db id = result → request.serve sha256 db = (db, reply)) ∨
  ∃ n answer, next = .calling (.upsertGet n) result.toOption answer ∧
    WritesFrom sha256 request n result.toOption answer

private theorem create_decides {asked : AdminCreateRequest} (minted : Option GoString)
    (valid : validateAdminNodeFields asked.id asked.role asked.address = none)
    (result : Except StoreError Node) :
    Decides sha256 (.create minted (.ok asked)) asked.id result
      ((RowEdit.create minted asked).afterGet sha256 result) := by
  cases result with
  | ok node =>
    refine Or.inl ⟨_, rfl, fun db found => ?_⟩
    simp only [AdminRequest.serve, handleAdminCreateNode, valid, found]
  | error error =>
    cases error with
    | unknownNode =>
      cases chosen : chooseSecret asked.secret minted with
      | none =>
        refine Or.inl ⟨internalError, by simp only [RowEdit.afterGet, chosen], fun db found => ?_⟩
        simp only [AdminRequest.serve, handleAdminCreateNode, valid, found, chosen]
      | some secret =>
        refine Or.inr ⟨createdNode sha256 asked secret, .created _ secret,
          by simp only [RowEdit.afterGet, chosen]; rfl, fun db missing => ?_⟩
        have found : NodeStore.get db asked.id = .error .unknownNode := NodeStore.get_of_toOption_none missing
        simp only [AdminRequest.serve, handleAdminCreateNode, valid, found, chosen]
        cases NodeStore.upsert db (createdNode sha256 asked secret) with
        | error error => rfl
        | ok after => rfl
    | noRows =>
      refine Or.inl ⟨_, rfl, fun db found => ?_⟩
      simp only [AdminRequest.serve, handleAdminCreateNode, valid, found]
    | sql error =>
      refine Or.inl ⟨_, rfl, fun db found => ?_⟩
      simp only [AdminRequest.serve, handleAdminCreateNode, valid, found]

private theorem patch_decides {id : GoString} (body : Except GoString AdminPatchRequest) (given : id ≠ [])
    (result : Except StoreError Node) (named : ∀ node, result = .ok node → node.id = id) :
    Decides sha256 (.patch id body) id result ((RowEdit.patch id body).afterGet sha256 result) := by
  cases result with
  | error error =>
    cases error with
    | unknownNode =>
      refine Or.inl ⟨_, rfl, fun db found => ?_⟩
      simp only [AdminRequest.serve, handleAdminPatchNode, given, if_false, found]
    | noRows =>
      refine Or.inl ⟨_, rfl, fun db found => ?_⟩
      simp only [AdminRequest.serve, handleAdminPatchNode, given, if_false, found]
    | sql error =>
      refine Or.inl ⟨_, rfl, fun db found => ?_⟩
      simp only [AdminRequest.serve, handleAdminPatchNode, given, if_false, found]
  | ok current =>
    cases body with
    | error text =>
      refine Or.inl ⟨_, rfl, fun db found => ?_⟩
      simp only [AdminRequest.serve, handleAdminPatchNode, given, if_false, found]
    | ok asked =>
      cases valid : validateAdminNodeFields (applyPatch sha256 current asked).id
          (applyPatch sha256 current asked).role (applyPatch sha256 current asked).address with
      | some text =>
        refine Or.inl ⟨⟨422, .error text⟩, by simp only [RowEdit.afterGet, valid], fun db found => ?_⟩
        simp only [AdminRequest.serve, handleAdminPatchNode, given, if_false, found, valid]
      | none =>
        refine Or.inr ⟨applyPatch sha256 current asked, .patched _,
          by simp only [RowEdit.afterGet, valid]; rfl, fun db fresh => ?_⟩
        have target : (applyPatch sha256 current asked).id = id := named current rfl
        have found : NodeStore.get db id = .ok current := ok_of_toOption (target ▸ fresh)
        simp only [AdminRequest.serve, handleAdminPatchNode, given, if_false, found, valid]
        cases NodeStore.upsert db (applyPatch sha256 current asked) with
        | error error => rfl
        | ok after => rfl

private theorem setDisabled_decides (disable : Bool) (id : GoString) (result : Except StoreError Node)
    (named : ∀ node, result = .ok node → node.id = id) :
    Decides sha256 (.setDisabled disable id) id result
      ((RowEdit.setDisabled disable id).afterGet sha256 result) := by
  cases result with
  | error error =>
    refine Or.inl ⟨notFound, rfl, fun db found => ?_⟩
    simp only [AdminRequest.serve, patchDisabled, found]
  | ok node =>
    refine Or.inr ⟨{ node with disabled := disable }, .toggled _, rfl, fun db fresh => ?_⟩
    have found : NodeStore.get db id = .ok node := ok_of_toOption (named node rfl ▸ fresh)
    simp only [AdminRequest.serve, patchDisabled, found]
    cases NodeStore.upsert db { node with disabled := disable } with
    | error error => rfl
    | ok after => rfl

private theorem look_decides {request : AdminRequest} {edit : RowEdit} (begins : request.start = .look edit)
    (db : DB) :
    Decides sha256 request edit.nodeID (NodeStore.get db edit.nodeID)
      (edit.afterGet sha256 (NodeStore.get db edit.nodeID)) := by
  rcases start_look begins with
    ⟨minted, asked, rfl, rfl, valid⟩ | ⟨id, body, rfl, rfl, given⟩ | ⟨disable, id, rfl, rfl⟩
  · exact create_decides minted valid _
  · exact patch_decides body given _ (fun node found => NodeStore.get_id found)
  · exact setDisabled_decides disable id _ (fun node found => NodeStore.get_id found)

/-! A statement does the same to two databases with equal tables. -/

private theorem writeNode_congr {real model written : DB} {n : Node} (same : SameTables real model)
    (done : NodeStore.writeNode real n = .ok written) :
    ∃ copy, NodeStore.writeNode model n = .ok copy ∧ SameTables written copy := by
  have allowed : n.role ∈ roles := NodeStore.writeNode_ok_iff.mp ⟨written, done⟩
  obtain ⟨copy, copied⟩ := (@NodeStore.writeNode_ok_iff model n).mpr allowed
  refine ⟨copy, copied, ?_⟩
  simp only [NodeStore.writeNode, DB.upsertNode, allowed, dif_pos, Except.ok.injEq] at done copied
  rw [← done, ← copied]
  exact ⟨by simp only [same.1], same.2⟩

private theorem deleteNode_congr {real model deleted : DB} {id : GoString} {removed : Nat}
    (same : SameTables real model) (done : real.deleteNode id = .ok (deleted, removed)) :
    ∃ copy, model.deleteNode id = .ok (copy, removed) ∧ SameTables deleted copy := by
  have free := NodeStore.deleteNode_ok_iff.mp ⟨deleted, removed, done⟩
  rw [same.2] at free
  obtain ⟨copy, count, copied⟩ := NodeStore.deleteNode_ok_iff.mpr free
  obtain ⟨kept, _, counted⟩ := NodeStore.deleteNode_frame done
  obtain ⟨keptCopy, _, countedCopy⟩ := NodeStore.deleteNode_frame copied
  have equal : count = removed := by rw [counted, countedCopy, same.1]
  refine ⟨copy, equal ▸ copied, ?_, ?_⟩
  · rw [NodeStore.deleteNode_nodes done, NodeStore.deleteNode_nodes copied, same.1]
  · rw [kept, keptCopy, same.2]

/-- A refused deletion is refused on the copy too, and its node is there: the foreign
key that refuses it says so. -/
theorem deleteNode_error {real model : DB} {id : GoString} {error : SqlError}
    (same : SameTables real model) (refused : real.deleteNode id = .error error) :
    model.deleteNode id = .error error ∧ ∃ prior, NodeStore.get model id = .ok prior := by
  unfold DB.deleteNode at refused ⊢
  split at refused
  · rename_i referenced
    cases refused
    have still : model.results.rows.any (fun row => decide (row.sourceID = id)) := same.2 ▸ referenced
    rw [dif_pos still]
    obtain ⟨result, member, source⟩ := List.any_eq_true.mp still
    obtain ⟨row, present, named⟩ := model.sourceExists result member
    have found : model.nodes.find? id = some row :=
      Keyed.Table.find?_eq_some_iff.mpr ⟨present, named.trans (of_decide_eq_true source)⟩
    exact ⟨rfl, scanNode row, NodeStore.get_eq_ok_iff.mpr ⟨row, found, rfl⟩⟩
  · cases refused

private theorem deleteNode_count {db deleted : DB} {id : GoString} {removed : Nat}
    (done : db.deleteNode id = .ok (deleted, removed)) :
    (removed = 0 ∧ NodeStore.get db id = .error .unknownNode ∧ SameTables db deleted) ∨
      (removed ≠ 0 ∧ ∃ prior, NodeStore.get db id = .ok prior) := by
  obtain ⟨kept, _, counted⟩ := NodeStore.deleteNode_frame done
  cases found : db.nodes.find? id with
  | none =>
    rw [found] at counted
    refine Or.inl ⟨counted, by simp only [NodeStore.get, found], ?_, kept.symm⟩
    rw [NodeStore.deleteNode_nodes done, Keyed.Table.erase_absent found]
  | some row =>
    rw [found] at counted
    refine Or.inr ⟨by rw [counted]; exact Nat.one_ne_zero, scanNode row, ?_⟩
    exact NodeStore.get_eq_ok_iff.mpr ⟨row, found, rfl⟩

private theorem fate_resume_bumpIf (changed : Bool) (seen : Option Node) (answer : Answer) :
    (AdminPhase.resume (.bumpIf changed) seen answer).fate = some (answer.respond (.ok ())) := by
  cases changed with
  | false => rfl
  | true => rfl

private theorem sameTables_bumpIf (changed : Bool) {real model : DB} (same : SameTables real model) :
    SameTables real (if changed then model.bumpTargetsVersion else model) := by
  cases changed with
  | false => exact same
  | true => exact same

/-- A fresh write is the whole request, done at that moment. -/
theorem write_commits {request : AdminRequest} {n : Node} {prior seen : Option Node} {answer : Answer}
    {real after : DB} {next : StoreCall} (owes : WritesFrom sha256 request n seen answer)
    (fresh : (NodeStore.get real n.id).toOption = seen)
    (taken : (StoreCall.upsertWrite n prior).step real = some (after, next)) :
    ∃ reply, (AdminPhase.resume next seen answer).fate = some reply ∧ ∀ model, SameTables real model →
      ∃ served, request.serve sha256 model = (served, reply) ∧ SameTables after served := by
  rcases StoreCall.step_upsertWrite taken with ⟨error, refused, rfl, rfl⟩ | ⟨done, rfl⟩
  · refine ⟨_, rfl, fun model same => ⟨model, ?_, same⟩⟩
    have role : n.role ∉ roles := by
      intro allowed
      obtain ⟨written, done⟩ := (@NodeStore.writeNode_ok_iff after n).mpr allowed
      rw [refused] at done
      cases done
    have copy : NodeStore.writeNode model n = .error error := by
      rw [← refused]
      simp only [NodeStore.writeNode, DB.upsertNode, role, dif_neg, not_false_eq_true]
    rw [owes model (by rw [← get_congr same]; exact fresh)]
    simp only [NodeStore.upsert, copy, conclude]
  · refine ⟨_, fate_resume_bumpIf _ _ _, fun model same => ?_⟩
    obtain ⟨copy, copied, agree⟩ := writeNode_congr same done
    refine ⟨_, ?_, sameTables_bumpIf (NodeStore.hubSetChanged (NodeStore.get model n.id).toOption n) agree⟩
    rw [owes model (by rw [← get_congr same]; exact fresh)]
    simp only [NodeStore.upsert, copied, conclude]

/-- A `DELETE` is the whole request, done at that moment. -/
theorem delete_commits {request : AdminRequest} {id : GoString} {prior : Node} {seen : Option Node}
    {answer : Answer} {real after : DB} {next : StoreCall} (owes : Deletes sha256 request id answer)
    (taken : (StoreCall.deleteWrite id prior).step real = some (after, next)) :
    ∃ reply, (AdminPhase.resume next seen answer).fate = some reply ∧ ∀ model, SameTables real model →
      ∃ served, request.serve sha256 model = (served, reply) ∧ SameTables after served := by
  rcases StoreCall.step_deleteWrite taken with ⟨error, refused, rfl, rfl⟩ | ⟨removed, done, rfl⟩
  · refine ⟨_, rfl, fun model same => ⟨model, ?_, same⟩⟩
    obtain ⟨copy, current, found⟩ := deleteNode_error same refused
    rw [(owes model).1]
    simp only [NodeStore.delete, found, copy, conclude]
  · rcases deleteNode_count done with ⟨gone, missing, unchanged⟩ | ⟨some, prior, found⟩
    · -- another request removed the row since `Get`: the answer is that of a missing row
      rw [if_pos gone]
      refine ⟨_, rfl, fun model same => ⟨model, ?_, ?_⟩⟩
      · rw [(owes model).1, (owes model).2]
        simp only [NodeStore.delete, ← get_congr same, missing, conclude]
      · exact ⟨unchanged.1.symm.trans same.1, unchanged.2.symm.trans same.2⟩
    · rw [if_neg some]
      refine ⟨_, fate_resume_bumpIf _ _ _, fun model same => ?_⟩
      obtain ⟨copy, copied, agree⟩ := deleteNode_congr same done
      refine ⟨_, ?_, sameTables_bumpIf (NodeStore.deleteBumps prior) agree⟩
      rw [(owes model).1]
      simp only [NodeStore.delete, ← get_congr same, found, copied, some, if_false, conclude]

/-- Requests that answer without a statement. -/
theorem start_done {request : AdminRequest} {reply : Response} (answers : request.start = .done reply)
    (db : DB) : request.serve sha256 db = (db, reply) := by
  cases request with
  | create minted body =>
    cases body with
    | error text =>
      cases answers
      rfl
    | ok asked =>
      simp only [AdminRequest.start] at answers
      split at answers
      · rename_i text invalid
        cases answers
        simp only [AdminRequest.serve, handleAdminCreateNode, invalid]
      · cases answers
  | patch id body =>
    simp only [AdminRequest.start] at answers
    split at answers
    · rename_i empty
      cases answers
      simp only [AdminRequest.serve, handleAdminPatchNode, empty, if_true]
    · cases answers
  | setDisabled disable id => cases answers
  | delete id =>
    simp only [AdminRequest.start] at answers
    split at answers
    · rename_i empty
      cases answers
      simp only [AdminRequest.serve, handleAdminDeleteNode, empty, if_true]
    · cases answers
  | uiDelete id => cases answers

/-- Deletes begin with the `Get` of the store call. -/
theorem start_calling {request : AdminRequest} {call : StoreCall} {seen : Option Node} {answer : Answer}
    (begins : request.start = .calling call seen answer) :
    ∃ id, call = .deleteGet id ∧ Deletes sha256 request id answer := by
  cases request with
  | create minted body =>
    cases body with
    | error text => cases begins
    | ok asked =>
      simp only [AdminRequest.start] at begins
      split at begins
      · cases begins
      · cases begins
  | patch id body =>
    simp only [AdminRequest.start] at begins
    split at begins
    · cases begins
    · cases begins
  | setDisabled disable id => cases begins
  | delete id =>
    simp only [AdminRequest.start] at begins
    split at begins
    · cases begins
    · rename_i given
      cases begins
      refine ⟨id, rfl, fun db => ⟨?_, rfl⟩⟩
      simp only [AdminRequest.serve, handleAdminDeleteNode, given, if_false]
      cases NodeStore.delete db id with
      | ok after => rfl
      | error error =>
        cases error with
        | unknownNode => rfl
        | noRows => rfl
        | sql error => rfl
  | uiDelete id =>
    cases begins
    refine ⟨id, rfl, fun db => ⟨?_, rfl⟩⟩
    simp only [AdminRequest.serve, handleFragDeleteNode]
    cases NodeStore.delete db id with
    | ok after => rfl
    | error error => rfl

private theorem step_calling {call : StoreCall} {seen : Option Node} {answer : Answer} {db after : DB}
    {next : AdminPhase} (taken : (AdminPhase.calling call seen answer).step sha256 db = some (after, next)) :
    ∃ running, call.step db = some (after, running) ∧ next = .resume running seen answer := by
  obtain ⟨⟨stepped, running⟩, moved, same⟩ := Option.map_eq_some_iff.mp taken
  cases same
  exact ⟨running, moved, rfl⟩

private theorem committed_step {phase next : AdminPhase} {reply : Response} {real after : DB}
    (bound : phase.fate = some reply) (taken : phase.step sha256 real = some (after, next)) :
    next.fate = some reply ∧ ∀ model, SameTables real model → SameTables after model := by
  cases phase with
  | look edit => cases bound
  | done response => cases taken
  | calling call seen answer =>
    obtain ⟨running, moved, rfl⟩ := step_calling taken
    cases call with
    | bump =>
      obtain ⟨rfl, rfl⟩ := StoreCall.step_bump moved
      exact ⟨bound, fun model same => same⟩
    | returned result => cases moved
    | upsertGet n => cases bound
    | upsertWrite n prior => cases bound
    | deleteGet id => cases bound
    | deleteWrite id prior => cases bound

/-- One statement of an undecided request: it only reads, or it decides the request
as serving it whole at that moment would. -/
theorem undecided_step {request : AdminRequest} {phase next : AdminPhase} {real after : DB}
    (owes : phase.Owes sha256 request) (fresh : FreshWrite real phase)
    (taken : phase.step sha256 real = some (after, next)) :
    (next.fate = none ∧ next.Owes sha256 request ∧
      ∀ model, SameTables real model → SameTables after model) ∨
    ∃ reply, next.fate = some reply ∧ ∀ model, SameTables real model →
      ∃ served, request.serve sha256 model = (served, reply) ∧ SameTables after served := by
  cases phase with
  | done response => cases taken
  | look edit =>
    cases taken
    rcases look_decides owes real with ⟨reply, answered, serves⟩ | ⟨n, answer, calls, writes⟩
    · rw [answered]
      exact Or.inr ⟨reply, rfl, fun model same => ⟨model, serves model (get_congr same _).symm, same⟩⟩
    · rw [calls]
      exact Or.inl ⟨rfl, writes, fun model same => same⟩
  | calling call seen answer =>
    obtain ⟨running, moved, rfl⟩ := step_calling taken
    cases call with
    | upsertGet n =>
      rw [StoreCall.step_upsertGet] at moved
      cases moved
      exact Or.inl ⟨rfl, owes, fun model same => same⟩
    | upsertWrite n prior => exact Or.inr (write_commits owes fresh moved)
    | deleteGet id =>
      obtain ⟨rfl, ⟨prior, found, rfl⟩ | ⟨error, missing, rfl⟩⟩ := StoreCall.step_deleteGet moved
      · exact Or.inl ⟨rfl, owes, fun model same => same⟩
      · refine Or.inr ⟨_, rfl, fun model same => ⟨model, ?_, same⟩⟩
        rw [(owes model).1]
        simp only [NodeStore.delete, ← get_congr same, missing, conclude]
    | deleteWrite id prior => exact Or.inr (delete_commits owes moved)
    | bump => cases owes
    | returned result => cases owes

variable (sha256) in
/-- Admin requests commit at their write, their `DELETE`, or the read that refuses them. -/
def adminDiscipline :
    CommitDiscipline AdminRequest.start (AdminPhase.step sha256) (AdminRequest.serve sha256) FreshWrite where
  fate := AdminPhase.fate
  same := SameTables
  pending := AdminPhase.Owes sha256
  refl := fun _ => ⟨rfl, rfl⟩
  immediate := by
    intro request reply decided real model same
    cases begins : request.start with
    | look edit =>
      rw [begins] at decided
      cases decided
    | calling call seen answer =>
      obtain ⟨id, rfl, _⟩ := @start_calling sha256 _ _ _ _ begins
      rw [begins] at decided
      cases decided
    | done response =>
      rw [begins] at decided
      cases decided
      exact ⟨model, start_done begins model, same⟩
  starts := by
    intro request undecided
    cases begins : request.start with
    | look edit => exact begins
    | calling call seen answer =>
      obtain ⟨id, rfl, deletes⟩ := start_calling begins
      exact deletes
    | done response =>
      rw [begins] at undecided
      cases undecided
  settled := fun _ _ _ _ _ bound taken => committed_step bound taken
  moves := fun _ _ _ _ _ _ owes fresh taken => undecided_step owes fresh taken

end Discipline

/-- Admin requests in flight on one database. -/
def adminStart (requests : List AdminRequest) (db : DB) : Pool DB AdminPhase :=
  ⟨db, requests.map AdminRequest.start⟩

/-- The chosen request does not overwrite a row that changed since its handler read it. -/
def FreshStep (pool : Pool DB AdminPhase) (number : Nat) : Prop :=
  ∀ phase, pool.phases[number]? = some phase → FreshWrite pool.shared phase

/-- The row of `id` and every status are those of the requests served one after another. -/
def Serializable (sha256 : GoString → GoString) (requests : List AdminRequest) (id : GoString)
    (initial : DB) (final : Pool DB AdminPhase) : Prop :=
  ∃ order, order.Perm (List.range requests.length) ∧
    let (db, replies) := serial (AdminRequest.serve sha256) requests order initial
    final.shared.nodes.find? id = db.nodes.find? id ∧
    ∀ number response, final.phases[number]? = some (.done response) →
      ∃ reply, (number, reply) ∈ replies ∧ reply.status = response.status

/-- Requests that never overwrite a row changed since they read it are serializable. -/
theorem admin_requests_serializable (sha256 : GoString → GoString) (requests : List AdminRequest)
    (id : GoString) (initial : DB) (schedule : List Nat) (final : Pool DB AdminPhase)
    (run : exec (Pool.advance (AdminPhase.step sha256)) (adminStart requests initial) schedule = some final)
    (finished : ∀ phase ∈ final.phases, ∃ response, phase = .done response)
    (fresh : Along (Pool.advance (AdminPhase.step sha256)) FreshStep (adminStart requests initial) schedule) :
    Serializable sha256 requests id initial final := by
  have decided : ∀ phase ∈ final.phases, ∃ reply, (adminDiscipline sha256).fate phase = some reply := by
    intro phase member
    obtain ⟨response, rfl⟩ := finished phase member
    exact ⟨response, rfl⟩
  obtain ⟨order, perm, same, replied⟩ := (adminDiscipline sha256).serializable run fresh decided
  refine ⟨order, perm, ?_, ?_⟩
  · rw [same.1]
  · intro number response answered
    exact ⟨response, replied number _ response answered rfl, rfl⟩

/-- `POST /api/v1/admin/nodes` for a spoke, with a secret of the operator's choice. -/
def createSpoke (secret : GoString) : AdminRequest :=
  .create none (.ok { id := lit "spoke-1", role := roleSpoke, secret })

/-- Two creates of one id: both look before either writes, and both answer 201. Served
one after another, the second is told that the node exists. -/
theorem two_creates_both_created :
    lit "first" ≠ lit "second" ∧ ∀ sha256 : GoString → GoString,
      ∃ final,
        exec (Pool.advance (AdminPhase.step sha256))
          (adminStart [createSpoke (lit "first"), createSpoke (lit "second")] .migrated)
          [0, 1, 0, 0, 1, 1] = some final ∧
        (∀ number < 2, ∃ response, final.phases[number]? = some (.done response) ∧
          response.status = 201) ∧
        ¬ Serializable sha256 [createSpoke (lit "first"), createSpoke (lit "second")] (lit "spoke-1")
          .migrated final := by
  refine ⟨by decide, fun sha256 => ⟨_, rfl, ?_, ?_⟩⟩
  · intro number bound
    match number, bound with
    | 0, _ => exact ⟨_, rfl, rfl⟩
    | 1, _ => exact ⟨_, rfl, rfl⟩
  · intro ⟨order, perm, _, replies⟩
    obtain ⟨first, replied, created⟩ := replies 0 _ rfl
    obtain ⟨second, repliedToo, createdToo⟩ := replies 1 _ rfl
    -- whoever comes second is answered 409
    rcases List.perm_pair.mp perm with rfl | rfl
    · rcases List.mem_cons.mp repliedToo with same | rest
      · cases same
      · cases List.mem_singleton.mp rest
        cases createdToo
    · rcases List.mem_cons.mp replied with same | rest
      · cases same
      · cases List.mem_singleton.mp rest
        cases created

/-- A delete that runs between the look and the write of a create finds no row; the
create still writes over what it saw. -/
theorem delete_during_create_serializable :
    ∃ final,
      exec (Pool.advance (AdminPhase.step digestOfAbc))
        (adminStart [createSpoke (lit "abc"), .delete (lit "spoke-1")] .migrated)
        [0, 1, 0, 0] = some final ∧
      Serializable digestOfAbc [createSpoke (lit "abc"), .delete (lit "spoke-1")] (lit "spoke-1")
        .migrated final := by
  refine ⟨_, rfl, admin_requests_serializable digestOfAbc _ _ _ [0, 1, 0, 0] _ rfl ?_ ?_⟩
  · intro phase member
    rcases List.mem_cons.mp member with first | rest
    · exact ⟨_, first⟩
    · exact ⟨_, List.mem_singleton.mp rest⟩
  · refine ⟨fun _ here => ?_, fun _ one => ?_⟩
    · cases here
      trivial
    cases one
    refine ⟨fun _ here => ?_, fun _ two => ?_⟩
    · cases here
      trivial
    cases two
    refine ⟨fun _ here => ?_, fun _ three => ?_⟩
    · cases here
      trivial
    cases three
    refine ⟨fun _ here => ?_, fun _ _ => trivial⟩
    cases here
    rfl

end NetLatencyMonitor.Controller
