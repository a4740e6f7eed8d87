import NetLatencyMonitor.Controller.Admin

/-! The web UI against the REST admin API: the same registry operation asked for on
either side. -/

namespace NetLatencyMonitor.Controller

open Text Clock

section Parity

variable (sha256 : GoString → GoString)

/-- Everything that changes the database through a handler. The last two are what
results ingestion writes. -/
inductive RegistryOp where
  | restCreate (minted : Option GoString) (body : Except GoString AdminCreateRequest)
  | restPatch (id : GoString) (body : Except GoString AdminPatchRequest)
  | restDelete (id : GoString)
  | uiCreate (minted : Option GoString) (form : CreateForm)
  | uiSetDisabled (disable : Bool) (id : GoString)
  | uiDelete (id : GoString)
  | ingest (row : ResultRow)
  | report (id : GoString) (stats : NodeStore.SpoolStats)

def RegistryOp.apply (db : DB) : RegistryOp → DB
  | .restCreate minted body => (handleAdminCreateNode sha256 minted body db).1
  | .restPatch id body => (handleAdminPatchNode sha256 id body db).1
  | .restDelete id => (handleAdminDeleteNode id db).1
  | .uiCreate minted form => (handleFragCreateNode sha256 minted form db).1
  | .uiSetDisabled disable id => (patchDisabled disable id db).1
  | .uiDelete id => (handleFragDeleteNode id db).1
  | .ingest row => (db.insertResult row).toOption.getD db
  | .report id stats => (NodeStore.updateSpoolStats db id stats).toOption.getD db

/-- A database the handlers can produce from a migrated one. -/
def HandlerReachable (db : DB) : Prop :=
  ∃ ops : List RegistryOp, ops.foldl (RegistryOp.apply sha256) DB.migrated = db

/-- Every stored node would pass the field checks again. -/
def Registered (db : DB) : Prop :=
  ∀ id node, NodeStore.get db id = .ok node →
    validateAdminNodeFields node.id node.role node.address = none

private theorem registered_migrated : Registered DB.migrated := by
  intro id node found
  cases found

variable {sha256} {db : DB}

private theorem registered_of_get {after : DB} (held : Registered db)
    (source : ∀ id node, (NodeStore.get after id).toOption = some node →
      (NodeStore.get db id).toOption = some node ∨
        validateAdminNodeFields node.id node.role node.address = none) : Registered after := by
  intro id node found
  rcases source id node (by rw [found]; rfl) with old | valid
  · cases before : NodeStore.get db id with
    | error error => simp [before, Except.toOption] at old
    | ok stored =>
      simp only [before, Except.toOption, Option.some.injEq] at old
      exact held id node (old ▸ before)
  · exact valid

/-- What an admin request can do to the database: nothing, one upsert of a node that passes
the field checks (when the stored ones do), or one deletion. -/
inductive StoreWrite (db : DB) : DB → Prop
  | nothing : StoreWrite db db
  | upsert {after : DB} {n : Node}
      (valid : Registered db → validateAdminNodeFields n.id n.role n.address = none)
      (done : NodeStore.upsert db n = .ok after) : StoreWrite db after
  | delete {after : DB} {id : GoString} (done : NodeStore.delete db id = .ok after) : StoreWrite db after

theorem StoreWrite.registered {after : DB} (write : StoreWrite db after) (held : Registered db) :
    Registered after := by
  cases write with
  | nothing => exact held
  | upsert valid done =>
    apply registered_of_get held
    intro id node found
    rw [get_upsert done] at found
    split at found
    · cases found
      exact Or.inr (valid held)
    · exact Or.inl found
  | delete done =>
    apply registered_of_get held
    intro other node found
    rw [get_delete done] at found
    split at found
    · cases found
    · exact Or.inl found

theorem storeWrite_create {minted : Option GoString} {body : Except GoString AdminCreateRequest} :
    StoreWrite db (handleAdminCreateNode sha256 minted body db).1 := by
  unfold handleAdminCreateNode
  split
  · exact .nothing
  · split
    · exact .nothing
    · rename_i valid
      split
      · exact .nothing
      · split
        · exact .nothing
        · simp only
          split
          · exact .nothing
          · rename_i done
            exact .upsert (fun _ => valid) done
      · exact .nothing

theorem storeWrite_patch {id : GoString} {body : Except GoString AdminPatchRequest} :
    StoreWrite db (handleAdminPatchNode sha256 id body db).1 := by
  unfold handleAdminPatchNode
  split
  · exact .nothing
  · split
    · exact .nothing
    · exact .nothing
    · split
      · exact .nothing
      · simp only
        split
        · exact .nothing
        · rename_i valid
          split
          · exact .nothing
          · rename_i done
            exact .upsert (fun _ => valid) done

theorem storeWrite_fragCreate {minted : Option GoString} {form : CreateForm} :
    StoreWrite db (handleFragCreateNode sha256 minted form db).1 := by
  unfold handleFragCreateNode
  simp only
  split
  · exact .nothing
  · rename_i valid
    split
    · exact .nothing
    · split
      · exact .nothing
      · rename_i done
        exact .upsert (fun _ => valid) done

theorem storeWrite_patchDisabled {disable : Bool} {id : GoString} :
    StoreWrite db (patchDisabled disable id db).1 := by
  unfold patchDisabled
  split
  · exact .nothing
  · rename_i node found
    simp only
    split
    · exact .nothing
    · rename_i done
      exact @StoreWrite.upsert db _ { node with disabled := disable } (fun held => held id node found) done

theorem storeWrite_restDelete {id : GoString} : StoreWrite db (handleAdminDeleteNode id db).1 := by
  unfold handleAdminDeleteNode
  split
  · exact .nothing
  · split
    · exact .nothing
    · exact .nothing
    · exact .nothing
    · rename_i done
      exact .delete done

theorem storeWrite_fragDelete {id : GoString} : StoreWrite db (handleFragDeleteNode id db).1 := by
  unfold handleFragDeleteNode
  split
  · exact .nothing
  · rename_i done
    exact .delete done

private theorem registered_ingest {row : ResultRow} (held : Registered db) :
    Registered ((db.insertResult row).toOption.getD db) := by
  cases done : db.insertResult row with
  | error error => exact held
  | ok after =>
    apply registered_of_get held
    intro id node found
    left
    unfold DB.insertResult at done
    split at done
    · cases done
    · split at done
      · cases done
        exact found
      · cases done

private theorem registered_report {id : GoString} {stats : NodeStore.SpoolStats} (held : Registered db) :
    Registered ((NodeStore.updateSpoolStats db id stats).toOption.getD db) := by
  unfold NodeStore.updateSpoolStats DB.updateSpool
  simp only
  split
  · exact held
  · apply registered_of_get held
    intro other node found
    left
    -- The statement touches none of the registry columns.
    rw [NodeStore.get_toOption] at found ⊢
    simp only [Except.toOption, Option.getD_some, Keyed.Table.find?_modify] at found
    split at found
    · rename_i same
      subst other
      rw [Option.map_map] at found
      exact found
    · exact found

private theorem registered_apply (held : Registered db) (op : RegistryOp) : Registered (op.apply sha256 db) := by
  cases op with
  | restCreate minted body => exact storeWrite_create.registered held
  | restPatch id body => exact storeWrite_patch.registered held
  | restDelete id => exact storeWrite_restDelete.registered held
  | uiCreate minted form => exact storeWrite_fragCreate.registered held
  | uiSetDisabled disable id => exact storeWrite_patchDisabled.registered held
  | uiDelete id => exact storeWrite_fragDelete.registered held
  | ingest row => exact registered_ingest held
  | report id stats => exact registered_report held

/-- Over every run of handlers, only nodes that pass the field checks are stored. -/
theorem HandlerReachable.registered (reachable : HandlerReachable sha256 db) : Registered db := by
  obtain ⟨ops, same⟩ := reachable
  subst same
  have run : ∀ start, Registered start → Registered (ops.foldl (RegistryOp.apply sha256) start) := by
    induction ops with
    | nil => exact fun _ held => held
    | cons op rest ih => exact fun start held => ih _ (registered_apply held op)
  exact run DB.migrated registered_migrated

/-- A registry operation that both sides offer. -/
inductive SharedOp where
  | create (form : CreateForm)
  | setDisabled (disable : Bool) (id : GoString)
  | delete (id : GoString)
deriving DecidableEq, Repr

/-- Form fields without surrounding white space. -/
def SharedOp.Trimmed : SharedOp → Prop
  | .create form => trimSpace form.id = form.id ∧ trimSpace form.role = form.role ∧
      trimSpace form.address = form.address ∧ trimSpace form.secret = form.secret
  | .setDisabled _ _ => True
  | .delete _ => True

instance : (op : SharedOp) → Decidable op.Trimmed
  | .create _ => inferInstanceAs (Decidable (_ ∧ _ ∧ _ ∧ _))
  | .setDisabled _ _ => .isTrue trivial
  | .delete _ => .isTrue trivial

variable (sha256) in
def throughUI (minted : GoString) (op : SharedOp) (db : DB) : DB × Response :=
  match op with
  | .create form => handleFragCreateNode sha256 (some minted) form db
  | .setDisabled true id => handleFragDisableNode id db
  | .setDisabled false id => handleFragEnableNode id db
  | .delete id => handleFragDeleteNode id db

variable (sha256) in
def throughREST (minted : GoString) (op : SharedOp) (db : DB) : DB × Response :=
  match op with
  | .create form => handleAdminCreateNode sha256 (some minted)
      (.ok { id := form.id, role := form.role, address := form.address, secret := form.secret }) db
  | .setDisabled disable id => handleAdminPatchNode sha256 id (.ok { disabled := some disable }) db
  | .delete id => handleAdminDeleteNode id db

/-- Both sides succeed or both reject, and both leave the same registry. -/
def Agree (ui rest : DB × Response) : Prop :=
  ui.2.succeeded = rest.2.succeeded ∧ ui.1.nodes = rest.1.nodes ∧
    ui.1.targetsVersion = rest.1.targetsVersion

/-- A well-formed create for an id that is already registered. -/
def SharedOp.Overwrites (op : SharedOp) (db : DB) : Prop :=
  match op with
  | .create form => validateAdminNodeFields form.id form.role form.address = none ∧
      ∃ node, NodeStore.get db form.id = .ok node
  | .setDisabled _ _ => False
  | .delete _ => False

private theorem create_agree_iff {minted : GoString} {form : CreateForm}
    (trimmed : (SharedOp.create form).Trimmed) :
    Agree (throughUI sha256 minted (.create form) db) (throughREST sha256 minted (.create form) db) ↔
      ¬ (SharedOp.create form).Overwrites db := by
  obtain ⟨idTrimmed, roleTrimmed, addressTrimmed, secretTrimmed⟩ := trimmed
  have chosen : ∃ secret, chooseSecret form.secret (some minted) = some secret := by
    unfold chooseSecret
    split
    · exact ⟨minted, rfl⟩
    · exact ⟨form.secret, rfl⟩
  obtain ⟨secret, chosen⟩ := chosen
  simp only [throughUI, throughREST, handleFragCreateNode, handleAdminCreateNode, idTrimmed,
    roleTrimmed, addressTrimmed, secretTrimmed, SharedOp.Overwrites]
  cases valid : validateAdminNodeFields form.id form.role form.address with
  | some text => simp [Agree]
  | none =>
    obtain ⟨after, done⟩ := @upsert_valid db
      (createdNode sha256 ⟨form.id, form.role, form.address, false, form.secret⟩ secret) valid
    have written : NodeStore.upsert db
        ⟨form.id, form.role, hashSecret sha256 secret, form.address, false⟩ = .ok after := done
    cases found : NodeStore.get db form.id with
    | ok node =>
      -- Only the REST side looks: it refuses what the UI carries out.
      simp [Agree, chosen, written, Response.succeeded]
    | error error =>
      have unknown := NodeStore.get_error_unknown found
      subst unknown
      simp [Agree, chosen, done, written, Response.succeeded]

private theorem setDisabled_agree {minted : GoString} {disable : Bool} {id : GoString}
    (registered : Registered db) :
    Agree (throughUI sha256 minted (.setDisabled disable id) db)
      (throughREST sha256 minted (.setDisabled disable id) db) := by
  have ui : throughUI sha256 minted (.setDisabled disable id) db = patchDisabled disable id db := by
    cases disable <;> rfl
  rw [ui]
  simp only [throughREST, patchDisabled, handleAdminPatchNode]
  cases found : NodeStore.get db id with
  | error error =>
    have unknown := NodeStore.get_error_unknown found
    subst unknown
    by_cases empty : id = [] <;> simp [empty, Agree, Response.succeeded, notFound, unknownNode]
  | ok node =>
    have valid := registered id node found
    have named : id ≠ [] := NodeStore.get_id found ▸ (validateAdminNodeFields_ok_iff.mp valid).1
    have same : applyPatch sha256 node { disabled := some disable } = { node with disabled := disable } := rfl
    have checked : validateAdminNodeFields ({ node with disabled := disable } : Node).id
        ({ node with disabled := disable } : Node).role
        ({ node with disabled := disable } : Node).address = none := valid
    obtain ⟨after, done⟩ := @upsert_valid db { node with disabled := disable } checked
    simp only [if_neg named, same, checked, done]
    exact ⟨rfl, rfl, rfl⟩

private theorem delete_agree {minted : GoString} {id : GoString} (registered : Registered db) :
    Agree (throughUI sha256 minted (.delete id) db) (throughREST sha256 minted (.delete id) db) := by
  simp only [throughUI, throughREST, handleFragDeleteNode, handleAdminDeleteNode]
  cases done : NodeStore.delete db id with
  | error error =>
    by_cases empty : id = []
    · simp [empty, Agree, Response.succeeded, notFound]
    · cases error <;> simp [empty, Agree, Response.succeeded, notFound, unknownNode, internalError]
  | ok after =>
    have named : id ≠ [] := by
      obtain ⟨node, _, _, found, _⟩ := NodeStore.delete_ok done
      have valid := registered id node found
      exact NodeStore.get_id found ▸ (validateAdminNodeFields_ok_iff.mp valid).1
    simp [named, Agree, Response.succeeded]

/-- On every reachable registry the two sides agree on an operation exactly when it is
not a create over an existing id. -/
theorem ui_rest_agree_iff (reachable : HandlerReachable sha256 db) (minted : GoString) (op : SharedOp)
    (trimmed : op.Trimmed) :
    Agree (throughUI sha256 minted op db) (throughREST sha256 minted op db) ↔ ¬ op.Overwrites db := by
  have registered := reachable.registered
  cases op with
  | create form => exact create_agree_iff trimmed
  | setDisabled disable id =>
    exact ⟨fun _ overwrites => overwrites, fun _ => setDisabled_agree registered⟩
  | delete id =>
    exact ⟨fun _ overwrites => overwrites, fun _ => delete_agree registered⟩

/-- The create dialog filled in for a spoke with the operator's secret. -/
def spokeForm : CreateForm := ⟨lit "spoke-1", roleSpoke, [], lit "abc"⟩

/-- The registry after that node was created once over REST. -/
def spokeRegistry (sha256 : GoString → GoString) : DB :=
  (handleAdminCreateNode sha256 none
    (.ok { id := lit "spoke-1", role := roleSpoke, secret := lit "abc" }) DB.migrated).1

/-- Filling in the dialog for the registered node: the UI carries it out and the REST
API answers with a conflict, whatever the hash function. -/
theorem ui_create_over_existing :
    (SharedOp.create spokeForm).Trimmed ∧ ∀ sha256 : GoString → GoString,
      HandlerReachable sha256 (spokeRegistry sha256) ∧
      (throughUI sha256 (lit "minted") (.create spokeForm) (spokeRegistry sha256)).2.succeeded = true ∧
      (throughREST sha256 (lit "minted") (.create spokeForm) (spokeRegistry sha256)).2 =
        ⟨409, .error (lit "node already exists")⟩ ∧
      ¬ Agree (throughUI sha256 (lit "minted") (.create spokeForm) (spokeRegistry sha256))
        (throughREST sha256 (lit "minted") (.create spokeForm) (spokeRegistry sha256)) := by
  refine ⟨by decide, fun sha256 => ⟨⟨[.restCreate none (.ok _)], rfl⟩, rfl, rfl, fun agree => ?_⟩⟩
  have mismatch : true = false := agree.1
  cases mismatch

theorem ui_rest_agree_on_new_spoke :
    Agree (throughUI digestOfAbc (lit "minted") (.create spokeForm) DB.migrated)
      (throughREST digestOfAbc (lit "minted") (.create spokeForm) DB.migrated) :=
  (ui_rest_agree_iff ⟨[], rfl⟩ (lit "minted") (.create spokeForm) (by decide)).mpr
    (fun ⟨_, _, found⟩ => by cases found)

end Parity

end NetLatencyMonitor.Controller
