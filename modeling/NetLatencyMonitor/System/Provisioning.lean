import NetLatencyMonitor.Agent.Client
import NetLatencyMonitor.Agent.Config
import NetLatencyMonitor.Controller.Admin
import NetLatencyMonitor.Text.Trim

/-! From the secret an operator is told to the request a node makes with it: the create
and patch handlers store its hash, the agent loads and sends it, `bearerAuth` checks it. -/

namespace NetLatencyMonitor.System

open Text Http Controller Agent

section Bearer

/-! The secret on the wire. -/

private theorem isSpaceByte_of_isASCIISpace {byte : UInt8} (space : isASCIISpace byte = true) :
    isSpaceByte byte = true := by
  simp only [isASCIISpace, Bool.or_eq_true, beq_iff_eq] at space
  rcases space with ((rfl | rfl) | rfl) | rfl <;> rfl

/-- The last byte of a trimmed text is no white space. -/
theorem rdropWhile_trimmed {text : GoString} (trimmed : Trimmed text) (filled : text ≠ []) (front : GoString) :
    (front ++ text).rdropWhile isASCIISpace = front ++ text := by
  rw [List.rdropWhile_eq_self_iff]
  intro _ space
  rw [List.getLast_append_of_ne_nil _ filled] at space
  refine trimmed.2 [text.getLast filled] text.dropLast.reverse (.byte (isSpaceByte_of_isASCIISpace space)) ?_
  conv_lhs => rw [← List.dropLast_append_getLast filled, List.reverse_append]
  rfl

/-- A trimmed secret arrives as it was sent. -/
theorem parseBearer_sent {secret : GoString} (trimmed : Trimmed secret) (filled : secret ≠ []) :
    parseBearer (trimString (lit "Bearer " ++ secret)) = some secret := by
  have kept : trimString (lit "Bearer " ++ secret) = lit "Bearer " ++ secret :=
    rdropWhile_trimmed trimmed filled (lit "Bearer ")
  have long : ¬ (lit "Bearer " ++ secret).length ≤ (lit "Bearer ").length := by
    rw [List.length_append]
    have := List.length_pos_iff.mpr filled
    omega
  have front : (lit "Bearer " ++ secret).take (lit "Bearer ").length = lit "Bearer " := List.take_left
  have back : (lit "Bearer " ++ secret).drop (lit "Bearer ").length = secret := List.drop_left
  have folded : equalFold (lit "Bearer ") (lit "Bearer ") = true := by decide
  simp only [parseBearer, kept, front, back, folded, long, decide_false, Bool.not_true, Bool.or_self,
    Bool.false_eq_true, if_false, trimSpace_eq_self_iff.mpr trimmed]

private theorem parseBearer_empty : parseBearer (trimString (lit "Bearer " ++ [])) = none := by decide

end Bearer

section Provisioning

variable (sha256 : GoString → GoString)

/-- The ways an operator gives a node a secret: `secret` is what a create reports back, or
what a patch was asked to set, and the last argument the database it leaves. -/
inductive Provisioned (id secret : GoString) : DB → Prop
  | restCreate {minted : Option GoString} {body : Except GoString AdminCreateRequest} {db : DB} {node : AdminNode}
      (reported : (handleAdminCreateNode sha256 minted body db).2 = ⟨201, .created node secret⟩)
      (named : node.id = id) : Provisioned id secret (handleAdminCreateNode sha256 minted body db).1
  | uiCreate {minted : Option GoString} {form : CreateForm} {db : DB} {nodes : List AdminNode}
      (reported : (handleFragCreateNode sha256 minted form db).2 = ⟨200, .nodesPage nodes secret⟩)
      (named : trimSpace form.id = id) : Provisioned id secret (handleFragCreateNode sha256 minted form db).1
  | restPatch {request : AdminPatchRequest} {db : DB} (set : request.secret = some secret) (filled : secret ≠ [])
      (succeeded : (handleAdminPatchNode sha256 id (.ok request) db).2.succeeded = true) :
      Provisioned id secret (handleAdminPatchNode sha256 id (.ok request) db).1

/-- How an agent is given a secret: in the variable, or in the file when the variable is
not set. -/
inductive Given (env : Env) (readFile : GoString → Except GoString GoString) (secret : GoString) : Prop
  | inVariable (set : env (lit "NLM_NODE_SECRET") = some secret) (filled : secret ≠ [])
  | inFile (unset : (env (lit "NLM_NODE_SECRET")).getD [] = [])
      (read : readFile (getString env (lit "NLM_NODE_SECRET_PATH") (lit "/var/lib/nlm/node.secret")) = .ok secret)

/-- The agent loads its secret, sends a request under the node's id, and is let through
as that node. -/
def LetThrough (db : DB) (env : Env) (readFile : GoString → Except GoString GoString) (id : GoString) : Prop :=
  ∃ loaded request node, loadAgentSecret env readFile = .ok loaded ∧ resultsRequest id loaded = some request ∧
    bearerAuth sha256 db request = .ok node ∧ node.id = id

/-- A secret and an id that survive the way from the environment through the headers. -/
structure Presentable (id secret : GoString) : Prop where
  filled : trimSpace secret ≠ []
  sendable : validHeaderFieldValue (trimSpace secret) = true
  idSendable : validHeaderFieldValue id = true
  idTrimmed : trimString id = id

variable {sha256}

/-- However it was provisioned, the node is stored with the hash of the secret as it
stands. -/
theorem Provisioned.stored {id secret : GoString} {after : DB} (provisioned : Provisioned sha256 id secret after) :
    id ≠ [] ∧ ∃ node, NodeStore.get after id = .ok node ∧ node.secretHash = hashSecret sha256 secret := by
  cases provisioned with
  | restCreate reported named =>
    obtain ⟨request, same, valid, done⟩ := handleAdminCreateNode_created reported
    subst same
    subst named
    exact ⟨(validateAdminNodeFields_ok_iff.mp valid).1, _, get_upsert_own done, rfl⟩
  | uiCreate reported named =>
    obtain ⟨filled, done⟩ := handleFragCreateNode_reported reported
    subst named
    exact ⟨filled, _, get_upsert_own done, rfl⟩
  | @restPatch request db set filled succeeded =>
    obtain ⟨named, current, found, done⟩ := handleAdminPatchNode_succeeded succeeded
    have kept : current.id = id := NodeStore.get_id found
    have same : (applyPatch sha256 current request).id = id := kept
    have own := get_upsert_own done
    rw [same] at own
    refine ⟨named, applyPatch sha256 current request, own, ?_⟩
    simp only [applyPatch, set, ne_eq, filled, not_false_eq_true, if_true]

/-- What the agent makes of a secret it was given. -/
theorem Given.loaded {env : Env} {readFile : GoString → Except GoString GoString} {secret : GoString}
    (given : Given env readFile secret) :
    (∀ loaded, loadAgentSecret env readFile = .ok loaded → loaded = trimSpace secret) ∧
      (trimSpace secret ≠ [] → loadAgentSecret env readFile = .ok (trimSpace secret)) := by
  unfold loadAgentSecret
  cases given with
  | inVariable set filled =>
    simp only [set, Option.getD_some, ne_eq, filled, not_false_eq_true, if_true, Except.ok.injEq]
    exact ⟨fun loaded same => same.symm, fun _ => trivial⟩
  | inFile unset read =>
    simp only [unset, ne_eq, not_true_eq_false, if_false, read]
    by_cases empty : trimSpace secret = []
    · rw [if_pos empty]
      exact ⟨fun loaded impossible => (nomatch impossible), fun filled => absurd empty filled⟩
    · rw [if_neg empty]
      exact ⟨fun loaded same => (Except.ok.inj same).symm, fun _ => rfl⟩

/-- A request with a trimmed secret is let through as the node exactly when the id and the
secret survive the headers and the digests agree. -/
theorem bearerAuth_resultsRequest_iff {db : DB} {id secret presented : GoString} {node : Node} (named : id ≠ [])
    (found : NodeStore.get db id = .ok node) (stored : node.secretHash = hashSecret sha256 secret)
    (trimmed : Trimmed presented) :
    (∃ request other, resultsRequest id presented = some request ∧ bearerAuth sha256 db request = .ok other ∧
        other.id = id) ↔
      presented ≠ [] ∧ validHeaderFieldValue presented = true ∧ validHeaderFieldValue id = true ∧
        trimString id = id ∧ sha256 presented = sha256 secret := by
  constructor
  · rintro ⟨request, other, sent, passed, same⟩
    obtain ⟨idSendable, sendable⟩ := resultsRequest_sent_iff.mp ⟨request, sent⟩
    obtain ⟨_, registered, token, parsed, verified⟩ := bearerAuth_ok_iff.mp passed
    have idTrimmed : trimString id = id := by
      rw [← resultsRequest_nodeID sent, ← NodeStore.get_id registered, same]
    rw [resultsRequest_nodeID sent, idTrimmed, found] at registered
    cases registered
    rw [resultsRequest_authorization sent] at parsed
    have filled : presented ≠ [] := by
      rintro rfl
      rw [parseBearer_empty] at parsed
      cases parsed
    rw [parseBearer_sent trimmed filled] at parsed
    cases parsed
    exact ⟨filled, sendable, idSendable, idTrimmed, (verifySecret_iff stored presented).mp verified⟩
  · rintro ⟨filled, sendable, idSendable, idTrimmed, digest⟩
    obtain ⟨request, sent⟩ := resultsRequest_sent_iff.mpr ⟨idSendable, sendable⟩
    have header : request.header.get (lit "X-Nlm-Node-Id") = id := (resultsRequest_nodeID sent).trans idTrimmed
    refine ⟨request, node, sent, bearerAuth_ok_iff.mpr ⟨?_, ?_, presented, ?_, ?_⟩, NodeStore.get_id found⟩
    · rw [header]
      exact named
    · rw [header]
      exact found
    · rw [resultsRequest_authorization sent]
      exact parseBearer_sent trimmed filled
    · exact (verifySecret_iff stored presented).mpr digest

private theorem letThrough_iff {db : DB} {id secret : GoString} {node : Node} (named : id ≠ [])
    (found : NodeStore.get db id = .ok node) (stored : node.secretHash = hashSecret sha256 secret) {env : Env}
    {readFile : GoString → Except GoString GoString} (given : Given env readFile secret) :
    LetThrough sha256 db env readFile id ↔
      Presentable id secret ∧ sha256 (trimSpace secret) = sha256 secret := by
  obtain ⟨onlyTrimmed, loads⟩ := given.loaded
  have passes := bearerAuth_resultsRequest_iff named found stored (trimSpace_trimmed secret)
  constructor
  · rintro ⟨loaded, request, other, load, sent, passed, same⟩
    rw [onlyTrimmed loaded load] at sent
    obtain ⟨filled, sendable, idSendable, idTrimmed, digest⟩ := passes.mp ⟨request, other, sent, passed, same⟩
    exact ⟨⟨filled, sendable, idSendable, idTrimmed⟩, digest⟩
  · rintro ⟨⟨filled, sendable, idSendable, idTrimmed⟩, digest⟩
    obtain ⟨request, other, sent, passed, same⟩ := passes.mpr ⟨filled, sendable, idSendable, idTrimmed, digest⟩
    exact ⟨trimSpace secret, request, other, loads filled, sent, passed, same⟩

/-- While the node's row stands as it was provisioned, its agent is let through exactly
when the id and the trimmed secret can stand in a header, the id is kept there as it is,
and trimming does not change the secret's digest. -/
theorem provisioned_letThrough_iff {id secret : GoString} {after later : DB}
    (provisioned : Provisioned sha256 id secret after) (unchanged : NodeStore.get later id = NodeStore.get after id)
    {env : Env} {readFile : GoString → Except GoString GoString} (given : Given env readFile secret) :
    LetThrough sha256 later env readFile id ↔
      Presentable id secret ∧ sha256 (trimSpace secret) = sha256 secret := by
  obtain ⟨named, node, found, stored⟩ := provisioned.stored
  exact letThrough_iff named (unchanged.trans found) stored given

/-- SHA-256 at the two secrets used here. -/
def digestOfPadded (text : GoString) : GoString :=
  if text = lit "abc" then
    [0xba, 0x78, 0x16, 0xbf, 0x8f, 0x01, 0xcf, 0xea, 0x41, 0x41, 0x40, 0xde, 0x5d, 0xae, 0x22, 0x23,
     0xb0, 0x03, 0x61, 0xa3, 0x96, 0x17, 0x7a, 0x9c, 0xb4, 0x10, 0xff, 0x61, 0xf2, 0x00, 0x15, 0xad]
  else if text = lit "abc " then
    [0x54, 0x88, 0x61, 0x3c, 0x42, 0xb0, 0xd3, 0x4d, 0x60, 0xf7, 0xaa, 0x9e, 0x94, 0xbe, 0x31, 0x7a,
     0x3e, 0xe1, 0x02, 0xa2, 0xbb, 0xd9, 0x1c, 0xcc, 0x73, 0xcc, 0x79, 0xfb, 0xc2, 0x26, 0x99, 0x55]
  else []

/-- The environment of an agent that is given a secret in the variable. -/
def secretEnv (secret : GoString) : Env := fun key => if key = lit "NLM_NODE_SECRET" then some secret else none

def noFile (_ : GoString) : Except GoString GoString := .error (lit "no such file")

/-- A spoke created over REST with the secret `secret`. -/
def spokeWithSecret (secret : GoString) : DB × Response :=
  handleAdminCreateNode digestOfPadded none
    (.ok { id := lit "spoke-1", role := roleSpoke, secret := secret }) DB.migrated

private theorem spokeWithSecret_provisioned (secret : GoString) (filled : secret ≠ []) :
    Provisioned digestOfPadded (lit "spoke-1") secret (spokeWithSecret secret).1 := by
  refine @Provisioned.restCreate _ _ _ _ _ _ ⟨lit "spoke-1", roleSpoke, [], false⟩ ?_ rfl
  have chosen : chooseSecret secret none = some secret := if_neg filled
  simp only [handleAdminCreateNode, chosen]
  rfl

/-- The secret `"abc "` is stored with its blank and presented without it. -/
theorem padded_secret_refused :
    (spokeWithSecret (lit "abc ")).2 =
        ⟨201, .created ⟨lit "spoke-1", roleSpoke, [], false⟩ (lit "abc ")⟩ ∧
      Provisioned digestOfPadded (lit "spoke-1") (lit "abc ") (spokeWithSecret (lit "abc ")).1 ∧
      Given (secretEnv (lit "abc ")) noFile (lit "abc ") ∧
      ¬ LetThrough digestOfPadded (spokeWithSecret (lit "abc ")).1 (secretEnv (lit "abc ")) noFile (lit "spoke-1") := by
  have provisioned := spokeWithSecret_provisioned (lit "abc ") (by decide)
  have given : Given (secretEnv (lit "abc ")) noFile (lit "abc ") := .inVariable (by decide) (by decide)
  obtain ⟨named, node, found, stored⟩ := provisioned.stored
  refine ⟨rfl, provisioned, given, fun through => ?_⟩
  have digest := ((letThrough_iff named found stored given).mp through).2
  exact absurd digest (by decide +kernel)

theorem clean_secret_letThrough :
    LetThrough digestOfPadded (spokeWithSecret (lit "abc")).1 (secretEnv (lit "abc")) noFile (lit "spoke-1") :=
  (provisioned_letThrough_iff (spokeWithSecret_provisioned (lit "abc") (by decide)) rfl
    (.inVariable (by decide) (by decide))).mpr
    ⟨⟨by decide +kernel, by decide +kernel, by decide +kernel, by decide +kernel⟩, by decide +kernel⟩

end Provisioning

end NetLatencyMonitor.System
