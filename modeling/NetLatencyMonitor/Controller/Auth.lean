import NetLatencyMonitor.Controller.Nodes
import NetLatencyMonitor.Http.Request
import NetLatencyMonitor.Text.Encoding

/-! Authentication of requests: node bearer secrets and the admin token. -/

namespace NetLatencyMonitor.Controller

open Text Http

/-- `parseBearer`; `none` is its error. -/
def parseBearer (header : GoString) : Option GoString :=
  let marker := lit "Bearer "
  if header.length ≤ marker.length || !equalFold (header.take marker.length) marker then none
  else some (trimSpace (header.drop marker.length))

/-- `constantTimeStringEq`: lengths first, then the OR of all byte differences. -/
def constantTimeStringEq (a b : GoString) : Bool :=
  if a.length ≠ b.length then false
  else (a.zip b).foldl (fun v pair => v ||| (pair.1 ^^^ pair.2)) (0 : UInt8) == 0

private theorem differences_fold (pairs : List (UInt8 × UInt8)) (v : UInt8) :
    pairs.foldl (fun v pair => v ||| (pair.1 ^^^ pair.2)) v = 0 ↔
      v = 0 ∧ ∀ pair ∈ pairs, pair.1 = pair.2 := by
  induction pairs generalizing v with
  | nil => simp
  | cons pair rest ih =>
    simp only [List.foldl_cons, ih, UInt8.or_eq_zero_iff, UInt8.xor_eq_zero_iff, List.mem_cons,
      forall_eq_or_imp]
    exact and_assoc

theorem constantTimeStringEq_iff {a b : GoString} : constantTimeStringEq a b = true ↔ a = b := by
  unfold constantTimeStringEq
  split
  · rename_i different
    simp only [Bool.false_eq_true, false_iff]
    intro same
    exact different (congrArg List.length same)
  · rename_i same
    rw [beq_iff_eq, differences_fold]
    constructor
    · intro ⟨_, equal⟩
      apply List.ext_getElem (not_not.mp same)
      intro index left right
      exact equal (a[index], b[index]) (List.mem_iff_getElem.mpr ⟨index, by simp [left, right], by simp⟩)
    · intro equal
      subst b
      refine ⟨rfl, fun pair member => ?_⟩
      obtain ⟨index, bound, same⟩ := List.mem_iff_getElem.mp member
      simp at same
      simp [← same]

section Secrets

-- SHA-256 stands for any function from byte strings to byte strings.
variable (sha256 : GoString → GoString)

def hashSecret (secret : GoString) : GoString := hexEncode (sha256 secret)

/-- `VerifySecret`: decode the stored hash and compare digests. -/
def verifySecret (node : Node) (presented : GoString) : Bool :=
  match hexDecode node.secretHash with
  | none => false
  | some want => decide (want = sha256 presented)

/-- A refusal written by a middleware: status and error text. -/
structure Refusal where
  status : Nat
  text : GoString
deriving DecidableEq, Repr

def unauthorized : Refusal := ⟨401, lit "unauthorized"⟩

/-- `bearerAuth`: the node a request authenticates as, or the refusal it gets. -/
def bearerAuth (db : DB) (request : Request) : Except Refusal Node :=
  let nodeID := request.header.get (lit "X-Nlm-Node-Id")
  match parseBearer (request.header.get (lit "Authorization")) with
  | none => .error unauthorized
  | some token =>
    if nodeID = [] then .error unauthorized
    else match NodeStore.get db nodeID with
      | .error .unknownNode => .error unauthorized
      | .error _ => .error ⟨500, lit "internal error"⟩
      | .ok node => if verifySecret sha256 node token then .ok node else .error unauthorized

variable {sha256}

/-- Who passes: a request with a token, for a registered node whose secret the token is. -/
theorem bearerAuth_ok_iff {db : DB} {request : Request} {node : Node} :
    bearerAuth sha256 db request = .ok node ↔
      request.header.get (lit "X-Nlm-Node-Id") ≠ [] ∧
        NodeStore.get db (request.header.get (lit "X-Nlm-Node-Id")) = .ok node ∧
        ∃ token, parseBearer (request.header.get (lit "Authorization")) = some token ∧
          verifySecret sha256 node token = true := by
  unfold bearerAuth
  cases parsed : parseBearer (request.header.get (lit "Authorization")) with
  | none => simp
  | some token =>
    by_cases empty : request.header.get (lit "X-Nlm-Node-Id") = []
    · simp [empty]
    · cases found : NodeStore.get db (request.header.get (lit "X-Nlm-Node-Id")) with
      | error error => cases error <;> simp [empty, found]
      | ok registered =>
        by_cases verified : verifySecret sha256 registered token = true
        · simp only [found, empty, verified, if_true, if_false, ne_eq, not_false_eq_true, true_and,
            Except.ok.injEq, Option.some.injEq]
          exact ⟨fun same => ⟨same, token, rfl, same ▸ verified⟩, fun passed => passed.1⟩
        · simp only [found, empty, verified, if_false, ne_eq, not_false_eq_true, true_and, Except.ok.injEq,
            Option.some.injEq, Bool.false_eq_true, reduceCtorEq, false_iff, not_and, not_exists]
          rintro rfl presented rfl
          exact verified

/-- Whoever passes is the node whose id the header carries, and that is no empty id. -/
theorem bearerAuth_id {db : DB} {request : Request} {node : Node}
    (passed : bearerAuth sha256 db request = .ok node) :
    node.id = request.header.get (lit "X-Nlm-Node-Id") ∧ node.id ≠ [] := by
  obtain ⟨named, found, _⟩ := bearerAuth_ok_iff.mp passed
  have same := NodeStore.get_id found
  exact ⟨same, same ▸ named⟩

theorem verifySecret_iff {node : Node} {secret : GoString}
    (stored : node.secretHash = hashSecret sha256 secret) (presented : GoString) :
    verifySecret sha256 node presented = true ↔ sha256 presented = sha256 secret := by
  simp only [verifySecret, stored, hashSecret, hexDecode_hexEncode, decide_eq_true_eq]
  exact eq_comm

end Secrets

/-- SHA-256 at the secret of the examples. -/
def digestOfAbc (text : GoString) : GoString :=
  if text = lit "abc" then
    [0xba, 0x78, 0x16, 0xbf, 0x8f, 0x01, 0xcf, 0xea, 0x41, 0x41, 0x40, 0xde, 0x5d, 0xae, 0x22, 0x23,
     0xb0, 0x03, 0x61, 0xa3, 0x96, 0x17, 0x7a, 0x9c, 0xb4, 0x10, 0xff, 0x61, 0xf2, 0x00, 0x15, 0xad]
  else []

end NetLatencyMonitor.Controller
