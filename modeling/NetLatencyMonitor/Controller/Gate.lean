import NetLatencyMonitor.Controller.Auth

/-! The route table of `Server.Handler` and the gates in front of its handlers. -/

namespace NetLatencyMonitor.Controller

open Text Http

/-- What stands between the mux and a handler. -/
inductive Gate where
  | free
  | bearerAuth
  | adminAuth
  | requireSession
  | uiSocket
deriving DecidableEq, Repr

inductive HandlerName where
  | healthz
  | readyz
  | results
  | targets
  | wsTicket
  | ws
  | adminListNodes
  | adminCreateNode
  | adminPatchNode
  | adminDeleteNode
  | metrics
  | uiLogin
  | uiLogout
  | uiDashboard
  | uiNodes
  | fragMatrix
  | fragNewNodeForm
  | fragCreateNode
  | fragDeleteNode
  | fragDisableNode
  | fragEnableNode
  | uiWS
  | static
deriving DecidableEq, Repr

/-- One segment of a `ServeMux` pattern. -/
inductive Segment where
  | literal (text : GoString)
  | wildcard
deriving DecidableEq, Repr

/-- A mounted pattern; `subtree` is a trailing slash. -/
structure Route where
  method : GoString
  segments : List Segment
  subtree : Bool := false
  gate : Gate
  handler : HandlerName
deriving DecidableEq, Repr

def methodGet : GoString := lit "GET"
def methodPost : GoString := lit "POST"
def methodPatch : GoString := lit "PATCH"
def methodDelete : GoString := lit "DELETE"

def segment (text : String) : Segment := .literal (lit text)

/-- `/api/v1/..` -/
def apiV1 (rest : List Segment) : List Segment := segment "api" :: segment "v1" :: rest

/-- `/ui/frag/nodes..` -/
def fragNodes (rest : List Segment) : List Segment :=
  segment "ui" :: segment "frag" :: segment "nodes" :: rest

/-- The patterns of `Server.Handler`, in the order in which it mounts them. -/
def routes (metricsEnabled : Bool) : List Route :=
  [⟨methodGet, [segment "healthz"], false, .free, .healthz⟩,
   ⟨methodGet, [segment "readyz"], false, .free, .readyz⟩,
   ⟨methodPost, apiV1 [segment "results"], false, .bearerAuth, .results⟩,
   ⟨methodGet, apiV1 [segment "targets"], false, .bearerAuth, .targets⟩,
   ⟨methodPost, apiV1 [segment "ws-ticket"], false, .bearerAuth, .wsTicket⟩,
   ⟨methodGet, apiV1 [segment "ws"], false, .free, .ws⟩,
   ⟨methodGet, apiV1 [segment "admin", segment "nodes"], false, .adminAuth, .adminListNodes⟩,
   ⟨methodPost, apiV1 [segment "admin", segment "nodes"], false, .adminAuth, .adminCreateNode⟩,
   ⟨methodPatch, apiV1 [segment "admin", segment "nodes", .wildcard], false, .adminAuth, .adminPatchNode⟩,
   ⟨methodDelete, apiV1 [segment "admin", segment "nodes", .wildcard], false, .adminAuth, .adminDeleteNode⟩] ++
  (if metricsEnabled then [⟨methodGet, [segment "metrics"], false, .free, .metrics⟩] else []) ++
  [⟨methodGet, [segment "ui", segment "login"], false, .free, .uiLogin⟩,
   ⟨methodPost, [segment "ui", segment "login"], false, .free, .uiLogin⟩,
   ⟨methodPost, [segment "ui", segment "logout"], false, .free, .uiLogout⟩,
   ⟨methodGet, [segment "ui"], true, .requireSession, .uiDashboard⟩,
   ⟨methodGet, [segment "ui", segment "nodes"], false, .requireSession, .uiNodes⟩,
   ⟨methodGet, [segment "ui", segment "frag", segment "matrix"], false, .requireSession, .fragMatrix⟩,
   ⟨methodGet, fragNodes [segment "new"], false, .requireSession, .fragNewNodeForm⟩,
   ⟨methodPost, fragNodes [], false, .requireSession, .fragCreateNode⟩,
   ⟨methodDelete, fragNodes [.wildcard], false, .requireSession, .fragDeleteNode⟩,
   ⟨methodPatch, fragNodes [.wildcard, segment "disable"], false, .requireSession, .fragDisableNode⟩,
   ⟨methodPatch, fragNodes [.wildcard, segment "enable"], false, .requireSession, .fragEnableNode⟩,
   ⟨methodGet, apiV1 [segment "ui", segment "ws"], false, .uiSocket, .uiWS⟩,
   ⟨methodGet, [segment "static"], true, .free, .static⟩]

/-- A path that ends in a slash has an empty last segment; no wildcard matches it. -/
def matchSegments : List Segment → List GoString → Bool → Bool
  | [], [], subtree => !subtree
  | [], _ :: _, subtree => subtree
  | _ :: _, [], _ => false
  | .literal text :: pattern, part :: path, subtree => decide (text = part) && matchSegments pattern path subtree
  | .wildcard :: pattern, part :: path, subtree => decide (part ≠ []) && matchSegments pattern path subtree

/-- A GET pattern also serves HEAD. -/
def Route.matches (route : Route) (request : Request) : Bool :=
  (decide (route.method = request.method) ||
    (decide (route.method = methodGet) && decide (request.method = lit "HEAD"))) &&
    matchSegments route.segments request.path route.subtree

/-- The mux prefers the more specific pattern: a full match over a subtree. -/
def dispatch (metricsEnabled : Bool) (request : Request) : Option Route :=
  ((routes metricsEnabled).find? (fun route => !route.subtree && route.matches request)).or
    ((routes metricsEnabled).find? (fun route => route.matches request))

/-- What became of a request: refused by a gate, or passed on to its handler. -/
inductive Served where
  | refused (status : Nat) (text : GoString)
  | handled (handler : HandlerName)
deriving DecidableEq, Repr

def sessionCookie : GoString := lit "nlm_session"

def adminAuth (adminToken : GoString) (request : Request) (next : HandlerName) : Served :=
  if adminToken = [] then .refused 503 (lit "admin api disabled (NLM_ADMIN_TOKEN not set)")
  else
    match parseBearer (request.header.get (lit "Authorization")) with
    | none => .refused 401 (lit "missing bearer")
    | some got =>
      if !constantTimeStringEq got adminToken then .refused 401 (lit "bad admin token")
      else .handled next

/-- Redirects to the login page without the right cookie. -/
def requireSession (adminToken : GoString) (request : Request) (next : HandlerName) : Served :=
  match request.cookie sessionCookie with
  | none => .refused 303 (lit "/ui/login")
  | some value =>
    if !constantTimeStringEq value adminToken then .refused 303 (lit "/ui/login") else .handled next

/-- The check at the top of `handleUIWS`; past it the connection is upgraded. -/
def uiSocket (adminToken : GoString) (request : Request) (next : HandlerName) : Served :=
  match request.cookie sessionCookie with
  | none => .refused 401 (lit "unauthorized")
  | some value =>
    if !constantTimeStringEq value adminToken then .refused 401 (lit "unauthorized") else .handled next

/-- One request through the mux and the gate of its route. -/
def serve (sha256 : GoString → GoString) (db : DB) (metricsEnabled : Bool) (adminToken : GoString)
    (request : Request) : Served :=
  match dispatch metricsEnabled request with
  -- The mux answers by itself: not found, method not allowed, or a redirect to the slashed path.
  | none => .refused 404 (lit "404 page not found")
  | some route =>
    match route.gate with
    | .free => .handled route.handler
    | .bearerAuth =>
      match bearerAuth sha256 db request with
      | .error refusal => .refused refusal.status refusal.text
      | .ok _ => .handled route.handler
    | .adminAuth => adminAuth adminToken request route.handler
    | .requireSession => requireSession adminToken request route.handler
    | .uiSocket => uiSocket adminToken request route.handler

/-- The gates that stand for the operator. -/
def Gate.isOperator : Gate → Bool
  | .adminAuth | .requireSession | .uiSocket => true
  | .free | .bearerAuth => false

/-- The credential a gate looks at: the trimmed bearer token or the session cookie. -/
def presented (gate : Gate) (request : Request) : Option GoString :=
  match gate with
  | .adminAuth => parseBearer (request.header.get (lit "Authorization"))
  | _ => request.cookie sessionCookie

/-- The request shape the cookie gates let through when no token is configured. -/
def EmptySession (gate : Gate) (adminToken : GoString) (request : Request) : Prop :=
  gate ≠ .adminAuth ∧ adminToken = [] ∧ request.cookie sessionCookie = some []

private theorem adminAuth_handled_iff {adminToken : GoString} {request : Request} {next : HandlerName} :
    adminAuth adminToken request next = .handled next ↔
      adminToken ≠ [] ∧ presented .adminAuth request = some adminToken := by
  unfold adminAuth presented
  split
  · rename_i empty
    simp [empty]
  · rename_i filled
    cases parseBearer (request.header.get (lit "Authorization")) with
    | none => simp
    | some got =>
      by_cases same : got = adminToken
      · subst got
        simp [constantTimeStringEq_iff.mpr rfl, filled]
      · have different : constantTimeStringEq got adminToken = false :=
          Bool.eq_false_iff.mpr (mt constantTimeStringEq_iff.mp same)
        simp [different, same]

/-- The comparison both cookie gates make; it never asks whether a token is set. -/
theorem cookieGate_handled_iff {adminToken : GoString} {request : Request} {next : HandlerName} :
    (requireSession adminToken request next = .handled next ↔
      request.cookie sessionCookie = some adminToken) ∧
    (uiSocket adminToken request next = .handled next ↔
      request.cookie sessionCookie = some adminToken) := by
  unfold requireSession uiSocket
  cases request.cookie sessionCookie with
  | none => simp
  | some value =>
    by_cases same : value = adminToken
    · subst value
      simp [constantTimeStringEq_iff.mpr rfl]
    · have different : constantTimeStringEq value adminToken = false :=
        Bool.eq_false_iff.mpr (mt constantTimeStringEq_iff.mp same)
      simp [different, same]

/-- When a request that was routed to an operator's handler reaches it. -/
theorem serve_operator_iff {sha256 : GoString → GoString} {db : DB} {metricsEnabled : Bool}
    {adminToken : GoString} {request : Request} {route : Route}
    (routed : dispatch metricsEnabled request = some route) (operator : route.gate.isOperator = true) :
    serve sha256 db metricsEnabled adminToken request = .handled route.handler ↔
      presented route.gate request = some adminToken ∧ (route.gate = .adminAuth → adminToken ≠ []) := by
  unfold serve
  simp only [routed]
  cases gate : route.gate with
  | free => simp [gate, Gate.isOperator] at operator
  | bearerAuth => simp [gate, Gate.isOperator] at operator
  | adminAuth =>
    rw [adminAuth_handled_iff]
    constructor
    · intro ⟨filled, shown⟩
      exact ⟨shown, fun _ => filled⟩
    · intro ⟨shown, filled⟩
      exact ⟨filled rfl, shown⟩
  | requireSession => simp [cookieGate_handled_iff.1, presented]
  | uiSocket => simp [cookieGate_handled_iff.2, presented]

/-- An operator's handler runs only with a configured token that the request
presents, except for the empty session cookie of an unconfigured controller. -/
theorem operator_gate_sound_iff {sha256 : GoString → GoString} {db : DB} {metricsEnabled : Bool}
    {adminToken : GoString} {request : Request} {route : Route}
    (routed : dispatch metricsEnabled request = some route) (operator : route.gate.isOperator = true) :
    (serve sha256 db metricsEnabled adminToken request = .handled route.handler →
      adminToken ≠ [] ∧ presented route.gate request = some adminToken) ↔
        ¬ EmptySession route.gate adminToken request := by
  rw [serve_operator_iff routed operator]
  constructor
  · intro sound hole
    obtain ⟨cookie, unset, empty⟩ := hole
    have shown : presented route.gate request = some adminToken := by
      unfold presented
      split
      · rename_i gate
        exact absurd gate cookie
      · rw [empty, unset]
    exact (sound ⟨shown, fun gate => absurd gate cookie⟩).1 unset
  · intro closed ⟨shown, admin⟩
    refine ⟨fun unset => ?_, shown⟩
    by_cases gate : route.gate = .adminAuth
    · exact admin gate unset
    · refine closed ⟨gate, unset, ?_⟩
      unfold presented at shown
      split at shown
      · rename_i same
        exact absurd same gate
      · rw [shown, unset]

/-- `GET /ui/nodes` with the header `Cookie: nlm_session=`. -/
def emptyCookieRequest : Request where
  method := methodGet
  path := [lit "ui", lit "nodes"]
  header := fun name => if name = lit "Cookie" then [lit "nlm_session="] else []

/-- Without an admin token, the empty cookie opens the node list. -/
theorem emptyCookie_opens_nodes :
    ¬ ∀ (adminToken : GoString) (request : Request) (route : Route),
      dispatch true request = some route → route.gate.isOperator = true →
      serve digestOfAbc DB.migrated true adminToken request = .handled route.handler →
      adminToken ≠ [] ∧ presented route.gate request = some adminToken := by
  intro sound
  have opened := sound [] emptyCookieRequest
    ⟨methodGet, [segment "ui", segment "nodes"], false, .requireSession, .uiNodes⟩
    (by decide) (by decide) (by decide)
  exact opened.1 rfl

/-- `DELETE /ui/frag/nodes/hub-1` with the cookie of a configured token. -/
def tokenCookieRequest : Request where
  method := methodDelete
  path := [lit "ui", lit "frag", lit "nodes", lit "hub-1"]
  header := fun name => if name = lit "Cookie" then [lit "theme=dark; nlm_session=tok"] else []

theorem tokenCookie_gate_sound :
    (serve digestOfAbc DB.migrated true (lit "tok") tokenCookieRequest = .handled .fragDeleteNode →
      lit "tok" ≠ [] ∧ presented .requireSession tokenCookieRequest = some (lit "tok")) ↔
        ¬ EmptySession .requireSession (lit "tok") tokenCookieRequest :=
  @operator_gate_sound_iff _ _ _ _ _
    ⟨methodDelete, fragNodes [.wildcard], false, .requireSession, .fragDeleteNode⟩ (by decide) (by decide)

end NetLatencyMonitor.Controller
