import NetLatencyMonitor.Controller.Gate
import NetLatencyMonitor.Http.Cookie

/-! The session of the web UI. The cookie is the admin token itself: set at login, presented by
the browser's requests, compared at every page and blanked at logout. -/

namespace NetLatencyMonitor.Controller

open Http Text

def isHTTPS (tls : Bool) (request : Request) : Bool :=
  tls || decide (request.header.get (lit "X-Forwarded-Proto") = lit "https")

inductive LoginReply where
  | page (error : GoString)
  | redirect (setCookie : GoString)
deriving DecidableEq, Repr

def loginCookie (token : GoString) (secure : Bool) : Cookie where
  name := sessionCookie
  value := token
  path := lit "/"
  httpOnly := true
  secure
  sameSiteStrict := true

def logoutCookie : Cookie where
  name := sessionCookie
  value := []
  path := lit "/"
  maxAge := -1

/-- `handleUILogin` with the form's field; only a GET is sure to show the form, so a HEAD
with the token in its query logs in as well. -/
def handleUILogin (adminToken : GoString) (tls : Bool) (request : Request) (formToken : GoString) : LoginReply :=
  if request.method = methodGet then .page []
  else
    let token := trimSpace formToken
    if decide (adminToken = []) || !constantTimeStringEq token adminToken then .page (lit "Invalid token.")
    else .redirect (loginCookie token (isHTTPS tls request)).string

/-- The `Set-Cookie` line of `handleUILogout`. -/
def handleUILogout : GoString := logoutCookie.string

/-- The login form is accepted. -/
def Accepted (adminToken : GoString) (request : Request) (formToken : GoString) : Prop :=
  request.method ≠ methodGet ∧ adminToken ≠ [] ∧ trimSpace formToken = adminToken

instance (adminToken : GoString) (request : Request) (formToken : GoString) :
    Decidable (Accepted adminToken request formToken) :=
  inferInstanceAs (Decidable (_ ∧ _ ∧ _))

private theorem handleUILogin_redirect_iff {adminToken formToken line : GoString} {tls : Bool} {request : Request} :
    handleUILogin adminToken tls request formToken = .redirect line ↔
      Accepted adminToken request formToken ∧ line = (loginCookie adminToken (isHTTPS tls request)).string := by
  unfold handleUILogin Accepted
  by_cases get : request.method = methodGet
  · simp [get]
  · by_cases same : trimSpace formToken = adminToken
    · by_cases unset : adminToken = []
      · simp [get, unset]
      · simp [get, same, unset, constantTimeStringEq_iff.mpr rfl, eq_comm]
    · have different : constantTimeStringEq (trimSpace formToken) adminToken = false :=
        Bool.eq_false_iff.mpr (mt constantTimeStringEq_iff.mp same)
      simp [get, same, different]

private theorem sessionCookie_token : isToken sessionCookie = true := by decide

/-- The line as it goes over the wire. -/
theorem loginCookie_string (token : GoString) (secure : Bool) :
    (loginCookie token secure).string =
      lit "nlm_session=" ++ sanitizeCookieValue token ++ lit "; Path=/; HttpOnly" ++
        (if secure then lit "; Secure" else []) ++ lit "; SameSite=Strict" := by
  have pair : (loginCookie token secure).pair = lit "nlm_session=" ++ sanitizeCookieValue token := by
    rw [Cookie.pair, List.append_cons]
    rfl
  have attributes : join 0x3b ([] :: (loginCookie [] secure).attributes) =
      lit "; Path=/; HttpOnly" ++ (if secure then lit "; Secure" else []) ++ lit "; SameSite=Strict" := by
    cases secure <;> decide
  have joined : join 0x3b ((loginCookie token secure).pair :: (loginCookie token secure).attributes) =
      (loginCookie token secure).pair ++ join 0x3b ([] :: (loginCookie [] secure).attributes) := rfl
  have named : isToken (loginCookie token secure).name = true := sessionCookie_token
  rw [Cookie.string, if_pos named, joined, attributes, pair]
  simp only [List.append_assoc]

/-- What both gates make of a request that presents a session cookie of the server. -/
theorem gates_of_presents {adminToken : GoString} {cookie : Cookie} (named : cookie.name = sessionCookie)
    {request : Request} (presents : request.Presents sessionCookie (setPair cookie.string)) (next : HandlerName) :
    (requireSession adminToken request next = .handled next ↔
      cookie.value.filter validCookieValueByte = adminToken) ∧
    (uiSocket adminToken request next = .handled next ↔
      cookie.value.filter validCookieValueByte = adminToken) := by
  have token : isToken cookie.name = true := named ▸ sessionCookie_token
  rw [setPair_string token, ← named] at presents
  have shown : request.cookie sessionCookie = some adminToken ↔
      cookie.value.filter validCookieValueByte = adminToken := by
    rw [← named, cookie_presented token presents, Option.some.injEq]
  exact ⟨cookieGate_handled_iff.1.trans shown, cookieGate_handled_iff.2.trans shown⟩

/-- A login answers with the token in a cookie exactly when the form holds it; a request that
presents this cookie opens the pages and the socket exactly when the token has only bytes that a
cookie can carry, and one that presents the cookie of a logout only when no token is set. -/
theorem session_passes_iff (adminToken : GoString) (tls : Bool) (login : Request) (formToken : GoString)
    (request : Request) (next : HandlerName) :
    (∀ line, handleUILogin adminToken tls login formToken = .redirect line ↔
      Accepted adminToken login formToken ∧
        line = lit "nlm_session=" ++ sanitizeCookieValue adminToken ++ lit "; Path=/; HttpOnly" ++
          (if isHTTPS tls login then lit "; Secure" else []) ++ lit "; SameSite=Strict") ∧
    (∀ line, handleUILogin adminToken tls login formToken = .redirect line →
      request.Presents sessionCookie (setPair line) →
        (requireSession adminToken request next = .handled next ↔ adminToken.all validCookieValueByte = true) ∧
        (uiSocket adminToken request next = .handled next ↔ adminToken.all validCookieValueByte = true)) ∧
    (request.Presents sessionCookie (setPair handleUILogout) →
      (requireSession adminToken request next = .handled next ↔ adminToken = []) ∧
      (uiSocket adminToken request next = .handled next ↔ adminToken = [])) := by
  refine ⟨fun line => ?_, fun line answered presents => ?_, fun presents => ?_⟩
  · rw [handleUILogin_redirect_iff]
    refine and_congr_right (fun _ => ?_)
    rw [loginCookie_string]
  · obtain ⟨_, rfl⟩ := handleUILogin_redirect_iff.mp answered
    have gates := @gates_of_presents adminToken (loginCookie adminToken (isHTTPS tls login)) rfl request presents next
    have carried : adminToken.filter validCookieValueByte = adminToken ↔
        adminToken.all validCookieValueByte = true := by
      rw [List.filter_eq_self, List.all_eq_true]
    exact ⟨gates.1.trans carried, gates.2.trans carried⟩
  · have gates := @gates_of_presents adminToken logoutCookie rfl request presents next
    exact ⟨gates.1.trans eq_comm, gates.2.trans eq_comm⟩

/-- A login through a proxy that ends TLS and says so. -/
def proxiedLogin : Request where
  method := methodPost
  path := [lit "ui", lit "login"]
  header name := if name = lit "X-Forwarded-Proto" then [lit "https"] else []

/-- A visit of the dashboard with the cookies of two services of the host. -/
def dashboardVisit : Request where
  method := methodGet
  path := [lit "ui"]
  header name := if name = lit "Cookie" then [lit "theme=dark; nlm_session=\"s3cret, token\""] else []

private theorem dashboardVisit_presents :
    dashboardVisit.Presents sessionCookie (lit "nlm_session=\"s3cret, token\"") := by
  refine ⟨[lit "theme=dark"], lit " nlm_session=\"s3cret, token\"", [], by decide, by decide, ?_⟩
  intro other member value read
  rw [List.mem_singleton.mp member] at read
  have theme : parseCookiePart (lit "theme=dark") = some (lit "theme", lit "dark") := by decide
  rw [theme] at read
  exact absurd (Prod.mk.inj (Option.some.inj read)).1 (by decide)

/-- A token with a blank and a comma travels in quotes and opens the dashboard. -/
theorem logged_in_session_passes :
    ∃ line, handleUILogin (lit "s3cret, token") false proxiedLogin (lit " s3cret, token ") = .redirect line ∧
      dashboardVisit.Presents sessionCookie (setPair line) ∧
      requireSession (lit "s3cret, token") dashboardVisit .uiDashboard = .handled .uiDashboard := by
  have session := session_passes_iff (lit "s3cret, token") false proxiedLogin (lit " s3cret, token ") dashboardVisit
    .uiDashboard
  have line := (session.1 _).mpr ⟨by decide, rfl⟩
  refine ⟨_, line, ?_, ?_⟩
  · exact dashboardVisit_presents
  · exact (session.2.1 _ line dashboardVisit_presents).1.mpr (by decide)

end NetLatencyMonitor.Controller
