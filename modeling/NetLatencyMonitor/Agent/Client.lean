import NetLatencyMonitor.Http.Request
import NetLatencyMonitor.Spool.Drain

/-! The request `Client.Send` makes, and how it reads the response. -/

namespace NetLatencyMonitor.Agent

open Http Spool Text

/-- The results request as the controller receives it: `net/http` writes header values
without surrounding white space. `none` is a value it does not send at all. -/
def resultsRequest (nodeID secret : GoString) : Option Request :=
  let authorization := lit "Bearer " ++ secret
  if validHeaderFieldValue nodeID && validHeaderFieldValue authorization then
    some {
      method := lit "POST"
      path := [lit "api", lit "v1", lit "results"]
      header := fun name =>
        if name = lit "Content-Type" then [lit "application/json"]
        else if name = lit "X-Nlm-Node-Id" then [trimString nodeID]
        else if name = lit "Authorization" then [trimString authorization]
        else [] }
  else none

theorem resultsRequest_nodeID {nodeID secret : GoString} {request : Request}
    (sent : resultsRequest nodeID secret = some request) :
    request.header.get (lit "X-Nlm-Node-Id") = trimString nodeID := by
  unfold resultsRequest at sent
  simp only at sent
  split at sent
  · cases sent
    have other : lit "X-Nlm-Node-Id" ≠ lit "Content-Type" := by decide
    simp [Header.get, other]
  · cases sent

theorem resultsRequest_authorization {nodeID secret : GoString} {request : Request}
    (sent : resultsRequest nodeID secret = some request) :
    request.header.get (lit "Authorization") = trimString (lit "Bearer " ++ secret) := by
  unfold resultsRequest at sent
  simp only at sent
  split at sent
  · cases sent
    have other : lit "Authorization" ≠ lit "Content-Type" := by decide
    have another : lit "Authorization" ≠ lit "X-Nlm-Node-Id" := by decide
    simp [Header.get, other, another]
  · cases sent

private theorem validHeaderFieldValue_bearer (secret : GoString) :
    validHeaderFieldValue (lit "Bearer " ++ secret) = validHeaderFieldValue secret := by
  have marker : validHeaderFieldValue (lit "Bearer ") = true := by decide
  unfold validHeaderFieldValue at marker ⊢
  rw [List.all_append, marker, Bool.true_and]

/-- A request goes out exactly when neither header value has a control character. -/
theorem resultsRequest_sent_iff {nodeID secret : GoString} :
    (∃ request, resultsRequest nodeID secret = some request) ↔
      validHeaderFieldValue nodeID = true ∧ validHeaderFieldValue secret = true := by
  unfold resultsRequest
  simp only [validHeaderFieldValue_bearer]
  split
  · rename_i valid
    simpa using valid
  · rename_i refused
    simpa using refused

/-- The outcome of a received status code. -/
def outcomeOf (status : Nat) : SendOutcome :=
  if 200 ≤ status ∧ status < 300 then .accepted
  else if status = 409 then .accepted
  else if 400 ≤ status ∧ status < 500 then .permanentFail
  else if 500 ≤ status then .transientFail
  else .transientFail

theorem outcomeOf_accepted_iff {status : Nat} :
    outcomeOf status = .accepted ↔ (200 ≤ status ∧ status < 300) ∨ status = 409 := by
  unfold outcomeOf
  split
  · rename_i success
    simp [success]
  · rename_i failure
    split
    · rename_i conflict
      simp [conflict]
    · rename_i other
      simp only [failure, other, or_self, iff_false]
      split
      · simp
      · split
        · simp
        · simp

end NetLatencyMonitor.Agent
