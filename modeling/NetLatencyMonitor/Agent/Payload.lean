import NetLatencyMonitor.Controller.Results
import NetLatencyMonitor.Text.Utf8

/-! The JSON form of a results payload. `encoding/json` is a parameter: the model
uses of it only that a decoded document is the encoded value, with the bytes replaced
that are no UTF-8. -/

namespace NetLatencyMonitor.Agent

open Controller Text

/-- The request with another function applied to every text in it. -/
def mapText (coerce : GoString → GoString) (req : ResultsRequest) : ResultsRequest :=
  { req with
    sourceID := coerce req.sourceID
    probeRunID := coerce req.probeRunID
    results := req.results.map (fun r =>
      { r with targetID := coerce r.targetID, error := coerce r.error }) }

/-- `json.Marshal` and a strict `json.Decoder` on results payloads. -/
structure JsonCodec where
  /-- `none` is an encoding error. -/
  marshal : ResultsRequest → Option GoString
  /-- `DisallowUnknownFields`, then `Decode`; the error is the decoder's text. -/
  unmarshal : GoString → Except GoString ResultsRequest
  roundTrip : ∀ req bytes, marshal req = some bytes → unmarshal bytes = .ok (mapText toValidUTF8 req)
  nonempty : ∀ req bytes, marshal req = some bytes → bytes ≠ []

/-- The request has no text that encoding would change. -/
def ValidText (req : ResultsRequest) : Prop :=
  validUTF8 req.sourceID = true ∧ validUTF8 req.probeRunID = true ∧
    ∀ r ∈ req.results, validUTF8 r.targetID = true ∧ validUTF8 r.error = true

private theorem mapText_eq_iff {req : ResultsRequest} : mapText toValidUTF8 req = req ↔ ValidText req := by
  have results : (req.results.map (fun r =>
      { r with targetID := toValidUTF8 r.targetID, error := toValidUTF8 r.error }) = req.results) ↔
      ∀ r ∈ req.results, validUTF8 r.targetID = true ∧ validUTF8 r.error = true := by
    have fixed := List.map_inj_left (l := req.results) (g := id)
      (f := fun r => { r with targetID := toValidUTF8 r.targetID, error := toValidUTF8 r.error })
    rw [List.map_id] at fixed
    rw [fixed]
    apply forall₂_congr
    intro r _
    cases r
    simp [toValidUTF8_eq_iff]
  unfold ValidText
  rw [← results, ← toValidUTF8_eq_iff, ← toValidUTF8_eq_iff]
  cases req
  simp [mapText]

/-- An encoded request decodes to itself exactly when all its text is valid. -/
theorem JsonCodec.decodes_iff (codec : JsonCodec) {req : ResultsRequest} {bytes : GoString}
    (encoded : codec.marshal req = some bytes) : codec.unmarshal bytes = .ok req ↔ ValidText req := by
  rw [codec.roundTrip req bytes encoded, Except.ok.injEq]
  exact mapText_eq_iff

/-- A codec for a single document: every other value fails to encode, every other text
to decode. -/
def JsonCodec.single (req : ResultsRequest) (text : GoString) (nonempty : text ≠ [])
    (valid : mapText toValidUTF8 req = req) : JsonCodec where
  marshal other := if other = req then some text else none
  unmarshal bytes := if bytes = text then .ok req else .error (lit "invalid character")
  roundTrip other bytes encoded := by
    split at encoded
    · rename_i same
      cases encoded
      rw [if_pos rfl, same, valid]
    · cases encoded
  nonempty other bytes encoded := by
    split at encoded
    · cases encoded
      exact nonempty
    · cases encoded

end NetLatencyMonitor.Agent
