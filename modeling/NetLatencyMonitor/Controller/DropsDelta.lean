import NetLatencyMonitor.Controller.DropsMetric
import NetLatencyMonitor.Spool.Drain

/-! The drops delta in `int64` arithmetic. `Counter.Add` panics on a negative amount, and
`handleResults` unlocks `dropsMu` only after it: the HTTP server recovers the panic, the
mutex stays locked, and every later ingest waits for it. -/

namespace NetLatencyMonitor.Controller

open Clock Spool Text

/-- One call of `Add`, with the two values it is computed from. -/
structure Added where
  last : Int
  reported : Int
  amount : Int
deriving DecidableEq, Repr

/-- How a request's handler ends. A blocked one waits for `dropsMu` forever. -/
inductive HandlerEnd where
  | replied (reply : ResultsReply)
  | panicked
  | blocked
deriving DecidableEq, Repr

/-- The ingest state with the mutex; `held` means that its holder is gone. -/
structure DropsServer where
  ingest : Ingest
  held : Bool := false

structure Handled where
  server : DropsServer
  added : Option Added := none
  ended : Option HandlerEnd := none

/-- The section under `dropsMu`, entered with the database already written. -/
def countDrops (server : DropsServer) (nodeID : GoString) (reported : Int) (reply : ResultsReply) : Handled :=
  if server.held then { server, ended := some .blocked }
  else
    let state := server.ingest.drops nodeID
    if reported > state.last then
      let amount := wrap64 (reported - state.last)
      let added := some ⟨state.last, reported, amount⟩
      if amount < 0 then { server := { server with held := true }, added, ended := some .panicked }
      else
        let drops := Function.update server.ingest.drops nodeID ⟨reported, state.counter + amount⟩
        { server := { server with ingest.drops := drops }, added, ended := some (.replied reply) }
    else
      let drops := Function.update server.ingest.drops nodeID ⟨reported, state.counter⟩
      { server := { server with ingest.drops := drops }, ended := some (.replied reply) }

/-- `handleResults` with the delta as the code computes it. -/
def handleResultsLocked (nodeID : GoString) (body : Except GoString ResultsRequest) (now : Time)
    (server : DropsServer) : Handled :=
  match body with
  | .error text => { server, ended := some (.replied (.invalidJSON text)) }
  | .ok req =>
    match validateResultsRequest nodeID req with
    | some error => { server, ended := some (.replied (.invalid error)) }
    | none =>
      match persistResults server.ingest.db req with
      | .error _ => { server, ended := some (.replied .internalError) }
      | .ok (stored, status) =>
        let db := match NodeStore.updateSpoolStats stored nodeID (spoolStats req.spoolMetadata now) with
          | .ok updated => updated
          | .error _ => stored
        countDrops ⟨⟨db, server.ingest.drops⟩, server.held⟩ nodeID req.spoolMetadata.spoolDropsTotal
          (.stored status db.targetsVersion)

def DropsServer.step (server : DropsServer) : IngestEvent → Handled
  | .post nodeID body now => handleResultsLocked nodeID body now server
  | .elsewhere db => { server := { server with ingest := { server.ingest with db } } }

/-- Everything that happens to the requests of a run, in order. -/
def DropsServer.history (server : DropsServer) : List IngestEvent → List Handled
  | [] => []
  | event :: rest => server.step event :: (server.step event).server.history rest

def DropsServer.start (db : DB) : DropsServer := { ingest := .start db }

/-- The amount added is the true positive difference, and the handler neither panics nor
waits for a mutex nobody will unlock. -/
structure Handled.Proper (handled : Handled) : Prop where
  amount : ∀ added, handled.added = some added →
    added.amount = added.reported - added.last ∧ 0 < added.amount
  returns : handled.ended ≠ some .panicked
  locks : handled.ended ≠ some .blocked

/-- No accepted report of the event is 2^63 or more above the node's last one. -/
def MildReport (ingest : Ingest) (event : IngestEvent) : Prop :=
  ∀ nodeID value, reported nodeID ingest event = some value → value - (ingest.drops nodeID).last < 2 ^ 63

def MildReports (ingest : Ingest) : List IngestEvent → Prop
  | [] => True
  | event :: rest => MildReport ingest event ∧ MildReports (ingest.step event) rest

private theorem mildReport_accepted {ingest : Ingest} {sender : GoString} {req : ResultsRequest} {now : Time}
    {result : DB × Nat} (valid : validateResultsRequest sender req = none)
    (persisted : persistResults ingest.db req = .ok result) :
    MildReport ingest (.post sender (.ok req) now) ↔
      req.spoolMetadata.spoolDropsTotal - (ingest.drops sender).last < 2 ^ 63 := by
  constructor
  · intro mild
    exact mild sender _ (by simp [reported, valid, persisted, Except.toOption])
  · intro below nodeID value report
    simp only [reported, valid, persisted, Except.toOption, Option.isSome_some, and_true] at report
    split at report
    · rename_i same
      cases report
      exact same ▸ below
    · cases report

/-- A handler that answers without a call of `Add`. -/
theorem Handled.proper_of_reply {handled : Handled} {reply : ResultsReply} (unchanged : handled.added = none)
    (replied : handled.ended = some (.replied reply)) : handled.Proper := by
  refine ⟨fun added same => ?_, fun panicked => ?_, fun blocked => ?_⟩
  · rw [unchanged] at same
    cases same
  · rw [replied] at panicked
    cases panicked
  · rw [replied] at blocked
    cases blocked

section CountDrops

variable {ingest : Ingest} {nodeID : GoString} {value : Int} {reply : ResultsReply}

/-- A rise that fits is counted as the ingest model has it, and the mutex is free again. -/
theorem countDrops_mild (below : value - (ingest.drops nodeID).last < 2 ^ 63) :
    (countDrops ⟨ingest, false⟩ nodeID value reply).Proper ∧
      (countDrops ⟨ingest, false⟩ nodeID value reply).server =
        ⟨⟨ingest.db, Function.update ingest.drops nodeID ((ingest.drops nodeID).report value)⟩, false⟩ := by
  unfold countDrops DropsState.report
  rw [if_neg Bool.false_ne_true]
  by_cases rises : value > (ingest.drops nodeID).last
  · have positive : 0 < value - (ingest.drops nodeID).last := Int.sub_pos_of_lt rises
    dsimp only
    rw [if_pos rises, if_pos rises, wrap64_of_fits positive below, if_neg (Int.not_lt.mpr (Int.le_of_lt positive))]
    refine ⟨⟨fun added same => ?_, nofun, nofun⟩, rfl⟩
    cases same
    exact ⟨rfl, positive⟩
  · dsimp only
    rw [if_neg rises, if_neg rises]
    exact ⟨Handled.proper_of_reply rfl rfl, rfl⟩

/-- An `int64` cannot hold a rise of 2^63, so what reaches `Add` is something else. -/
theorem countDrops_huge (above : 2 ^ 63 ≤ value - (ingest.drops nodeID).last) :
    ¬ (countDrops ⟨ingest, false⟩ nodeID value reply).Proper := by
  have rises : value > (ingest.drops nodeID).last := by omega
  have short := wrap64_lt (value - (ingest.drops nodeID).last)
  unfold countDrops
  dsimp only
  rw [if_neg Bool.false_ne_true, if_pos rises]
  intro proper
  split at proper
  · exact proper.returns rfl
  · have same := (proper.amount _ rfl).1
    dsimp only at same
    omega

end CountDrops

/-- With the mutex free, a request is handled properly exactly when its report is mild,
and then as the ingest model has it. -/
theorem step_cases (ingest : Ingest) (event : IngestEvent) :
    (MildReport ingest event ∧ (DropsServer.step ⟨ingest, false⟩ event).Proper ∧
        (DropsServer.step ⟨ingest, false⟩ event).server = ⟨ingest.step event, false⟩) ∨
      (¬ MildReport ingest event ∧ ¬ (DropsServer.step ⟨ingest, false⟩ event).Proper) := by
  cases event with
  | elsewhere db =>
    refine Or.inl ⟨fun nodeID value report => ?_, ⟨nofun, nofun, nofun⟩, rfl⟩
    cases report
  | post sender body now =>
    cases body with
    | error text =>
      refine Or.inl ⟨fun nodeID value report => ?_, Handled.proper_of_reply rfl rfl, rfl⟩
      cases report
    | ok req =>
      cases valid : validateResultsRequest sender req with
      | some error =>
        have served : DropsServer.step ⟨ingest, false⟩ (.post sender (.ok req) now) =
            { server := ⟨ingest, false⟩, ended := some (.replied (.invalid error)) } := by
          simp only [DropsServer.step, handleResultsLocked, valid]
        have kept : ingest.step (.post sender (.ok req) now) = ingest := by
          simp only [Ingest.step, handleResults, valid]
        rw [served, kept]
        refine Or.inl ⟨fun nodeID value report => ?_, Handled.proper_of_reply rfl rfl, rfl⟩
        simp [reported, valid] at report
      | none =>
        cases persisted : persistResults ingest.db req with
        | error error =>
          have served : DropsServer.step ⟨ingest, false⟩ (.post sender (.ok req) now) =
              { server := ⟨ingest, false⟩, ended := some (.replied .internalError) } := by
            simp only [DropsServer.step, handleResultsLocked, valid, persisted]
          have kept : ingest.step (.post sender (.ok req) now) = ingest := by
            simp only [Ingest.step, handleResults, valid, persisted]
          rw [served, kept]
          refine Or.inl ⟨fun nodeID value report => ?_, Handled.proper_of_reply rfl rfl, rfl⟩
          simp [reported, valid, persisted, Except.toOption] at report
        | ok result =>
          rw [mildReport_accepted valid persisted]
          simp only [DropsServer.step, handleResultsLocked, Ingest.step, handleResults, valid, persisted]
          by_cases below : req.spoolMetadata.spoolDropsTotal - (ingest.drops sender).last < 2 ^ 63
          · exact Or.inl ⟨below, countDrops_mild below⟩
          · exact Or.inr ⟨below, countDrops_huge (Int.not_lt.mp below)⟩

/-- Every amount passed to `Add` is the true positive difference, no `Add` panics and no
ingest waits forever, exactly when no accepted report rises by 2^63 or more above the last
one of its node. -/
theorem drops_delta_exact_iff (db : DB) (events : List IngestEvent) :
    (∀ handled ∈ (DropsServer.start db).history events, handled.Proper) ↔
      MildReports (.start db) events := by
  have general : ∀ ingest : Ingest,
      (∀ handled ∈ DropsServer.history ⟨ingest, false⟩ events, handled.Proper) ↔ MildReports ingest events := by
    induction events with
    | nil => exact fun ingest => ⟨fun _ => trivial, fun _ handled member => (List.not_mem_nil member).elim⟩
    | cons event rest ih =>
      intro ingest
      simp only [DropsServer.history, List.mem_cons, forall_eq_or_imp, MildReports]
      rcases step_cases ingest event with ⟨mild, proper, follows⟩ | ⟨huge, improper⟩
      · rw [follows, ih (ingest.step event)]
        exact ⟨fun all => ⟨mild, all.2⟩, fun all => ⟨proper, all.2⟩⟩
      · exact ⟨fun all => absurd all.1 improper, fun all => absurd all.1 huge⟩
  exact general (.start db)

/-- The spoke reports the smallest `int64` and then the largest: the subtraction wraps to
-1, `Add` panics under the mutex, and the next ingest, of whatever value, is blocked. -/
theorem extreme_reports_panic :
    ((DropsServer.start knownSpoke).history
      [spokePayload (lit "run-1") (-2 ^ 63), spokePayload (lit "run-2") (2 ^ 63 - 1),
        spokePayload (lit "run-3") 0]).map (fun handled => (handled.added, handled.ended)) =
      [(none, some (.replied (.stored 201 1))),
        (some ⟨-2 ^ 63, 2 ^ 63 - 1, -1⟩, some .panicked), (none, some .blocked)] ∧
    ¬ ∀ handled ∈ (DropsServer.start knownSpoke).history
      [spokePayload (lit "run-1") (-2 ^ 63), spokePayload (lit "run-2") (2 ^ 63 - 1),
        spokePayload (lit "run-3") 0], handled.Proper := by
  have trace : ((DropsServer.start knownSpoke).history
      [spokePayload (lit "run-1") (-2 ^ 63), spokePayload (lit "run-2") (2 ^ 63 - 1),
        spokePayload (lit "run-3") 0]).map (fun handled => (handled.added, handled.ended)) =
      [(none, some (.replied (.stored 201 1))),
        (some ⟨-2 ^ 63, 2 ^ 63 - 1, -1⟩, some .panicked), (none, some .blocked)] := by decide
  refine ⟨trace, fun proper => ?_⟩
  have member : (none, some HandlerEnd.blocked) ∈ ((DropsServer.start knownSpoke).history
      [spokePayload (lit "run-1") (-2 ^ 63), spokePayload (lit "run-2") (2 ^ 63 - 1),
        spokePayload (lit "run-3") 0]).map (fun handled => (handled.added, handled.ended)) := by
    rw [trace]
    simp
  obtain ⟨handled, present, same⟩ := List.mem_map.mp member
  exact (proper handled present).locks (congrArg Prod.snd same)

end NetLatencyMonitor.Controller
