import NetLatencyMonitor.Controller.Results

/-! `nlm_node_spool_drops_total` against the values the agents reported. A payload
carries the agent's counter as of its enqueue, and the spool may deliver an old row
after newer ones, so reports arrive in any order. -/

namespace NetLatencyMonitor.Controller

open Clock Text

/-- A results post, or whatever other requests do to the database in between. -/
inductive IngestEvent where
  | post (nodeID : GoString) (body : Except GoString ResultsRequest) (now : Time)
  | elsewhere (db : DB)

def Ingest.step (ingest : Ingest) : IngestEvent → Ingest
  | .post nodeID body now => (handleResults nodeID body now ingest).1
  | .elsewhere db => { ingest with db }

/-- A controller process that has just started. -/
def Ingest.start (db : DB) : Ingest := ⟨db, fun _ => {}⟩

def Ingest.after (db : DB) (events : List IngestEvent) : Ingest := events.foldl Ingest.step (.start db)

/-- The value a payload of the node reports, when it is valid and stored or a replay. -/
def reported (nodeID : GoString) (ingest : Ingest) : IngestEvent → Option Int
  | .elsewhere _ => none
  | .post sender body _ =>
    match body with
    | .error _ => none
    | .ok req =>
      if sender = nodeID ∧ validateResultsRequest sender req = none ∧
          (persistResults ingest.db req).toOption.isSome then
        some req.spoolMetadata.spoolDropsTotal
      else none

/-- The values reported along a run, in the order of processing. -/
def reports (nodeID : GoString) (db : DB) (events : List IngestEvent) : List Int :=
  (events.foldl (fun (seen : Ingest × List Int) event =>
    (seen.1.step event, seen.2 ++ (reported nodeID seen.1 event).toList)) (.start db, [])).2

/-- The largest value received, 0 before the first. -/
def largest (values : List Int) : Int := values.foldl max 0

/-- How a sequence of reports has moved so far. -/
structure Movement where
  last : Int := 0
  fallen : Bool := false
  risenAgain : Bool := false
deriving DecidableEq, Repr

def Movement.report (movement : Movement) (value : Int) : Movement where
  last := value
  fallen := movement.fallen || decide (value < movement.last)
  risenAgain := movement.risenAgain || (movement.fallen && decide (value > movement.last))

/-- Some report exceeds its predecessor after an earlier one fell below its own. -/
def risesAfterFall (values : List Int) : Bool := (values.foldl Movement.report {}).risenAgain

/-- The bookkeeping of one node after a sequence of reports. -/
def dropsAfter (values : List Int) : DropsState := values.foldl DropsState.report {}

def movement (values : List Int) : Movement := values.foldl Movement.report {}

private theorem dropsAfter_concat (values : List Int) (value : Int) :
    dropsAfter (values ++ [value]) = (dropsAfter values).report value := by
  simp [dropsAfter]

private theorem movement_concat (values : List Int) (value : Int) :
    movement (values ++ [value]) = (movement values).report value := by
  simp [movement]

private theorem largest_concat (values : List Int) (value : Int) :
    largest (values ++ [value]) = max (largest values) value := by
  simp [largest]

private theorem last_eq (values : List Int) : (dropsAfter values).last = (movement values).last := by
  induction values using List.reverseRecOn with
  | nil => rfl
  | append_singleton values value _ =>
    rw [dropsAfter_concat, movement_concat]
    rfl

/-- Until a rise follows a fall the counter is the largest report, and the last report
is below it exactly after a fall. -/
structure OnTrack (values : List Int) : Prop where
  counter : (dropsAfter values).counter = largest values
  climbing : (movement values).fallen = false → (movement values).last = largest values
  falling : (movement values).fallen = true → (movement values).last < largest values

private theorem onTrack_of_no_rise (values : List Int) (calm : risesAfterFall values = false) : OnTrack values := by
  induction values using List.reverseRecOn with
  | nil => exact ⟨rfl, fun _ => rfl, fun fallen => by cases fallen⟩
  | append_singleton values value ih =>
    have movedOn : (movement (values ++ [value])).risenAgain = false := calm
    rw [movement_concat] at movedOn
    simp only [Movement.report, Bool.or_eq_false_iff, Bool.and_eq_false_iff, decide_eq_false_iff_not] at movedOn
    obtain ⟨before, unrisen⟩ := movedOn
    obtain ⟨counter, climbing, falling⟩ := ih before
    have last := last_eq values
    cases fallen : (movement values).fallen with
    | false =>
      have top := climbing fallen
      refine ⟨?_, ?_, ?_⟩
      · rw [dropsAfter_concat, largest_concat]
        simp only [DropsState.report]
        split
        · omega
        · omega
      · rw [movement_concat, largest_concat]
        simp only [Movement.report, fallen, Bool.false_or, decide_eq_false_iff_not]
        omega
      · rw [movement_concat, largest_concat]
        simp only [Movement.report, fallen, Bool.false_or, decide_eq_true_eq]
        omega
    | true =>
      have below := falling fallen
      have unrisen : ¬ value > (movement values).last := unrisen.resolve_left (by simp [fallen])
      refine ⟨?_, ?_, ?_⟩
      · rw [dropsAfter_concat, largest_concat]
        simp only [DropsState.report]
        rw [if_neg (last ▸ unrisen)]
        omega
      · rw [movement_concat]
        simp [Movement.report, fallen]
      · rw [movement_concat, largest_concat]
        simp only [Movement.report]
        omega

/-- The first rise after a fall is counted twice. -/
theorem overcounts_at_rise {values : List Int} {value : Int} (calm : risesAfterFall values = false)
    (rises : risesAfterFall (values ++ [value]) = true) :
    largest (values ++ [value]) < (dropsAfter (values ++ [value])).counter := by
  obtain ⟨counter, _, falling⟩ := onTrack_of_no_rise values calm
  have last := last_eq values
  have moved : (movement (values ++ [value])).risenAgain = true := rises
  have before : (movement values).risenAgain = false := calm
  rw [movement_concat] at moved
  simp only [Movement.report, before, Bool.false_or, Bool.and_eq_true, decide_eq_true_eq] at moved
  have below := falling moved.1
  rw [dropsAfter_concat, largest_concat]
  simp only [DropsState.report]
  rw [if_pos (last ▸ moved.2)]
  omega

private theorem calm_of_concat {values : List Int} {value : Int} (calm : risesAfterFall (values ++ [value]) = false) :
    risesAfterFall values = false := by
  have moved : (movement (values ++ [value])).risenAgain = false := calm
  rw [movement_concat] at moved
  exact (Bool.or_eq_false_iff.mp moved).1

/-! The counter of a run is that of its reports. -/

private theorem step_drops (nodeID : GoString) (ingest : Ingest) (event : IngestEvent) :
    (ingest.step event).drops nodeID =
      (reported nodeID ingest event).toList.foldl DropsState.report (ingest.drops nodeID) := by
  cases event with
  | elsewhere db => rfl
  | post sender body now =>
    cases body with
    | error text => rfl
    | ok req =>
      simp only [Ingest.step, handleResults, reported]
      cases valid : validateResultsRequest sender req with
      | some error => simp
      | none =>
        cases persisted : persistResults ingest.db req with
        | error error => simp [Except.toOption]
        | ok result =>
          obtain ⟨stored, status⟩ := result
          by_cases same : sender = nodeID
          · subst sender
            simp [Except.toOption]
          · simp [same, Function.update_of_ne (Ne.symm same)]

private theorem reports_concat (nodeID : GoString) (db : DB) (events : List IngestEvent) (event : IngestEvent) :
    reports nodeID db (events ++ [event]) =
      reports nodeID db events ++ (reported nodeID (.after db events) event).toList := by
  have state : ∀ (start : Ingest × List Int), (events.foldl (fun (seen : Ingest × List Int) event =>
      (seen.1.step event, seen.2 ++ (reported nodeID seen.1 event).toList)) start).1 =
        events.foldl Ingest.step start.1 := by
    induction events with
    | nil => exact fun start => rfl
    | cons first rest ih => exact fun start => ih _
  unfold reports
  rw [List.foldl_concat, state]
  rfl

private theorem after_drops (nodeID : GoString) (db : DB) (events : List IngestEvent) :
    (Ingest.after db events).drops nodeID = dropsAfter (reports nodeID db events) := by
  induction events using List.reverseRecOn with
  | nil => rfl
  | append_singleton events event ih =>
    have last : Ingest.after db (events ++ [event]) = (Ingest.after db events).step event := by
      simp [Ingest.after]
    rw [last, step_drops, ih, reports_concat]
    simp [dropsAfter]

/-- The counter equals the largest report after every request exactly when no report
rises above its predecessor once an earlier one has fallen below its own. -/
theorem drops_counter_exact_iff (nodeID : GoString) (db : DB) (events : List IngestEvent) :
    (∀ past, past <+: events →
      ((Ingest.after db past).drops nodeID).counter = largest (reports nodeID db past)) ↔
        risesAfterFall (reports nodeID db events) = false := by
  induction events using List.reverseRecOn with
  | nil =>
    refine ⟨fun _ => rfl, fun _ past empty => ?_⟩
    rw [List.prefix_nil.mp empty]
    rfl
  | append_singleton events event ih =>
    constructor
    · intro exact
      have calm := ih.mp (fun past early => exact past (early.trans (List.prefix_append _ _)))
      have now := exact (events ++ [event]) List.prefix_rfl
      rw [after_drops, reports_concat] at now
      rw [reports_concat]
      cases report : reported nodeID (.after db events) event with
      | none => simpa [report] using calm
      | some value =>
        rw [report] at now
        by_contra rises
        have above := overcounts_at_rise calm (Bool.not_eq_false _ ▸ rises)
        exact absurd now (ne_of_gt above)
    · intro calm past early
      rcases List.prefix_concat_iff.mp early with rfl | earlier
      · rw [after_drops]
        exact (onTrack_of_no_rise _ calm).counter
      · refine ih.mpr ?_ past earlier
        rw [reports_concat] at calm
        cases report : reported nodeID (.after db events) event with
        | none => simpa [report] using calm
        | some value =>
          rw [report] at calm
          exact calm_of_concat calm

/-- A registry that knows the spoke. -/
def knownSpoke : DB :=
  match NodeStore.upsert .migrated { id := lit "spoke-1", role := roleSpoke } with
  | .ok db => db
  | .error _ => .migrated

/-- A one-observation payload of the spoke with the drops counter of its enqueue. -/
def spokePayload (probeRunID : GoString) (drops : Int) : IngestEvent :=
  .post (lit "spoke-1")
    (.ok {
      sourceID := lit "spoke-1", probeRunID, observedAt := 0
      results := [{ targetID := lit "hub-1", latencyMs := some 1 }]
      spoolMetadata := { spoolDropsTotal := drops } }) 0

/-- The run enqueued with 3 drops is delivered between two that were enqueued with 5:
the counter reaches 7. -/
theorem late_row_overcounts :
    ¬ ∀ past, past <+:
        [spokePayload (lit "run-2") 5, spokePayload (lit "run-1") 3, spokePayload (lit "run-3") 5] →
      ((Ingest.after knownSpoke past).drops (lit "spoke-1")).counter =
        largest (reports (lit "spoke-1") knownSpoke past) := by
  intro exact
  exact absurd (exact _ List.prefix_rfl) (by decide)

end NetLatencyMonitor.Controller
