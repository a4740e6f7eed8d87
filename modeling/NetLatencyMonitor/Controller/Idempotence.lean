import NetLatencyMonitor.Controller.DropsMetric
import NetLatencyMonitor.Controller.Transaction
import NetLatencyMonitor.Machine.Cells

/-! Sequences of results posts. A post reads and writes the rows of its own run only, so the
runs are cells that do not see each other, and a payload posted again changes nothing. -/

namespace NetLatencyMonitor.Controller

open Machine Text

/-- A request that passed validation, with the faults its transaction runs into. -/
structure Post where
  nodeID : GoString
  req : ResultsRequest
  faults : TxFaults := .clean
  valid : validateResultsRequest nodeID req = none

def ResultsRequest.run (req : ResultsRequest) : GoString × GoString := (req.sourceID, req.probeRunID)

def post (db : DB) (p : Post) : DB × Except SqlError Nat := persistResultsUnder p.faults db p.req

def postAll (db : DB) (posts : List Post) : DB := posts.foldl (fun db p => (post db p).1) db

/-- How often the body is answered with 201. -/
def created (req : ResultsRequest) (db : DB) : List Post → Nat
  | [] => 0
  | p :: rest =>
    (if p.req = req ∧ (post db p).2.toOption = some 201 then 1 else 0) + created req (post db p).1 rest

/-- What a post for a run depends on: whether its source is registered, and its rows. -/
def cellOf (db : DB) (run : GoString × GoString) : Bool × List ResultRow :=
  (knows db run.1, rowsOf db run.1 run.2)

def Post.store (p : Post) (cell : Bool × List ResultRow) : Bool × List ResultRow :=
  if accepts p.faults p.req cell.1 cell.2 then (cell.1, cell.2 ++ resultRows p.req) else cell

private theorem accepts_rowsOf (faults : TxFaults) (req : ResultsRequest) (known : Bool) (db : DB) :
    accepts faults req known (rowsOf db req.sourceID req.probeRunID) =
      accepts faults req known db.results.rows := by
  have same : ∀ row ∈ resultRows req,
      takenIn (rowsOf db req.sourceID req.probeRunID) row = takenIn db.results.rows row := by
    intro row member
    obtain ⟨source, run⟩ := resultRows_run member
    rw [Bool.eq_iff_iff, takenIn_iff, takenIn_iff]
    constructor
    · rintro ⟨other, present, key⟩
      exact ⟨other, (mem_rowsOf.mp present).1, key⟩
    · rintro ⟨other, present, key⟩
      have otherSource : other.sourceID = row.sourceID := congrArg Prod.fst key
      have otherRun : other.probeRunID = row.probeRunID := congrArg (fun key => key.2.1) key
      exact ⟨other, mem_rowsOf.mpr ⟨present, otherSource.trans source, otherRun.trans run⟩, key⟩
  unfold accepts
  rw [firstError_congr same]

theorem Extends.cellOf_own {db after : DB} {req : ResultsRequest} (extended : Extends db (resultRows req) after) :
    cellOf after req.run = ((cellOf db req.run).1, (cellOf db req.run).2 ++ resultRows req) := by
  have known : knows after req.sourceID = knows db req.sourceID := by rw [knows, knows, extended.nodes]
  have rows : rowsOf after req.sourceID req.probeRunID =
      rowsOf db req.sourceID req.probeRunID ++ resultRows req := by
    unfold rowsOf
    rw [extended.results, List.filter_append, resultRows_filter_own]
  exact Prod.ext known rows

private theorem Extends.cellOf_other {db after : DB} {req : ResultsRequest}
    (extended : Extends db (resultRows req) after)
    {run : GoString × GoString} (other : run ≠ req.run) : cellOf after run = cellOf db run := by
  have apart : ¬ (run.1 = req.sourceID ∧ run.2 = req.probeRunID) := fun same => other (Prod.ext same.1 same.2)
  simp only [cellOf, knows, rowsOf, extended.nodes, extended.results, List.filter_append,
    resultRows_filter_other apart, List.append_nil]

private theorem post_local :
    ActsLocally cellOf (fun p : Post => p.req.run) Post.store (fun db p => (post db p).1) := by
  intro db p run
  have ended := persistResultsUnder_ingested p.valid p.faults db
  have reads : accepts p.faults p.req (cellOf db p.req.run).1 (cellOf db p.req.run).2 =
      accepts p.faults p.req (knows db p.req.sourceID) db.results.rows :=
    accepts_rowsOf p.faults p.req _ db
  show cellOf (persistResultsUnder p.faults db p.req).1 run = _
  unfold Post.store
  generalize persistResultsUnder p.faults db p.req = result at ended
  by_cases own : run = p.req.run
  · subst run
    rw [if_pos rfl, reads]
    cases ended with
    | created accepted _ _ extended => rw [if_pos accepted, extended.cellOf_own]
    | replayed refused => rw [refused, if_neg Bool.false_ne_true]
    | failed refused => rw [refused, if_neg Bool.false_ne_true]
  · rw [if_neg own]
    cases ended with
    | created _ _ _ extended => exact extended.cellOf_other own
    | replayed => rfl
    | failed => rfl

/-- What a post that meets no fault does to its cell. -/
def storeCleanly (req : ResultsRequest) (cell : Bool × List ResultRow) : Bool × List ResultRow :=
  if accepts .clean req cell.1 cell.2 then (cell.1, cell.2 ++ resultRows req) else cell

private theorem storeCleanly_idempotent {req : ResultsRequest} (nonempty : ∃ row, row ∈ resultRows req)
    (cell : Bool × List ResultRow) : storeCleanly req (storeCleanly req cell) = storeCleanly req cell := by
  unfold storeCleanly
  by_cases accepted : accepts .clean req cell.1 cell.2
  · rw [if_pos accepted]
    refine if_neg ?_
    intro again
    -- the rows of the payload are there now
    obtain ⟨row, member⟩ := nonempty
    simp only [accepts, Bool.and_eq_true, Option.isNone_iff_eq_none] at again
    have free := (firstError_none again.1.2).1 row member
    rw [takenIn_iff.mpr ⟨row, List.mem_append_right _ member, rfl⟩] at free
    cases free
  · rw [if_neg accepted, if_neg accepted]

private theorem Post.store_cases (p : Post) (cell : Bool × List ResultRow) :
    p.store cell = cell ∨ p.store cell = storeCleanly p.req cell := by
  unfold Post.store
  by_cases accepted : accepts p.faults p.req cell.1 cell.2
  · right
    simp only [accepts, Bool.and_eq_true, Option.isNone_iff_eq_none] at accepted
    have cleanly : accepts .clean p.req cell.1 cell.2 = true := by
      simp only [accepts, TxFaults.clean, Option.isNone_none, Bool.true_and, Bool.and_true]
      rw [(firstError_none accepted.1.2).2 0]
      rfl
    rw [storeCleanly, if_pos cleanly, if_pos (by simp [accepts, accepted])]
  · exact Or.inl (if_neg accepted)

/-- The posts to the body's run are posts of the body, and one of them meets no fault. -/
structure Reposts (req : ResultsRequest) (posts : List Post) : Prop where
  body : ∀ p ∈ posts, p.req.run = req.run → p.req = req
  unfailing : ∃ p ∈ posts, p.req = req ∧ p.faults = .clean

/-- The posts for other runs. -/
def others (req : ResultsRequest) (posts : List Post) : List Post :=
  posts.filter (fun p => decide (p.req.run ≠ req.run))

theorem Reposts.cellOf_own {req : ResultsRequest} {posts : List Post} (reposts : Reposts req posts)
    (nonempty : ∃ row, row ∈ resultRows req) (db : DB) :
    cellOf (postAll db posts) req.run = storeCleanly req (cellOf db req.run) := by
  unfold postAll
  rw [view_foldl post_local]
  refine foldl_once (storeCleanly_idempotent nonempty) ?_ ?_ _
  · intro p member cell
    obtain ⟨present, own⟩ := List.mem_filter.mp member
    have same := reposts.body p present (of_decide_eq_true own).symm
    exact same ▸ p.store_cases cell
  · obtain ⟨p, member, same, clean⟩ := reposts.unfailing
    refine ⟨p, List.mem_filter.mpr ⟨member, decide_eq_true (by rw [same])⟩, fun cell => ?_⟩
    rw [Post.store, storeCleanly, same, clean]

private theorem cellOf_postAll_other {req : ResultsRequest} {run : GoString × GoString} (other : run ≠ req.run)
    (db : DB) (posts : List Post) :
    cellOf (postAll db posts) run = cellOf (postAll db (others req posts)) run := by
  unfold postAll
  rw [view_foldl post_local, view_foldl post_local, others, List.filter_filter]
  congr 1
  apply List.filter_congr
  intro p _
  by_cases own : run = p.req.run
  · simp [← own, other]
  · simp [own]

private theorem mem_results_iff {db : DB} {row : ResultRow} :
    row ∈ db.results.rows ↔ row ∈ (cellOf db (row.sourceID, row.probeRunID)).2 := by
  simp [cellOf, mem_rowsOf]

private theorem post_collides {req : ResultsRequest} {db : DB} (p : Post) (collides : Collides db req) :
    Collides (post db p).1 req := by
  obtain ⟨row, present, matching⟩ := collides
  have ended := persistResultsUnder_ingested p.valid p.faults db
  unfold post
  generalize persistResultsUnder p.faults db p.req = result at ended ⊢
  cases ended with
  | created _ _ _ extended =>
    exact ⟨row, extended.results ▸ List.mem_append_left _ present, matching⟩
  | replayed => exact ⟨row, present, matching⟩
  | failed => exact ⟨row, present, matching⟩

/-- A 201 is for a payload none of whose keys was taken; afterwards all are. -/
theorem post_created {db : DB} {p : Post} (answered : (post db p).2 = .ok 201) :
    ¬ Collides db p.req ∧ Collides (post db p).1 p.req := by
  obtain ⟨row, member⟩ := exists_resultRow p.valid
  have ended := persistResultsUnder_ingested p.valid p.faults db
  unfold post at answered ⊢
  generalize persistResultsUnder p.faults db p.req = result at answered ended ⊢
  cases ended with
  | created _ free _ extended =>
    refine ⟨free, collides_iff.mpr ⟨row, member, takenIn_iff.mpr ⟨row, ?_, rfl⟩⟩⟩
    rw [extended.results]
    exact List.mem_append_right _ member
  | replayed => cases answered
  | failed => cases answered

private theorem created_of_collides {req : ResultsRequest} {db : DB} (posts : List Post) (collides : Collides db req) :
    created req db posts = 0 := by
  induction posts generalizing db with
  | nil => rfl
  | cons p rest ih =>
    rw [created, ih (post_collides p collides), if_neg]
    rintro ⟨same, answered⟩
    exact (post_created (ok_of_toOption answered)).1 (same ▸ collides)

private theorem created_le_one (req : ResultsRequest) (db : DB) (posts : List Post) : created req db posts ≤ 1 := by
  induction posts generalizing db with
  | nil => exact Nat.zero_le 1
  | cons p rest ih =>
    rw [created]
    by_cases answered : p.req = req ∧ (post db p).2.toOption = some 201
    · have taken := (post_created (ok_of_toOption answered.2)).2
      rw [if_pos answered, created_of_collides rest (answered.1 ▸ taken)]
    · rw [if_neg answered, Nat.zero_add]
      exact ih (post db p).1

/-- Ingestion is atomic and idempotent. The first part is about one request, under any
faults; the second about any sequence of posts, compared with one that has the same posts
for other runs and the body once, without a fault. -/
theorem results_ingested_once {authNodeID : GoString} {req : ResultsRequest}
    (valid : validateResultsRequest authNodeID req = none) :
    (∀ faults db,
      (¬ FailsOtherwise faults db req →
        ((persistResultsUnder faults db req).2 = .ok 201 ↔ ¬ Collides db req) ∧
        ((persistResultsUnder faults db req).2 = .ok 409 ↔ Collides db req)) ∧
      ((persistResultsUnder faults db req).2 = .ok 201 →
        Extends db (resultRows req) (persistResultsUnder faults db req).1) ∧
      ((persistResultsUnder faults db req).2 = .ok 409 → (persistResultsUnder faults db req).1 = db) ∧
      (FailsOtherwise faults db req →
        (∀ status, (persistResultsUnder faults db req).2 ≠ .ok status) ∧
        (persistResultsUnder faults db req).1 = db)) ∧
    ∀ db posts, created req db posts ≤ 1 ∧
      (Reposts req posts → ∀ once single, others req once = others req posts →
        once.filter (fun p => decide (p.req.run = req.run)) = [single] →
        single.req = req → single.faults = .clean →
        ∀ row, row ∈ (postAll db posts).results.rows ↔ row ∈ (postAll db once).results.rows) := by
  have nonempty := exists_resultRow valid
  refine ⟨fun faults db => ?_, fun db posts => ⟨created_le_one req db posts, ?_⟩⟩
  · have ended := persistResultsUnder_ingested valid faults db
    generalize persistResultsUnder faults db req = result at ended ⊢
    cases ended with
    | created _ free proper extended =>
      exact ⟨fun _ => by simp [free], fun _ => extended, by simp, fun failed => absurd failed proper⟩
    | replayed _ collides proper =>
      exact ⟨fun _ => by simp [collides], by simp, fun _ => rfl, fun failed => absurd failed proper⟩
    | failed _ failed error =>
      exact ⟨fun proper => absurd failed proper, by simp, by simp, fun _ => ⟨by simp, rfl⟩⟩
  · intro reposts once single sameOthers own body clean row
    have onceReposts : Reposts req once := by
      have ownPost : ∀ p, p ∈ once ∧ p.req.run = req.run ↔ p = single := by
        intro p
        rw [← @List.mem_singleton _ p single, ← own]
        simp [List.mem_filter]
      refine ⟨fun p member run => ?_, single, ((ownPost single).mpr rfl).1, body, clean⟩
      rw [(ownPost p).mp ⟨member, run⟩, body]
    rw [mem_results_iff, @mem_results_iff (postAll db once)]
    by_cases run : (row.sourceID, row.probeRunID) = req.run
    · rw [run, reposts.cellOf_own nonempty, onceReposts.cellOf_own nonempty]
    · rw [cellOf_postAll_other run, cellOf_postAll_other run db once, sameOthers]

/-- A run of the spoke with two observations. -/
def twoTargets (probeRunID : GoString) : ResultsRequest where
  sourceID := lit "spoke-1"
  probeRunID := probeRunID
  observedAt := 0
  results := [{ targetID := lit "hub-1", latencyMs := some 1 }, { targetID := lit "hub-2", error := lit "timeout" }]

/-- The disk is full at the second insert. -/
def diskFull : TxFaults where
  insert index := if index = 1 then some ⟨.other (lit "database or disk is full"), by decide⟩ else none

def firstRun (faults : TxFaults) : Post :=
  { nodeID := lit "spoke-1", req := twoTargets (lit "run-1"), faults, valid := by decide }

def secondRun : Post :=
  { nodeID := lit "spoke-1", req := twoTargets (lit "run-2"), valid := by decide }

/-- A post fails half-way, is repeated, and is repeated again after another run: the
failure leaves nothing, the last is answered 409, and the table ends as after one post. -/
theorem retried_run_stored_once :
    (persistResultsUnder .clean knownSpoke (twoTargets (lit "run-1"))).2 = .ok 201 ∧
    (persistResultsUnder .clean (postAll knownSpoke [firstRun diskFull, firstRun .clean, secondRun])
      (twoTargets (lit "run-1"))).2 = .ok 409 ∧
    ((∀ status, (persistResultsUnder diskFull knownSpoke (twoTargets (lit "run-1"))).2 ≠ .ok status) ∧
      (persistResultsUnder diskFull knownSpoke (twoTargets (lit "run-1"))).1 = knownSpoke) ∧
    created (twoTargets (lit "run-1")) knownSpoke
      [firstRun diskFull, firstRun .clean, secondRun, firstRun .clean] = 1 ∧
    ∀ row,
      row ∈ (postAll knownSpoke
        [firstRun diskFull, firstRun .clean, secondRun, firstRun .clean]).results.rows ↔
      row ∈ (postAll knownSpoke [secondRun, firstRun .clean]).results.rows := by
  have holds := results_ingested_once (firstRun .clean).valid
  have apart : (twoTargets (lit "run-2")).run ≠ (twoTargets (lit "run-1")).run := by decide
  have proper : ¬ FailsOtherwise .clean knownSpoke (twoTargets (lit "run-1")) :=
    clean_not_failsOtherwise (firstRun .clean).valid (by decide)
  have free : ¬ Collides knownSpoke (twoTargets (lit "run-1")) := by
    rintro ⟨row, present, _⟩
    cases present
  have again : ¬ FailsOtherwise .clean (postAll knownSpoke [firstRun diskFull, firstRun .clean, secondRun])
      (twoTargets (lit "run-1")) :=
    clean_not_failsOtherwise (firstRun .clean).valid (by decide)
  have taken : Collides (postAll knownSpoke [firstRun diskFull, firstRun .clean, secondRun])
      (twoTargets (lit "run-1")) :=
    ⟨resultRow (twoTargets (lit "run-1")) { targetID := lit "hub-1", latencyMs := some 1 }, by decide +kernel,
      by decide⟩
  refine ⟨((holds.1 .clean knownSpoke).1 proper).1.mpr free, ((holds.1 .clean _).1 again).2.mpr taken,
    (holds.1 diskFull knownSpoke).2.2.2 (by decide), by decide, ?_⟩
  refine (holds.2 _ _).2 ⟨?_, firstRun .clean, ?_, rfl, rfl⟩ _ (firstRun .clean) ?_ ?_ rfl rfl
  · intro p member run
    simp only [List.mem_cons, List.not_mem_nil, or_false] at member
    rcases member with rfl | rfl | rfl | rfl
    · rfl
    · rfl
    · exact absurd run apart
    · rfl
  · exact List.mem_cons_of_mem _ List.mem_cons_self
  · rfl
  · rfl

end NetLatencyMonitor.Controller
