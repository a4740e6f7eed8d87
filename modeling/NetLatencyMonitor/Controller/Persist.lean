import NetLatencyMonitor.Controller.Results

/-! What the transaction of `persistResults` does to the results of one run: it stores
the whole payload or nothing, and a collision means that the payload is stored. -/

namespace NetLatencyMonitor.Controller

open Keyed Text

/-- The results of one run of one source, in storage order. -/
def rowsOf (db : DB) (sourceID probeRunID : GoString) : List ResultRow :=
  db.results.rows.filter (fun row =>
    decide (row.sourceID = sourceID) && decide (row.probeRunID = probeRunID))

theorem mem_rowsOf {db : DB} {sourceID probeRunID : GoString} {row : ResultRow} :
    row ∈ rowsOf db sourceID probeRunID ↔
      row ∈ db.results.rows ∧ row.sourceID = sourceID ∧ row.probeRunID = probeRunID := by
  simp [rowsOf, List.mem_filter]

/-- Results are only added, and only to runs that have none. -/
def Grows (before after : DB) : Prop :=
  ∀ sourceID probeRunID, rowsOf before sourceID probeRunID = [] ∨
    rowsOf after sourceID probeRunID = rowsOf before sourceID probeRunID

theorem grows_of_results {before after : DB} (same : after.results = before.results) :
    Grows before after := by
  intro sourceID probeRunID
  right
  unfold rowsOf
  rw [same]

/-- The table holds the whole payload under its run, or nothing. -/
def AllOrNone (db : DB) (req : ResultsRequest) : Prop :=
  rowsOf db req.sourceID req.probeRunID = [] ∨
    rowsOf db req.sourceID req.probeRunID = resultRows req

theorem resultRows_run {req : ResultsRequest} {row : ResultRow} (member : row ∈ resultRows req) :
    row.sourceID = req.sourceID ∧ row.probeRunID = req.probeRunID := by
  obtain ⟨obs, _, same⟩ := List.mem_map.mp member
  subst row
  exact ⟨rfl, rfl⟩

theorem resultRows_filter_own (req : ResultsRequest) :
    (resultRows req).filter (fun row =>
      decide (row.sourceID = req.sourceID) && decide (row.probeRunID = req.probeRunID)) = resultRows req := by
  apply List.filter_eq_self.mpr
  intro row member
  obtain ⟨source, run⟩ := resultRows_run member
  simp [source, run]

theorem resultRows_filter_other {req : ResultsRequest} {sourceID probeRunID : GoString}
    (other : ¬ (sourceID = req.sourceID ∧ probeRunID = req.probeRunID)) :
    (resultRows req).filter (fun row =>
      decide (row.sourceID = sourceID) && decide (row.probeRunID = probeRunID)) = [] := by
  apply List.filter_eq_nil_iff.mpr
  intro row member
  obtain ⟨source, run⟩ := resultRows_run member
  simp only [Bool.and_eq_true, decide_eq_true_eq, not_and]
  intro sameSource sameRun
  exact other ⟨sameSource.symm.trans source, sameRun.symm.trans run⟩

theorem resultRows_keys {req : ResultsRequest}
    (distinct : (req.results.map ResultObservation.targetID).Nodup) :
    ((resultRows req).map ResultRow.key).Nodup := by
  have keys : (resultRows req).map ResultRow.key =
      (req.results.map ResultObservation.targetID).map
        (fun targetID => (req.sourceID, req.probeRunID, targetID)) := by
    simp only [resultRows, List.map_map]
    rfl
  rw [keys]
  refine distinct.map ?_
  intro left right same
  cases same
  rfl

/-! One `INSERT INTO probe_results`. -/

theorem insertResult_ok {db after : DB} {row : ResultRow} (done : db.insertResult row = .ok after) :
    after.results.rows = db.results.rows ++ [row] ∧ ∀ other ∈ db.results.rows, other.key ≠ row.key := by
  unfold DB.insertResult at done
  split at done
  · cases done
  · rename_i results inserted
    obtain ⟨missing, rows⟩ := Table.insert?_eq_some_iff.mp inserted
    split at done
    · cases done
      exact ⟨rows, Table.find?_eq_none_iff.mp missing⟩
    · cases done

theorem insertResult_conflict {db : DB} {row : ResultRow} {error : SqlError}
    (failed : db.insertResult row = .error error) (conflict : isUniqueViolation error = true) :
    ∃ other ∈ db.results.rows, other.key = row.key := by
  unfold DB.insertResult at failed
  split at failed
  · rename_i taken
    exact Table.insert?_eq_none_iff.mp taken
  · split at failed
    · cases failed
    · cases failed
      cases conflict

/-- A transaction that still has the rows `remaining` to insert: `working` is `db` with
the others, none of which was there. -/
def Inserting (db : DB) (req : ResultsRequest) (working : DB) (remaining : List ResultRow) : Prop :=
  ∃ done, resultRows req = done ++ remaining ∧ working.results.rows = db.results.rows ++ done ∧
    (done = [] ∨ rowsOf db req.sourceID req.probeRunID = [])

section Transaction

variable {db working after : DB} {req : ResultsRequest} {row : ResultRow} {rest : List ResultRow}

theorem inserting_begin (db : DB) (req : ResultsRequest) : Inserting db req db (resultRows req) :=
  ⟨[], rfl, (List.append_nil _).symm, Or.inl rfl⟩

theorem Inserting.insert (whole : AllOrNone db req) (inserting : Inserting db req working (row :: rest))
    (inserted : working.insertResult row = .ok after) : Inserting db req after rest := by
  obtain ⟨done, rows, extended, fresh⟩ := inserting
  obtain ⟨added, free⟩ := insertResult_ok inserted
  have none : rowsOf db req.sourceID req.probeRunID = [] := by
    rcases fresh with first | none
    · rcases whole with none | stored
      · exact none
      -- the run's rows are there, so the first insert would have collided
      · subst done
        have member : row ∈ rowsOf db req.sourceID req.probeRunID := by
          rw [stored, rows]
          exact List.mem_cons_self
        have present : row ∈ working.results.rows := by
          rw [extended, List.append_nil]
          exact (mem_rowsOf.mp member).1
        exact absurd rfl (free row present)
    · exact none
  refine ⟨done ++ [row], ?_, ?_, Or.inr none⟩
  · rw [rows, List.append_assoc, List.singleton_append]
  · rw [added, extended, List.append_assoc]

/-- A UNIQUE violation is with a stored row, so the whole payload is stored. -/
theorem Inserting.conflict (whole : AllOrNone db req)
    (distinct : (req.results.map ResultObservation.targetID).Nodup)
    (inserting : Inserting db req working (row :: rest))
    (taken : ∃ other ∈ working.results.rows, other.key = row.key) :
    rowsOf db req.sourceID req.probeRunID = resultRows req := by
  obtain ⟨done, rows, extended, _⟩ := inserting
  obtain ⟨other, present, same⟩ := taken
  have keys := resultRows_keys distinct
  have run : row.sourceID = req.sourceID ∧ row.probeRunID = req.probeRunID :=
    resultRows_run (by rw [rows]; exact List.mem_append_right _ List.mem_cons_self)
  rw [extended] at present
  rcases List.mem_append.mp present with stored | own
  · have source : other.sourceID = row.sourceID := congrArg Prod.fst same
    have probeRun : other.probeRunID = row.probeRunID := congrArg (fun key => key.2.1) same
    have member : other ∈ rowsOf db req.sourceID req.probeRunID :=
      mem_rowsOf.mpr ⟨stored, source.trans run.1, probeRun.trans run.2⟩
    rcases whole with none | all
    · rw [none] at member
      cases member
    · exact all
  · rw [rows, List.map_append, List.map_cons] at keys
    have apart := (List.nodup_append.mp keys).2.2 _ (List.mem_map_of_mem own) _ List.mem_cons_self
    exact absurd same apart

/-- After the last insert the payload is stored, and nothing else has changed. -/
theorem Inserting.complete (nonempty : req.results ≠ []) (inserting : Inserting db req working []) :
    rowsOf working req.sourceID req.probeRunID = resultRows req ∧ Grows db working ∧
      ∀ sourceID probeRunID, ¬ (sourceID = req.sourceID ∧ probeRunID = req.probeRunID) →
        rowsOf working sourceID probeRunID = rowsOf db sourceID probeRunID := by
  obtain ⟨done, rows, extended, fresh⟩ := inserting
  rw [List.append_nil] at rows
  subst done
  have none : rowsOf db req.sourceID req.probeRunID = [] := by
    rcases fresh with empty | none
    · exact absurd (List.map_eq_nil_iff.mp empty) nonempty
    · exact none
  have own : rowsOf working req.sourceID req.probeRunID = resultRows req := by
    unfold rowsOf at none ⊢
    rw [extended, List.filter_append, none, resultRows_filter_own, List.nil_append]
  have others : ∀ sourceID probeRunID, ¬ (sourceID = req.sourceID ∧ probeRunID = req.probeRunID) →
      rowsOf working sourceID probeRunID = rowsOf db sourceID probeRunID := by
    intro sourceID probeRunID other
    unfold rowsOf
    rw [extended, List.filter_append, resultRows_filter_other other, List.append_nil]
  refine ⟨own, fun sourceID probeRunID => ?_, others⟩
  by_cases same : sourceID = req.sourceID ∧ probeRunID = req.probeRunID
  · obtain ⟨rfl, rfl⟩ := same
    exact Or.inl none
  · exact Or.inr (others sourceID probeRunID same)

end Transaction

/-- A success of `persistResults` is a commit of all rows or a replay that changed nothing. -/
theorem persistResults_ok_iff {db after : DB} {req : ResultsRequest} {status : Nat} :
    persistResults db req = .ok (after, status) ↔
      (insertRows db (resultRows req) = .ok after ∧ status = 201) ∨
        ∃ error, insertRows db (resultRows req) = .error error ∧ isUniqueViolation error = true ∧
          after = db ∧ status = 409 := by
  cases ran : insertRows db (resultRows req) with
  | ok stored => simp [persistResults, ran, @eq_comm _ 201]
  | error error =>
    by_cases conflict : isUniqueViolation error = true
    · simp [persistResults, ran, conflict, @eq_comm _ db, @eq_comm _ 409]
    · simp [persistResults, ran, conflict]

private theorem persistResults_status {db after : DB} {req : ResultsRequest} {status : Nat}
    (done : persistResults db req = .ok (after, status)) : status = 201 ∨ status = 409 := by
  rcases persistResults_ok_iff.mp done with ⟨_, created⟩ | ⟨_, _, _, _, replayed⟩
  · exact .inl created
  · exact .inr replayed

/-- 422 is for payloads that do not decode or do not validate, and only for these. -/
theorem handleResults_unprocessable_iff {nodeID : GoString} {req : ResultsRequest} {now : Clock.Time}
    {ingest : Ingest} :
    (handleResults nodeID (.ok req) now ingest).2.status = 422 ↔
      validateResultsRequest nodeID req ≠ none := by
  cases checked : validateResultsRequest nodeID req with
  | some error => simp [handleResults, checked, ResultsReply.status]
  | none =>
    cases done : persistResults ingest.db req with
    | error error => simp [handleResults, checked, done, ResultsReply.status]
    | ok result =>
      have status := persistResults_status done
      simp only [handleResults, checked, done, ResultsReply.status, ne_eq, not_true_eq_false, iff_false]
      omega

end NetLatencyMonitor.Controller
