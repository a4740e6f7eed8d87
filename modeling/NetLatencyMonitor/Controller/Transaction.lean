import NetLatencyMonitor.Controller.Persist

/-! The transaction of `persistResults` when statements can fail: what it answers, and that
it writes everything or nothing. -/

namespace NetLatencyMonitor.Controller

open Keyed Text

/-- A failure that no UNIQUE constraint causes: a cancelled request, a full disk, a
locked file. The driver's text for it is not that of a UNIQUE violation. -/
structure Fault where
  error : SqlError
  notUnique : isUniqueViolation error = false

/-- The faults one transaction runs into; `insert` has the position in the batch. -/
structure TxFaults where
  beginTx : Option Fault := none
  prepare : Option Fault := none
  insert : Nat → Option Fault := fun _ => none
  commit : Option Fault := none

def TxFaults.clean : TxFaults := {}

/-- The inserts of one payload from position `index` on, up to the first that fails. -/
def insertRowsUnder (faults : Nat → Option Fault) (index : Nat) (db : DB) :
    List ResultRow → Except SqlError DB
  | [] => .ok db
  | row :: rest =>
    match faults index with
    | some fault => .error fault.error
    | none =>
      match db.insertResult row with
      | .error error => .error error
      | .ok after => insertRowsUnder faults (index + 1) after rest

/-- `persistResults` with the database it leaves. Every return before the commit runs the
deferred rollback. -/
def persistResultsUnder (faults : TxFaults) (db : DB) (req : ResultsRequest) : DB × Except SqlError Nat :=
  match faults.beginTx with
  | some fault => (db, .error fault.error)
  | none =>
    match faults.prepare with
    | some fault => (db, .error fault.error)
    | none =>
      match insertRowsUnder faults.insert 0 db (resultRows req) with
      | .error error => (db, if isUniqueViolation error then .ok 409 else .error error)
      | .ok working =>
        match faults.commit with
        | some fault => (db, .error fault.error)
        | none => (working, .ok 201)

private theorem insertRowsUnder_clean (index : Nat) (db : DB) (rows : List ResultRow) :
    insertRowsUnder (fun _ => none) index db rows = insertRows db rows := by
  induction rows generalizing index db with
  | nil => rfl
  | cons row rest ih =>
    simp only [insertRowsUnder, insertRows]
    cases db.insertResult row with
    | error error => rfl
    | ok after => exact ih (index + 1) after

/-- Without faults it is the `persistResults` of the ingest. -/
theorem persistResultsUnder_clean (db : DB) (req : ResultsRequest) :
    persistResults db req =
      match persistResultsUnder .clean db req with
      | (after, .ok status) => .ok (after, status)
      | (_, .error error) => .error error := by
  unfold persistResults persistResultsUnder TxFaults.clean
  simp only [insertRowsUnder_clean]
  cases insertRows db (resultRows req) with
  | ok after => rfl
  | error error =>
    by_cases unique : isUniqueViolation error
    · simp only [unique, if_true]
    · simp only [unique, Bool.false_eq_true, if_false]

/-- A row of the table has the payload's run and one of its target ids. -/
def Collides (db : DB) (req : ResultsRequest) : Prop :=
  ∃ row ∈ db.results.rows, row.sourceID = req.sourceID ∧ row.probeRunID = req.probeRunID ∧
    row.targetID ∈ req.results.map ResultObservation.targetID

/-- A statement of the transaction fails, and not with a UNIQUE violation. -/
def FailsOtherwise (faults : TxFaults) (db : DB) (req : ResultsRequest) : Prop :=
  faults.beginTx.isSome ∨ faults.prepare.isSome ∨
    match insertRowsUnder faults.insert 0 db (resultRows req) with
    | .error error => error ≠ .unique
    | .ok _ => faults.commit.isSome

instance FailsOtherwise.decidable (faults : TxFaults) (db : DB) (req : ResultsRequest) :
    Decidable (FailsOtherwise faults db req) := by
  unfold FailsOtherwise
  cases insertRowsUnder faults.insert 0 db (resultRows req) with
  | error error => infer_instance
  | ok working => infer_instance

/-! What the inserts of a batch meet can be read off the table as it was before, because
the rows of a valid batch do not collide with each other. -/

def knows (db : DB) (sourceID : GoString) : Bool :=
  db.nodes.rows.any (fun node => decide (node.id = sourceID))

/-- The key of `row` is taken by one of `rows`. -/
def takenIn (rows : List ResultRow) (row : ResultRow) : Bool :=
  rows.any (fun other => decide (other.key = row.key))

/-- The first error of the inserts, from what is registered and taken before them. -/
def firstError (faults : Nat → Option Fault) (known : Bool) (taken : ResultRow → Bool) :
    Nat → List ResultRow → Option SqlError
  | _, [] => none
  | index, row :: rest =>
    match faults index with
    | some fault => some fault.error
    | none =>
      if taken row then some .unique
      else if known then firstError faults known taken (index + 1) rest
      else some .foreignKey

/-- The rows are appended and nothing else changes. -/
structure Extends (db : DB) (rows : List ResultRow) (after : DB) : Prop where
  results : after.results.rows = db.results.rows ++ rows
  nodes : after.nodes = db.nodes
  version : after.targetsVersion = db.targetsVersion

theorem takenIn_iff {rows : List ResultRow} {row : ResultRow} :
    takenIn rows row = true ↔ ∃ other ∈ rows, other.key = row.key := by
  simp [takenIn]

private theorem insertResult_taken {db : DB} {row : ResultRow} (taken : takenIn db.results.rows row = true) :
    db.insertResult row = .error .unique := by
  have refused := Table.insert?_eq_none_iff.mpr (takenIn_iff.mp taken)
  unfold DB.insertResult
  split
  · rfl
  · rename_i results inserted
    rw [refused] at inserted
    cases inserted

private theorem insert?_of_free {db : DB} {row : ResultRow} (free : takenIn db.results.rows row = false) :
    db.results.insert? row ≠ none := by
  intro refused
  have taken := takenIn_iff.mpr (Table.insert?_eq_none_iff.mp refused)
  rw [free] at taken
  cases taken

private theorem insertResult_unknown {db : DB} {row : ResultRow} (free : takenIn db.results.rows row = false)
    (unknown : knows db row.sourceID = false) : db.insertResult row = .error .foreignKey := by
  unfold DB.insertResult
  split
  · rename_i refused
    exact absurd refused (insert?_of_free free)
  · exact dif_neg (Bool.eq_false_iff.mp unknown)

private theorem insertResult_extends {db : DB} {row : ResultRow} (free : takenIn db.results.rows row = false)
    (known : knows db row.sourceID = true) :
    ∃ after, db.insertResult row = .ok after ∧ Extends db [row] after := by
  unfold DB.insertResult
  split
  · rename_i refused
    exact absurd refused (insert?_of_free free)
  · rename_i results inserted
    exact ⟨_, dif_pos known, (Table.insert?_eq_some_iff.mp inserted).2, rfl, rfl⟩

theorem firstError_congr {faults : Nat → Option Fault} {known : Bool} {taken other : ResultRow → Bool}
    {index : Nat} {rows : List ResultRow} (same : ∀ row ∈ rows, taken row = other row) :
    firstError faults known taken index rows = firstError faults known other index rows := by
  induction rows generalizing index with
  | nil => rfl
  | cons row rest ih =>
    simp only [firstError, same row List.mem_cons_self,
      @ih (index + 1) (fun later member => same later (List.mem_cons_of_mem row member))]

private theorem takenIn_append_other {rows : List ResultRow} {row other : ResultRow} (apart : row.key ≠ other.key) :
    takenIn (rows ++ [row]) other = takenIn rows other := by
  simp [takenIn, apart]

/-- The inserts of a batch without duplicates fail with the error read off the table
before them, and append the whole batch if there is none. -/
theorem insertRowsUnder_eq {faults : Nat → Option Fault} {index : Nat} {db : DB} {sourceID : GoString}
    {rows : List ResultRow} (own : ∀ row ∈ rows, row.sourceID = sourceID)
    (distinct : (rows.map ResultRow.key).Nodup) :
    match firstError faults (knows db sourceID) (takenIn db.results.rows) index rows with
    | some error => insertRowsUnder faults index db rows = .error error
    | none => ∃ after, insertRowsUnder faults index db rows = .ok after ∧ Extends db rows after := by
  induction rows generalizing index db with
  | nil => exact ⟨db, rfl, (List.append_nil _).symm, rfl, rfl⟩
  | cons row rest ih =>
    have source : row.sourceID = sourceID := own row List.mem_cons_self
    rw [List.map_cons, List.nodup_cons] at distinct
    simp only [firstError, insertRowsUnder]
    cases hit : faults index with
    | some fault => rfl
    | none =>
      cases free : takenIn db.results.rows row with
      | true => simp only [if_true, insertResult_taken free]
      | false =>
        cases known : knows db sourceID with
        | false => simp [insertResult_unknown free (source ▸ known)]
        | true =>
          obtain ⟨after, done, extended⟩ := insertResult_extends free (source ▸ known)
          have later := @ih (index + 1) after
            (fun other member => own other (List.mem_cons_of_mem row member)) distinct.2
          -- the row just stored takes no key of a later one
          have same : ∀ other ∈ rest, takenIn after.results.rows other = takenIn db.results.rows other := by
            intro other member
            rw [extended.results]
            exact takenIn_append_other (fun equal => distinct.1 (equal ▸ List.mem_map_of_mem member))
          have still : knows after sourceID = true := by rw [← known, knows, knows, extended.nodes]
          rw [still, firstError_congr same] at later
          simp only [Bool.false_eq_true, if_false, if_true, done]
          cases first : firstError faults true (takenIn db.results.rows) (index + 1) rest with
          | some error =>
            rw [first] at later
            exact later
          | none =>
            rw [first] at later
            obtain ⟨last, ran, rows⟩ := later
            refine ⟨last, ran, ?_, rows.nodes.trans extended.nodes, rows.version.trans extended.version⟩
            rw [rows.results, extended.results, List.append_assoc, List.singleton_append]

section FirstError

variable {faults : Nat → Option Fault} {known : Bool} {taken : ResultRow → Bool} {index : Nat}
  {rows : List ResultRow}

/-- What the code takes for a UNIQUE violation is one. -/
theorem firstError_unique {error : SqlError} (failed : firstError faults known taken index rows = some error)
    (unique : isUniqueViolation error = true) : error = .unique ∧ ∃ row ∈ rows, taken row = true := by
  induction rows generalizing index with
  | nil => cases failed
  | cons row rest ih =>
    simp only [firstError] at failed
    cases hit : faults index with
    | some fault =>
      rw [hit] at failed
      cases failed
      rw [fault.notUnique] at unique
      cases unique
    | none =>
      rw [hit] at failed
      cases free : taken row with
      | true =>
        simp only [free, if_true, Option.some.injEq] at failed
        exact ⟨failed.symm, row, List.mem_cons_self, free⟩
      | false =>
        cases known with
        | false =>
          simp only [free, Bool.false_eq_true, if_false, Option.some.injEq] at failed
          rw [← failed] at unique
          cases unique
        | true =>
          simp only [free, Bool.false_eq_true, if_false, if_true] at failed
          obtain ⟨violation, other, member, hits⟩ := ih failed
          exact ⟨violation, other, List.mem_cons_of_mem row member, hits⟩

/-- Inserts that go through are of free rows, and would without the faults too. -/
theorem firstError_none (passed : firstError faults known taken index rows = none) :
    (∀ row ∈ rows, taken row = false) ∧ ∀ start, firstError (fun _ => none) known taken start rows = none := by
  induction rows generalizing index with
  | nil => exact ⟨fun row member => (List.not_mem_nil member).elim, fun _ => rfl⟩
  | cons row rest ih =>
    simp only [firstError] at passed ⊢
    cases hit : faults index with
    | some fault =>
      rw [hit] at passed
      cases passed
    | none =>
      rw [hit] at passed
      cases free : taken row with
      | true => simp [free] at passed
      | false =>
        cases known with
        | false => simp [free] at passed
        | true =>
          simp only [free, Bool.false_eq_true, if_false, if_true] at passed ⊢
          obtain ⟨all, cleanly⟩ := ih passed
          refine ⟨fun other member => ?_, fun start => cleanly (start + 1)⟩
          rcases List.mem_cons.mp member with same | later
          · exact same ▸ free
          · exact all other later

private theorem firstError_registered {error : SqlError}
    (failed : firstError (fun _ => none) true taken index rows = some error) : error = .unique := by
  induction rows generalizing index with
  | nil => cases failed
  | cons row rest ih =>
    simp only [firstError, if_true] at failed
    split at failed
    · exact (Option.some.inj failed).symm
    · exact ih failed

end FirstError

theorem exists_resultRow {authNodeID : GoString} {req : ResultsRequest}
    (valid : validateResultsRequest authNodeID req = none) : ∃ row, row ∈ resultRows req := by
  obtain ⟨_, _, _, _, nonempty, _, _⟩ := validateResultsRequest_ok_iff.mp valid
  exact List.exists_mem_of_ne_nil _ (fun empty => nonempty (List.map_eq_nil_iff.mp empty))

theorem collides_iff {db : DB} {req : ResultsRequest} :
    Collides db req ↔ ∃ row ∈ resultRows req, takenIn db.results.rows row = true := by
  constructor
  · rintro ⟨row, present, source, run, target⟩
    obtain ⟨obs, member, same⟩ := List.mem_map.mp target
    refine ⟨resultRow req obs, List.mem_map_of_mem member, takenIn_iff.mpr ⟨row, present, ?_⟩⟩
    simp only [ResultRow.key, resultRow, source, run, same]
  · rintro ⟨row, member, taken⟩
    obtain ⟨obs, observed, same⟩ := List.mem_map.mp member
    obtain ⟨other, present, key⟩ := takenIn_iff.mp taken
    subst row
    have parts : other.sourceID = req.sourceID ∧ other.probeRunID = req.probeRunID ∧
        other.targetID = obs.targetID := by
      simpa [ResultRow.key, resultRow] using key
    exact ⟨other, present, parts.1, parts.2.1, parts.2.2 ▸ List.mem_map_of_mem observed⟩

/-- The transaction commits, read off the registration and the rows before it. -/
def accepts (faults : TxFaults) (req : ResultsRequest) (known : Bool) (rows : List ResultRow) : Bool :=
  faults.beginTx.isNone && faults.prepare.isNone &&
    (firstError faults.insert known (takenIn rows) 0 (resultRows req)).isNone && faults.commit.isNone

/-- The three ways an ingest ends. -/
inductive Ingested (faults : TxFaults) (db : DB) (req : ResultsRequest) : DB × Except SqlError Nat → Prop
  | created {after : DB} (accepted : accepts faults req (knows db req.sourceID) db.results.rows = true)
      (free : ¬ Collides db req) (proper : ¬ FailsOtherwise faults db req)
      (extended : Extends db (resultRows req) after) : Ingested faults db req (after, .ok 201)
  | replayed (refused : accepts faults req (knows db req.sourceID) db.results.rows = false)
      (collides : Collides db req) (proper : ¬ FailsOtherwise faults db req) :
      Ingested faults db req (db, .ok 409)
  | failed (refused : accepts faults req (knows db req.sourceID) db.results.rows = false)
      (otherwise : FailsOtherwise faults db req) (error : SqlError) :
      Ingested faults db req (db, .error error)

theorem persistResultsUnder_ingested {authNodeID : GoString} {req : ResultsRequest}
    (valid : validateResultsRequest authNodeID req = none) (faults : TxFaults) (db : DB) :
    Ingested faults db req (persistResultsUnder faults db req) := by
  obtain ⟨_, _, _, _, _, _, distinct⟩ := validateResultsRequest_ok_iff.mp valid
  have ran := @insertRowsUnder_eq faults.insert 0 db req.sourceID (resultRows req)
    (fun row member => (resultRows_run member).1) (resultRows_keys distinct)
  unfold persistResultsUnder
  cases begun : faults.beginTx with
  | some fault => exact .failed (by simp [accepts, begun]) (by simp [FailsOtherwise, begun]) _
  | none =>
    cases prepared : faults.prepare with
    | some fault => exact .failed (by simp [accepts, prepared]) (by simp [FailsOtherwise, prepared]) _
    | none =>
      cases first : firstError faults.insert (knows db req.sourceID) (takenIn db.results.rows) 0
          (resultRows req) with
      | some error =>
        rw [first] at ran
        have refused : accepts faults req (knows db req.sourceID) db.results.rows = false := by
          simp [accepts, first]
        simp only [ran]
        cases unique : isUniqueViolation error with
        | true =>
          rw [if_pos rfl]
          obtain ⟨violation, hit⟩ := firstError_unique first unique
          exact .replayed refused (collides_iff.mpr hit) (by simp [FailsOtherwise, begun, prepared, ran, violation])
        | false =>
          rw [if_neg Bool.false_ne_true]
          have other : error ≠ .unique := by
            rintro rfl
            cases unique
          exact .failed refused (by simp [FailsOtherwise, ran, other]) error
      | none =>
        rw [first] at ran
        obtain ⟨after, inserted, extended⟩ := ran
        have free : ¬ Collides db req := by
          intro collides
          obtain ⟨row, member, taken⟩ := collides_iff.mp collides
          rw [(firstError_none first).1 row member] at taken
          cases taken
        simp only [inserted]
        cases committed : faults.commit with
        | some fault =>
          exact .failed (by simp [accepts, committed]) (by simp [FailsOtherwise, inserted, committed]) _
        | none =>
          exact .created (by simp [accepts, begun, prepared, first, committed]) free
            (by simp [FailsOtherwise, begun, prepared, inserted, committed]) extended

/-- With the source registered and no fault, nothing but a collision can fail. -/
theorem clean_not_failsOtherwise {authNodeID : GoString} {req : ResultsRequest} {db : DB}
    (valid : validateResultsRequest authNodeID req = none) (known : knows db req.sourceID = true) :
    ¬ FailsOtherwise .clean db req := by
  intro otherwise
  obtain ⟨_, _, _, _, _, _, distinct⟩ := validateResultsRequest_ok_iff.mp valid
  have ran := @insertRowsUnder_eq TxFaults.clean.insert 0 db req.sourceID (resultRows req)
    (fun row member => (resultRows_run member).1) (resultRows_keys distinct)
  rw [known] at ran
  unfold FailsOtherwise at otherwise
  cases first : firstError TxFaults.clean.insert true (takenIn db.results.rows) 0 (resultRows req) with
  | some error =>
    rw [first] at ran
    rw [ran, firstError_registered first] at otherwise
    simp [TxFaults.clean] at otherwise
  | none =>
    rw [first] at ran
    obtain ⟨after, inserted, _⟩ := ran
    rw [inserted] at otherwise
    simp [TxFaults.clean] at otherwise

end NetLatencyMonitor.Controller
