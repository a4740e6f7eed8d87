import Mathlib.Algebra.GroupWithZero.Nat
import NetLatencyMonitor.Machine.Loop
import NetLatencyMonitor.Spool.Drain

/-! `enforceRetention` without interference. The footprint and the clock are read anew in
every round and may change in any way from one round to the next. -/

namespace NetLatencyMonitor.Spool

open Clock Machine Text

/-- What a round reads from outside the database. -/
structure Reading where
  size : Int
  now : Time
deriving DecidableEq, Repr

/-- `OldestAge`. -/
def oldestAge (db : SpoolDB) (now : Time) : Duration :=
  match db.minEnqueuedAt with
  | none => 0
  | some oldest => now - oldest * second

/-- The body of the loop. Every earlier round has dropped one row, so the number of the
round is the local `dropped`. -/
def retentionRound (cfg : Config) (reading : Nat → Reading) (dropped : Nat) (db : SpoolDB) :
    Round SpoolDB (SpoolDB × Nat) :=
  let size := (reading dropped).size
  let age := oldestAge db (reading dropped).now
  if db.depth = 0 then .done (db, dropped)
  else if size ≤ cfg.maxSize ∧ age ≤ cfg.maxAge then .done (db, dropped)
  else
    let (after, removed) := db.deleteOldest
    if removed = 0 then .done (after, dropped) else .again after.bumpDrops

/-- The test that ends the loop. -/
def Stops (cfg : Config) (db : SpoolDB) (reading : Reading) : Prop :=
  db.depth = 0 ∨ (reading.size ≤ cfg.maxSize ∧ oldestAge db reading.now ≤ cfg.maxAge)

def enforceRetention (cfg : Config) (reading : Nat → Reading) (fuel : Nat) (db : SpoolDB) :
    Option (SpoolDB × Nat) :=
  loop (retentionRound cfg reading) fuel 0 db

/-- Both bounds hold once the `dropped` oldest rows are gone, or no row is left. -/
def WithinBounds (cfg : Config) (reading : Nat → Reading) (db : SpoolDB) (dropped : Nat) : Prop :=
  db.oldestFirst.drop dropped = [] ∨
    ((reading dropped).size ≤ cfg.maxSize ∧ ∀ oldest ∈ (db.oldestFirst.drop dropped).head?,
      (reading dropped).now - oldest.enqueuedAt * second ≤ cfg.maxAge)

/-- The database without its oldest rows, counted. -/
structure Trimmed (db : SpoolDB) (dropped : Nat) (after : SpoolDB) : Prop where
  rows : after.oldestFirst = db.oldestFirst.drop dropped
  drops : after.dropsTotal = db.dropsTotal + dropped
  lastDepth : after.lastDepth = db.lastDepth
  lastOldestAgeSecs : after.lastOldestAgeSecs = db.lastOldestAgeSecs
  lastDropsTotal : after.lastDropsTotal = db.lastDropsTotal

theorem Trimmed.start (db : SpoolDB) : Trimmed db 0 db :=
  ⟨rfl, (Int.add_zero _).symm, rfl, rfl, rfl⟩

/-- One more row is deleted and counted. -/
theorem Trimmed.next {db after : SpoolDB} {dropped : Nat} (trimmed : Trimmed db dropped after) :
    Trimmed db (dropped + 1) after.deleteOldest.1.bumpDrops := by
  obtain ⟨rows, drops, depth, age, total⟩ := trimmed
  have frame : after.deleteOldest.1.dropsTotal = after.dropsTotal ∧
      after.deleteOldest.1.lastDepth = after.lastDepth ∧
      after.deleteOldest.1.lastOldestAgeSecs = after.lastOldestAgeSecs ∧
      after.deleteOldest.1.lastDropsTotal = after.lastDropsTotal := by
    unfold SpoolDB.deleteOldest
    cases after.oldestFirst.head? with
    | none => exact ⟨rfl, rfl, rfl, rfl⟩
    | some row => exact ⟨rfl, rfl, rfl, rfl⟩
  refine ⟨?_, ?_, frame.2.1.trans depth, frame.2.2.1.trans age, frame.2.2.2.trans total⟩
  · show after.deleteOldest.1.oldestFirst = _
    rw [SpoolDB.oldestFirst_deleteOldest, rows, List.tail_drop]
  · show after.deleteOldest.1.dropsTotal + 1 = _
    rw [frame.1, drops, Int.add_assoc]
    rfl

section Cut

variable {db after : SpoolDB} {dropped : Nat}

theorem Trimmed.depth (trimmed : Trimmed db dropped after) : after.depth = db.depth - dropped := by
  rw [← SpoolDB.length_oldestFirst, trimmed.rows, List.length_drop, SpoolDB.length_oldestFirst]

/-- Every row is among the oldest that were dropped or is still there. -/
theorem Trimmed.dropped_or_kept {row : SpoolRow} (trimmed : Trimmed db dropped after)
    (present : row ∈ db.rows.rows) : row ∈ db.oldestFirst.take dropped ∨ row ∈ after.rows.rows := by
  have either := SpoolDB.mem_oldestFirst.mpr present
  rw [← List.take_append_drop dropped db.oldestFirst, List.mem_append, ← trimmed.rows,
    SpoolDB.mem_oldestFirst] at either
  exact either

/-- And not both. -/
theorem Trimmed.dropped_gone {row kept : SpoolRow} (trimmed : Trimmed db dropped after)
    (gone : row ∈ db.oldestFirst.take dropped) (present : kept ∈ after.rows.rows) : kept.id ≠ row.id := by
  intro same
  have ids := SpoolDB.oldestFirst_ids db
  rw [← List.take_append_drop dropped db.oldestFirst, List.map_append, ← trimmed.rows] at ids
  have here : kept.id ∈ after.oldestFirst.map SpoolRow.id :=
    List.mem_map_of_mem (SpoolDB.mem_oldestFirst.mpr present)
  exact (List.nodup_append.mp ids).2.2 row.id (List.mem_map_of_mem gone) kept.id here same.symm

end Cut

section Round

variable {cfg : Config} {reading : Nat → Reading} {dropped : Nat} {db start : SpoolDB}

private theorem oldestAge_le_iff {age : Duration} {now : Time} (filled : db.depth ≠ 0) :
    oldestAge db now ≤ age ↔ ∀ oldest ∈ db.oldestFirst.head?, now - oldest.enqueuedAt * second ≤ age := by
  unfold oldestAge SpoolDB.minEnqueuedAt
  cases order : db.oldestFirst with
  | nil =>
    rw [← SpoolDB.length_oldestFirst, order] at filled
    exact absurd rfl filled
  | cons first rest => simp

/-- What the stop test of a round says about the rows it started from. -/
theorem withinBounds_iff (trimmed : Trimmed start dropped db) :
    WithinBounds cfg reading start dropped ↔ Stops cfg db (reading dropped) := by
  have empty : db.depth = 0 ↔ start.oldestFirst.drop dropped = [] := by
    rw [← trimmed.rows, ← SpoolDB.length_oldestFirst, List.length_eq_zero_iff]
  unfold WithinBounds Stops
  by_cases filled : db.depth = 0
  · simp [filled, empty.mp filled]
  · rw [oldestAge_le_iff filled, trimmed.rows, empty]

theorem retentionRound_stops (stops : Stops cfg db (reading dropped)) :
    retentionRound cfg reading dropped db = .done (db, dropped) := by
  unfold retentionRound
  rcases stops with empty | both
  · rw [if_pos empty]
  · split
    · rfl
    · rw [if_pos both]

theorem retentionRound_drops (exceeds : ¬ Stops cfg db (reading dropped)) :
    retentionRound cfg reading dropped db = .again db.deleteOldest.1.bumpDrops := by
  obtain ⟨filled, bounds⟩ := not_or.mp exceeds
  have removed : db.deleteOldest.2 ≠ 0 := fun none => filled ((SpoolDB.deleteOldest_removed db).mp none)
  unfold retentionRound
  rw [if_neg filled, if_neg bounds]
  simp only [if_neg removed]

private theorem retentionRound_decreases {next : SpoolDB}
    (goesOn : retentionRound cfg reading dropped db = .again next) :
    next.depth < db.depth := by
  by_cases stops : Stops cfg db (reading dropped)
  · rw [retentionRound_stops stops] at goesOn
    cases goesOn
  · rw [retentionRound_drops stops] at goesOn
    cases goesOn
    have rows := (SpoolDB.depth_deleteOldest db).1
    have removed : db.deleteOldest.2 ≠ 0 := fun none => stops (Or.inl ((SpoolDB.deleteOldest_removed db).mp none))
    show db.deleteOldest.1.depth < db.depth
    omega

end Round

private theorem enforceRetention_returns (cfg : Config) (reading : Nat → Reading) (db : SpoolDB) (extra : Nat) :
    ∃ after dropped, enforceRetention cfg reading (db.depth + 1 + extra) db = some (after, dropped) := by
  have enough : db.depth < db.depth + 1 + extra := by omega
  obtain ⟨⟨after, dropped⟩, returned⟩ :=
    loop_returns SpoolDB.depth (fun _ _ _ goesOn => retentionRound_decreases goesOn) 0 enough
  exact ⟨after, dropped, returned⟩

/-- A result of the loop: the first round within the bounds has returned it. -/
theorem enforceRetention_least {cfg : Config} {reading : Nat → Reading} {db after : SpoolDB} {fuel dropped : Nat}
    (returned : enforceRetention cfg reading fuel db = some (after, dropped)) :
    WithinBounds cfg reading db dropped ∧ (∀ fewer < dropped, ¬ WithinBounds cfg reading db fewer) ∧
      Trimmed db dropped after := by
  refine loop_invariant
    (fun round state => (∀ fewer < round, ¬ WithinBounds cfg reading db fewer) ∧ Trimmed db round state)
    (fun result => WithinBounds cfg reading db result.2 ∧
      (∀ fewer < result.2, ¬ WithinBounds cfg reading db fewer) ∧ Trimmed db result.2 result.1)
    ?_ ?_ ⟨fun fewer before => absurd before (Nat.not_lt_zero fewer), Trimmed.start db⟩ returned
  · intro round state next ⟨above, trimmed⟩ goesOn
    have outside : ¬ Stops cfg state (reading round) := by
      intro stops
      rw [retentionRound_stops stops] at goesOn
      cases goesOn
    rw [retentionRound_drops outside] at goesOn
    cases goesOn
    refine ⟨fun fewer before => ?_, trimmed.next⟩
    rcases Nat.lt_succ_iff_lt_or_eq.mp before with earlier | rfl
    · exact above fewer earlier
    · exact fun within => outside ((withinBounds_iff trimmed).mp within)
  · intro round state result ⟨above, trimmed⟩ ended
    by_cases stops : Stops cfg state (reading round)
    · rw [retentionRound_stops stops] at ended
      cases ended
      exact ⟨(withinBounds_iff trimmed).mpr stops, above, trimmed⟩
    · rw [retentionRound_drops stops] at ended
      cases ended

theorem dropped_le_depth {cfg : Config} {reading : Nat → Reading} {db : SpoolDB} {dropped : Nat}
    (least : ∀ fewer < dropped, ¬ WithinBounds cfg reading db fewer) : dropped ≤ db.depth := by
  by_contra more
  refine least db.depth (Nat.lt_of_not_le more) (Or.inl ?_)
  rw [← SpoolDB.length_oldestFirst]
  exact List.drop_length

/-- `enforceRetention` returns, having dropped the least number of rows, oldest first, that brings
the spool within both bounds as it reads them, and counted each; nothing else changes. -/
theorem retention_drops_least_prefix (cfg : Config) (reading : Nat → Reading) (db : SpoolDB) (extra : Nat) :
    ∃ after dropped, enforceRetention cfg reading (db.depth + 1 + extra) db = some (after, dropped) ∧
      WithinBounds cfg reading db dropped ∧ (∀ fewer < dropped, ¬ WithinBounds cfg reading db fewer) ∧
      db.oldestFirst.Pairwise (fun left right => left.enqueuedAt ≤ right.enqueuedAt) ∧
      after.oldestFirst = db.oldestFirst.drop dropped ∧ after.dropsTotal = db.dropsTotal + dropped ∧
      after.lastDepth = db.lastDepth ∧ after.lastOldestAgeSecs = db.lastOldestAgeSecs ∧
      after.lastDropsTotal = db.lastDropsTotal := by
  obtain ⟨after, dropped, returned⟩ := enforceRetention_returns cfg reading db extra
  obtain ⟨within, least, trimmed⟩ := enforceRetention_least returned
  exact ⟨after, dropped, returned, within, least, Keyed.orderBy_sorted _ _, trimmed.rows, trimmed.drops,
    trimmed.lastDepth, trimmed.lastOldestAgeSecs, trimmed.lastDropsTotal⟩

/-! What the footprint is the size of: the files, not the rows. -/

/-- The sizes of the database file and of its `-wal` and `-shm` files, where they exist. -/
structure SpoolFiles where
  main : Option Nat
  wal : Option Nat
  shm : Option Nat
deriving DecidableEq, Repr

/-- `FootprintBytes`: a missing file is skipped. -/
def footprintBytes (files : SpoolFiles) : Int :=
  [files.main, files.wal, files.shm].foldl (fun total file => total + (file.getD 0 : Nat)) 0

/-- No file is smaller than it was. A `DELETE` without auto-vacuum only moves pages to
the free list, and the log grows by the pages it rewrites. -/
def SpoolFiles.NotShrunk (before after : SpoolFiles) : Prop :=
  before.main.getD 0 ≤ after.main.getD 0 ∧ before.wal.getD 0 ≤ after.wal.getD 0 ∧
    before.shm.getD 0 ≤ after.shm.getD 0

private theorem footprintBytes_mono {before after : SpoolFiles} (kept : before.NotShrunk after) :
    footprintBytes before ≤ footprintBytes after := by
  obtain ⟨main, wal, shm⟩ := kept
  simp only [footprintBytes, List.foldl_cons, List.foldl_nil]
  omega

/-- What `enforceRetention` reads of the files and of the clock. -/
def readingsOf (files : Nat → SpoolFiles) (clock : Nat → Time) (round : Nat) : Reading :=
  ⟨footprintBytes (files round), clock round⟩

section Size

variable {cfg : Config} {stored : SpoolRow → Nat} {files : Nat → SpoolFiles} {clock : Nat → Time}

private theorem footprint_stays_above (kept : ∀ round, (files round).NotShrunk (files (round + 1)))
    (exceeds : cfg.maxSize < footprintBytes (files 0)) (round : Nat) :
    cfg.maxSize < footprintBytes (files round) := by
  induction round with
  | zero => exact exceeds
  | succ round ih => exact Int.lt_of_lt_of_le ih (footprintBytes_mono (kept round))

/-- Once the footprint exceeds its bound, only the empty spool stops the loop. -/
theorem retention_empties {db after : SpoolDB} {fuel dropped : Nat}
    (kept : ∀ round, (files round).NotShrunk (files (round + 1)))
    (exceeds : cfg.maxSize < footprintBytes (files 0))
    (returned : enforceRetention cfg (readingsOf files clock) fuel db = some (after, dropped)) :
    after.oldestFirst = [] := by
  obtain ⟨within, _, trimmed⟩ := enforceRetention_least returned
  rw [trimmed.rows]
  rcases within with empty | ⟨small, _⟩
  · exact empty
  · exact absurd small (Int.not_le.mpr (footprint_stays_above kept exceeds dropped))

/-- The rows' stored data fits in `MaxSize`. -/
def Fits (cfg : Config) (stored : SpoolRow → Nat) (rows : List SpoolRow) : Prop :=
  ((rows.map stored).sum : Int) ≤ cfg.maxSize

/-- The longest run of newest rows that fits. -/
structure LongestFitting (cfg : Config) (stored : SpoolRow → Nat) (rows newest : List SpoolRow) : Prop where
  suffix : newest <:+ rows
  fits : Fits cfg stored newest
  longest : ∀ other, other <:+ rows → Fits cfg stored other → other.length ≤ newest.length

private theorem longestFitting_exists {rows fitting : List SpoolRow} (suffix : fitting <:+ rows)
    (fits : Fits cfg stored fitting) : ∃ newest, LongestFitting cfg stored rows newest := by
  induction rows with
  | nil =>
    rw [List.suffix_nil.mp suffix] at fits
    exact ⟨[], List.nil_suffix, fits, fun other ending _ => by rw [List.suffix_nil.mp ending]⟩
  | cons row rest ih =>
    by_cases all : Fits cfg stored (row :: rest)
    · exact ⟨row :: rest, List.suffix_rfl, all, fun other ending _ => ending.length_le⟩
    -- the whole list does not fit, so every suffix that does is one of the tail
    · have proper : ∀ other, other <:+ row :: rest → Fits cfg stored other → other <:+ rest := by
        intro other ending small
        rcases List.suffix_cons_iff.mp ending with rfl | later
        · exact absurd small all
        · exact later
      obtain ⟨newest, ending, small, longest⟩ := ih (proper fitting suffix fits)
      exact ⟨newest, ending.trans (List.suffix_cons row rest), small,
        fun other ending small => longest other (proper other ending small) small⟩

/-- What fits, fits without its older rows. -/
theorem fits_newest {rows : List SpoolRow} {newest : SpoolRow} (fits : Fits cfg stored rows)
    (last : rows.getLast? = some newest) : Fits cfg stored [newest] := by
  obtain ⟨older, same⟩ := List.getLast?_eq_some_iff.mp last
  subst rows
  unfold Fits at fits ⊢
  simp only [List.map_append, List.sum_append, List.map_cons, List.map_nil, List.sum_cons, List.sum_nil] at fits ⊢
  omega

end Size

/-- With files that do not shrink, retention for size keeps the longest run of newest rows
that fits exactly when that run is empty: the newest row alone is already too large. -/
theorem size_retention_keeps_fitting_iff (cfg : Config) (stored : SpoolRow → Nat) (files : Nat → SpoolFiles)
    (clock : Nat → Time) (db : SpoolDB) (extra : Nat)
    (kept : ∀ round, (files round).NotShrunk (files (round + 1)))
    (exceeds : cfg.maxSize < footprintBytes (files 0)) :
    (∃ after dropped,
      enforceRetention cfg (readingsOf files clock) (db.depth + 1 + extra) db = some (after, dropped) ∧
        ∀ newest, LongestFitting cfg stored db.oldestFirst newest → ∀ row ∈ newest, row ∈ after.rows.rows) ↔
      ∀ newest ∈ db.oldestFirst.getLast?, cfg.maxSize < stored newest := by
  constructor
  · intro ⟨after, dropped, returned, keeps⟩ newest last
    have emptied := retention_empties kept exceeds returned
    by_contra small
    obtain ⟨older, order⟩ := List.getLast?_eq_some_iff.mp last
    have fits : Fits cfg stored [newest] := by
      simpa [Fits] using Int.not_lt.mp small
    obtain ⟨run, longest⟩ := longestFitting_exists (order ▸ List.suffix_append older [newest]) fits
    have nonempty : run ≠ [] := by
      intro none
      have := longest.longest [newest] (order ▸ List.suffix_append older [newest]) fits
      simp [none] at this
    obtain ⟨row, member⟩ := List.exists_mem_of_ne_nil run nonempty
    have survivor := SpoolDB.mem_oldestFirst.mpr (keeps run longest row member)
    rw [emptied] at survivor
    cases survivor
  · intro large
    obtain ⟨after, dropped, returned⟩ := enforceRetention_returns cfg (readingsOf files clock) db extra
    refine ⟨after, dropped, returned, fun run longest row member => ?_⟩
    obtain ⟨last, ended⟩ : ∃ last, run.getLast? = some last :=
      ⟨_, List.getLast?_eq_some_getLast (List.ne_nil_of_mem member)⟩
    have newest : db.oldestFirst.getLast? = some last := by
      obtain ⟨older, order⟩ := longest.suffix
      rw [← order, List.getLast?_append, ended]
      rfl
    have small := fits_newest longest.fits ended
    exact absurd (large last newest) (by simpa [Fits] using small)

/-- The bytes of a row's two text columns. -/
def textBytes (row : SpoolRow) : Nat := row.probeRunID.length + row.payload.length

/-- Two runs, spooled in the first second of the day. -/
def twoRuns : SpoolDB where
  rows := ⟨[⟨1, 0, lit "run-1", lit "payload-1", 0, none, none⟩,
    ⟨2, 1, lit "run-2", lit "payload-2", 0, none, none⟩], by decide⟩
  seq := 2
  dropsTotal := 0
  lastDepth := 0
  lastOldestAgeSecs := 0
  lastDropsTotal := 0
  runsUnique := by decide
  sequenced := by decide

/-- Bounds of one day and of the given size. -/
def sizeBound (maxSize : Int) : Config where
  drainRows := 100
  maxAge := 86400 * second
  maxSize := maxSize
  backoffBase := second
  backoffMax := 60 * second

/-- A file that an outage has grown, and that no `VACUUM` shrinks again. -/
def grownFile : SpoolFiles := ⟨some 1200000, some 0, some 32768⟩

/-- Under the limit of one byte no row fits, and none has to be kept. -/
theorem one_byte_limit_keeps_what_fits :
    grownFile.NotShrunk grownFile ∧ 1 < footprintBytes grownFile ∧
      ∃ after dropped, enforceRetention (sizeBound 1) (readingsOf (fun _ => grownFile) (fun _ => 2 * second))
          (twoRuns.depth + 1 + 0) twoRuns = some (after, dropped) ∧
        ∀ newest, LongestFitting (sizeBound 1) textBytes twoRuns.oldestFirst newest →
          ∀ row ∈ newest, row ∈ after.rows.rows := by
  have kept : grownFile.NotShrunk grownFile := ⟨Nat.le_refl _, Nat.le_refl _, Nat.le_refl _⟩
  have exceeds : 1 < footprintBytes grownFile := by decide
  refine ⟨kept, exceeds, ?_⟩
  exact (size_retention_keeps_fitting_iff (sizeBound 1) textBytes (fun _ => grownFile) (fun _ => 2 * second)
    twoRuns 0 (fun _ => kept) exceeds).mpr (by decide)

/-- Two rows of 14 bytes each fit in 1 MiB, but the file is larger: both are dropped. -/
theorem grown_file_empties_spool :
    ¬ ∀ (cfg : Config) (files : Nat → SpoolFiles) (clock : Nat → Time) (db : SpoolDB) (extra : Nat),
      (∀ round, (files round).NotShrunk (files (round + 1))) → cfg.maxSize < footprintBytes (files 0) →
      (∀ row ∈ db.rows.rows, ∀ round, clock round - row.enqueuedAt * second < cfg.maxAge) →
      ∃ after dropped,
        enforceRetention cfg (readingsOf files clock) (db.depth + 1 + extra) db = some (after, dropped) ∧
          ∀ newest, LongestFitting cfg textBytes db.oldestFirst newest → ∀ row ∈ newest, row ∈ after.rows.rows := by
  intro always
  have kept : Nat → grownFile.NotShrunk grownFile := fun _ => ⟨Nat.le_refl _, Nat.le_refl _, Nat.le_refl _⟩
  have exceeds : 1048576 < footprintBytes grownFile := by decide
  have young : ∀ row ∈ twoRuns.rows.rows, 2 * second - row.enqueuedAt * second < 86400 * second := by decide
  obtain ⟨after, dropped, returned, keeps⟩ :=
    always (sizeBound 1048576) (fun _ => grownFile) (fun _ => 2 * second) twoRuns 0 kept exceeds
      (fun row present _ => young row present)
  have whole : LongestFitting (sizeBound 1048576) textBytes twoRuns.oldestFirst twoRuns.oldestFirst :=
    ⟨List.suffix_rfl, by unfold Fits; decide, fun other ending _ => ending.length_le⟩
  have first := keeps twoRuns.oldestFirst whole ⟨1, 0, lit "run-1", lit "payload-1", 0, none, none⟩ (by decide)
  have emptied := retention_empties kept exceeds returned
  rw [← SpoolDB.mem_oldestFirst, emptied] at first
  cases first

end NetLatencyMonitor.Spool
