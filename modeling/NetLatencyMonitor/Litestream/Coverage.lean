import NetLatencyMonitor.Litestream.Watcher

/-! Which lines of the journal a watcher parses, and how often. The resume point is the
clock at the start of a poll, cut to whole seconds, whether or not the poll's call of
`journalctl` succeeds. -/

namespace NetLatencyMonitor.Litestream

open Clock Machine Text

/-- The settings of `NewWatcher` that matter here. -/
structure WatcherConfig where
  pollInterval : Duration
  initialLookback : Duration
deriving DecidableEq, Repr

/-- The lookback of the first poll, with the defaults for settings that are not positive. -/
def WatcherConfig.lookback (cfg : WatcherConfig) : Duration :=
  let pollInterval := if cfg.pollInterval ≤ 0 then Litestream.pollInterval else cfg.pollInterval
  if cfg.initialLookback ≤ 0 then pollInterval else cfg.initialLookback

def configuredWatcher (lagMax : Duration) (cfg : WatcherConfig) (clock : Time) : Watcher where
  tracker := newTracker lagMax
  initialLookback := cfg.lookback
  clock := clock

private theorem WatcherConfig.lookback_pos (cfg : WatcherConfig) : 0 < cfg.lookback := by
  have positive : 0 < Litestream.pollInterval := by decide
  unfold WatcherConfig.lookback
  by_cases given : cfg.initialLookback ≤ 0
  · by_cases interval : cfg.pollInterval ≤ 0
    · simp only [given, interval, if_true]
      exact positive
    · simp only [given, interval, if_true, if_false]
      exact Int.not_le.mp interval
  · simp only [given, if_false]
    exact Int.not_le.mp given

/-! What the steps of a run say about its polls, whatever the watcher makes of them. -/

/-- The last reading of the clock, where the first poll's lookback starts, and the instant
of the last successful call of `journalctl`. -/
structure Schedule where
  reading : Option Time := none
  first : Option Time := none
  last : Option Time := none
deriving DecidableEq, Repr

def Schedule.after (lookback : Duration) (schedule : Schedule) : Time × PollStep → Schedule
  | (now, .readClock) =>
    { schedule with reading := some now, first := schedule.first.or (some (now - lookback)) }
  | (now, .journalctl false) => { schedule with last := some now }
  | _ => schedule

def scheduleOf (lookback : Duration) (steps : List (Time × PollStep)) : Schedule :=
  steps.foldl (Schedule.after lookback) {}

private theorem scheduleOf_concat (lookback : Duration) (steps : List (Time × PollStep)) (step : Time × PollStep) :
    scheduleOf lookback (steps ++ [step]) = (scheduleOf lookback steps).after lookback step :=
  List.foldl_concat ..

/-- Between the first poll's lookback start and the last successful poll. -/
def Schedule.spans (schedule : Schedule) (line : Line) : Bool :=
  match schedule.first, schedule.last with
  | some first, some last => decide (first ≤ line.stamp) && decide (line.stamp ≤ last)
  | _, _ => false

/-- Stamped after the last successful call, or from the lookback start on before the
first. -/
def Schedule.unread (schedule : Schedule) (line : Line) : Bool :=
  match schedule.last with
  | some last => decide (last < line.stamp)
  | none => schedule.first.all (fun first => decide (first ≤ line.stamp))

/-- Every line of the span was parsed once, and the errors are those of the span. -/
structure ProcessedOnce (journal : List Line) (schedule : Schedule) (o : Observed) : Prop where
  once : ∀ line ∈ journal, schedule.spans line = true → (o.parsed.map Prod.snd).count line = journal.count line
  errors : o.watcher.tracker.errors = (journal.filter schedule.spans).countP (fun line => isErr line.text)

/-- No line is stamped where a step loses it or has it read twice. A reading is cut to its
whole second, so there is none in the part of a second before the first poll's lookback,
and none from the second of a poll's reading to its call. A call that fails leaves no
unread line before the second of its poll's reading. What a call returns fits the
scanner's buffer. -/
def LinesApart (journal : List Line) (lookback : Duration) (schedule : Schedule) : Time × PollStep → Prop
  | (now, .readClock) => schedule.reading = none → ∀ line ∈ journal,
      toSql (now - lookback) * second ≤ line.stamp → now - lookback ≤ line.stamp
  | (_, .journalctl true) => ∀ reading ∈ schedule.reading, ∀ line ∈ journal,
      schedule.unread line = true → toSql reading * second ≤ line.stamp
  | (now, .journalctl false) => ∀ reading ∈ schedule.reading, ∀ line ∈ journal,
      (toSql reading * second ≤ line.stamp → now < line.stamp) ∧
        (schedule.unread line = true → line.stamp ≤ now → line.text.length < 65536)
  | _ => True

instance (journal : List Line) (lookback : Duration) (schedule : Schedule) (step : Time × PollStep) :
    Decidable (LinesApart journal lookback schedule step) :=
  match step with
  | (_, .readClock) => inferInstanceAs (Decidable (_ → _))
  | (_, .journalctl true) => inferInstanceAs (Decidable (∀ reading ∈ schedule.reading, _))
  | (_, .journalctl false) => inferInstanceAs (Decidable (∀ reading ∈ schedule.reading, _))
  | (_, .systemctl _) => inferInstanceAs (Decidable True)
  | (_, .parse) => inferInstanceAs (Decidable True)

/-- The condition at every step, in terms of the steps before it. -/
def KeptApart (journal : List Line) (lookback : Duration) (steps : List (Time × PollStep)) : Prop :=
  Along (fun schedule step => some (Schedule.after lookback schedule step)) (LinesApart journal lookback) {} steps

private theorem exec_schedule (lookback : Duration) (steps : List (Time × PollStep)) :
    exec (fun schedule step => some (Schedule.after lookback schedule step)) {} steps =
      some (scheduleOf lookback steps) := by
  induction steps using List.reverseRecOn with
  | nil => rfl
  | append_singleton past step ih => rw [exec_append, ih, scheduleOf_concat]; rfl

private theorem keptApart_concat_iff {journal : List Line} {lookback : Duration} {steps : List (Time × PollStep)}
    {step : Time × PollStep} : KeptApart journal lookback (steps ++ [step]) ↔
      KeptApart journal lookback steps ∧ LinesApart journal lookback (scheduleOf lookback steps) step :=
  along_concat_iff (exec_schedule lookback steps)

/-- The `since` of the call a poll is about to make. -/
def Phase.asked : Phase → Option Time
  | .journal since => some since
  | _ => none

@[simp] theorem asked_scanning (out : List Line) : (Phase.scanning out).asked = none := by
  cases out with
  | nil => rfl
  | cons next rest => rfl

/-- Where the next call of `journalctl` starts, once the clock has been read. -/
def Watcher.resumesAt (w : Watcher) : Time := w.phase.asked.getD w.lastPoll

/-! Runs whose lines are apart. -/

section Covered

variable {journal : List Line} {schedule : Schedule} {o after : Observed} {step : Time × PollStep}

/-- Before the first reading of the clock the schedule is empty. After it, the watcher
resumes exactly before the unread lines. -/
inductive Placed (journal : List Line) (schedule : Schedule) (w : Watcher) : Prop where
  | unpolled (fresh : w.lastPoll = zeroTime) (empty : schedule = {}) (unasked : w.phase.asked = none)
  | polled (first : Time) (taken : zeroTime < w.lastPoll) (reading : schedule.reading = some w.lastPoll)
      (started : schedule.first = some first) (ordered : first ≤ w.lastPoll) (past : w.lastPoll ≤ w.clock)
      (asked : ∀ since ∈ w.phase.asked, since ≤ w.lastPoll)
      (called : ∀ last ∈ schedule.last, first ≤ last ∧ last ≤ w.clock)
      (resumes : ∀ line ∈ journal, toSql w.resumesAt * second ≤ line.stamp ↔ schedule.unread line = true)

/-- What was parsed or is about to be is the span, line by line. -/
structure Covered (journal : List Line) (schedule : Schedule) (o : Observed) : Prop where
  lookback : 0 < o.watcher.initialLookback
  clock : zeroTime < o.watcher.clock
  placed : Placed journal schedule o.watcher
  read : (o.parsed.map Prod.snd ++ o.watcher.phase.pending).Perm (journal.filter schedule.spans)
  errors : o.watcher.tracker.errors = (o.parsed.map Prod.snd).countP (fun line => isErr line.text)

private theorem called_by {first clock now : Time} (called : ∀ last ∈ schedule.last, first ≤ last ∧ last ≤ clock)
    (later : clock ≤ now) : ∀ last ∈ schedule.last, first ≤ last ∧ last ≤ now := by
  intro last fetched
  obtain ⟨begun, before⟩ := called last fetched
  exact ⟨begun, Int.le_trans before later⟩

private theorem covered_start (lagMax : Duration) (cfg : WatcherConfig) (clock : Reading) :
    Covered journal {} { watcher := configuredWatcher lagMax cfg clock } where
  lookback := cfg.lookback_pos
  clock := clock.2
  placed := .unpolled rfl rfl rfl
  read := by
    have nothing : journal.filter (Schedule.spans {}) = [] :=
      List.filter_eq_nil_iff.mpr (fun _ _ inside => nomatch inside)
    rw [nothing]
    exact .refl _
  errors := rfl

/-- A call that starts before the unread lines returns exactly those, up to the call. -/
theorem fetched_eq {now since : Time}
    (resumes : ∀ line ∈ journal, toSql since * second ≤ line.stamp ↔ schedule.unread line = true)
    (fits : ∀ line ∈ journal, schedule.unread line = true → line.stamp ≤ now → line.text.length < 65536) :
    scan (journalctl journal since now) =
      journal.filter (fun line => schedule.unread line && decide (line.stamp ≤ now)) := by
  have whole : scan (journalctl journal since now) = journalctl journal since now := by
    refine List.takeWhile_eq_self_iff.mpr (fun line returned => ?_)
    obtain ⟨present, late, past⟩ := mem_journalctl.mp returned
    exact decide_eq_true (fits line present ((resumes line present).mp late) past)
  rw [whole, journalctl]
  refine List.filter_congr (fun line present => ?_)
  have same : decide (toSql since * second ≤ line.stamp) = schedule.unread line :=
    Bool.eq_iff_iff.mpr (decide_eq_true_iff.trans (resumes line present))
  rw [same]

/-- A line of the span up to a new call is in the old span, or unread. -/
theorem spans_or_unread {first now : Time} (started : schedule.first = some first)
    (lastPast : ∀ last ∈ schedule.last, first ≤ last ∧ last ≤ now) (line : Line) :
    (schedule.spans line = true → first ≤ line.stamp ∧ line.stamp ≤ now) ∧
      ((schedule.spans line = false ∧ first ≤ line.stamp ∧ line.stamp ≤ now) ↔
        schedule.unread line = true ∧ line.stamp ≤ now) := by
  cases called : schedule.last with
  | none =>
    have outside : schedule.spans line = false := by simp only [Schedule.spans, started, called]
    have unread : schedule.unread line = decide (first ≤ line.stamp) := by
      simp only [Schedule.unread, started, called, Option.all_some]
    rw [outside, unread, decide_eq_true_iff]
    exact ⟨fun inside => absurd inside Bool.false_ne_true, by simp⟩
  | some last =>
    obtain ⟨begun, past⟩ := lastPast last called
    have inside : schedule.spans line = (decide (first ≤ line.stamp) && decide (line.stamp ≤ last)) := by
      simp only [Schedule.spans, started, called]
    have unread : schedule.unread line = decide (last < line.stamp) := by simp only [Schedule.unread, called]
    rw [inside, unread, Bool.and_eq_true, Bool.and_eq_false_iff, decide_eq_true_iff, decide_eq_true_iff,
      decide_eq_false_iff_not, decide_eq_false_iff_not, decide_eq_true_iff]
    lia

private theorem filter_span {first now : Time} (started : schedule.first = some first)
    (lastPast : ∀ last ∈ schedule.last, first ≤ last ∧ last ≤ now) :
    (journal.filter schedule.spans ++
        journal.filter (fun line => schedule.unread line && decide (line.stamp ≤ now))).Perm
      (journal.filter (fun line => decide (first ≤ line.stamp) && decide (line.stamp ≤ now))) := by
  have parts := List.filter_append_perm schedule.spans
    (journal.filter (fun line => decide (first ≤ line.stamp) && decide (line.stamp ≤ now)))
  rw [List.filter_filter, List.filter_filter] at parts
  have old : journal.filter (fun line => schedule.spans line &&
      (decide (first ≤ line.stamp) && decide (line.stamp ≤ now))) = journal.filter schedule.spans := by
    refine List.filter_congr (fun line _ => Bool.eq_iff_iff.mpr ?_)
    have bounded := (spans_or_unread started lastPast line).1
    rw [Bool.and_eq_true, Bool.and_eq_true, decide_eq_true_iff, decide_eq_true_iff]
    exact ⟨And.left, fun inside => ⟨inside, bounded inside⟩⟩
  have new : journal.filter (fun line => !schedule.spans line &&
      (decide (first ≤ line.stamp) && decide (line.stamp ≤ now))) =
      journal.filter (fun line => schedule.unread line && decide (line.stamp ≤ now)) := by
    refine List.filter_congr (fun line _ => Bool.eq_iff_iff.mpr ?_)
    rw [Bool.and_eq_true, Bool.and_eq_true, Bool.and_eq_true, Bool.not_eq_true', decide_eq_true_iff,
      decide_eq_true_iff]
    exact (spans_or_unread started lastPast line).2
  rw [← old, ← new]
  simpa using parts

private theorem errors_recordSync (status : Status) (time now : Time) :
    (status.recordSync time now).errors = status.errors := by
  unfold Status.recordSync
  generalize (if time = zeroTime then now else time) = synced
  simp only
  split
  · rfl
  · rfl

/-- Parsing counts an error line, and nothing else. -/
theorem errors_parseLine (now : Time) (line : Line) (tracker : Status) :
    (parseLine now line.text tracker).errors = tracker.errors + [line].countP (fun line => isErr line.text) := by
  rw [List.countP_singleton, parseLine]
  by_cases failed : isErr line.text = true
  · rw [if_pos failed, if_pos failed]
    rfl
  · rw [if_neg failed, if_neg failed]
    split
    · exact errors_recordSync tracker zeroTime now
    · rfl

/-- The first poll fixes where the span starts, and later ones leave it. -/
theorem covered_window {now : Time} (held : Covered journal schedule o) (taken : o.watcher.phase = .clock)
    (later : o.watcher.clock ≤ now)
    (apart : LinesApart journal o.watcher.initialLookback schedule (now, .readClock)) :
    Covered journal (schedule.after o.watcher.initialLookback (now, .readClock))
      { o with
        watcher := { o.watcher with
          lastPoll := now
          phase := .journal
            (if o.watcher.lastPoll = zeroTime then now - o.watcher.initialLookback else o.watcher.lastPoll)
          clock := now } } := by
  obtain ⟨lookback, clock, placed, read, errors⟩ := held
  rw [taken] at read
  cases placed with
  | unpolled fresh empty unasked =>
    subst empty
    rw [if_pos fresh]
    refine ⟨lookback, Int.lt_of_lt_of_le clock later, ?_, read, errors⟩
    refine .polled (now - o.watcher.initialLookback) (Int.lt_of_lt_of_le clock later) rfl rfl ?_ (Int.le_refl now)
      ?_ (fun _ none => nomatch none) (fun line present => ?_)
    · show now - o.watcher.initialLookback ≤ now
      lia
    · rintro _ ⟨⟩
      show now - o.watcher.initialLookback ≤ now
      lia
    · have unread : Schedule.unread (Schedule.after o.watcher.initialLookback {} (now, .readClock)) line =
          decide (now - o.watcher.initialLookback ≤ line.stamp) := rfl
      rw [unread, decide_eq_true_iff]
      constructor
      · exact apart rfl line present
      · exact Int.le_trans (toSql_le _)
  | polled first polledBefore reading started ordered past asked called resumes =>
    have kept : schedule.after o.watcher.initialLookback (now, .readClock) = { schedule with reading := some now } := by
      simp only [Schedule.after, started, Option.some_or]
    have same : o.watcher.resumesAt = o.watcher.lastPoll := by
      simp only [Watcher.resumesAt, taken, Phase.asked, Option.getD_none]
    rw [kept, if_neg (Int.ne_of_gt polledBefore)]
    rw [same] at resumes
    refine ⟨lookback, Int.lt_of_lt_of_le clock later, ?_, read, errors⟩
    refine .polled first (Int.lt_of_lt_of_le clock later) rfl started ?_ (Int.le_refl now) ?_
      (called_by called later) resumes
    · exact Int.le_trans ordered (Int.le_trans past later)
    · rintro _ ⟨⟩
      exact Int.le_trans past later

/-- A call that fails moves the resume point on, past no unread line. -/
theorem covered_fail {now since : Time} (held : Covered journal schedule o)
    (apart : LinesApart journal o.watcher.initialLookback schedule (now, .journalctl true))
    (asked : o.watcher.phase = .journal since) (later : o.watcher.clock ≤ now) :
    Covered journal schedule { o with watcher := { o.watcher with phase := .idle, clock := now } } := by
  obtain ⟨lookback, clock, placed, read, errors⟩ := held
  rw [asked] at read
  refine ⟨lookback, Int.lt_of_lt_of_le clock later, ?_, read, errors⟩
  cases placed with
  | unpolled fresh empty unasked =>
    rw [asked] at unasked
    cases unasked
  | polled first taken reading started ordered past before called resumes =>
    have same : o.watcher.resumesAt = since := by
      simp only [Watcher.resumesAt, asked, Phase.asked, Option.getD_some]
    have forward : since ≤ o.watcher.lastPoll := before since (by rw [asked]; rfl)
    rw [same] at resumes
    refine .polled first taken reading started ordered (Int.le_trans past later) (fun _ none => nomatch none)
      (called_by called later) (fun line present => ?_)
    constructor
    · intro late
      refine (resumes line present).mp (Int.le_trans ?_ late)
      exact Int.mul_le_mul_of_nonneg_right (toSql_mono forward) (by decide)
    · exact apart o.watcher.lastPoll reading line present

/-- A successful call completes the span, and what it did not return is still to come. -/
theorem covered_fetch {now since : Time} (held : Covered journal schedule o)
    (apart : LinesApart journal o.watcher.initialLookback schedule (now, .journalctl false))
    (asked : o.watcher.phase = .journal since) (later : o.watcher.clock ≤ now) :
    Covered journal { schedule with last := some now }
      { o with
        watcher := { o.watcher with phase := .scanning (scan (journalctl journal since now)), clock := now } } := by
  obtain ⟨lookback, clock, placed, read, errors⟩ := held
  cases placed with
  | unpolled fresh empty unasked =>
    rw [asked] at unasked
    cases unasked
  | polled first taken reading started ordered past before called resumes =>
    have same : o.watcher.resumesAt = since := by
      simp only [Watcher.resumesAt, asked, Phase.asked, Option.getD_some]
    have reached : o.watcher.lastPoll ≤ now := Int.le_trans past later
    have quiet := apart o.watcher.lastPoll reading
    rw [same] at resumes
    refine ⟨lookback, Int.lt_of_lt_of_le clock later, ?_, ?_, errors⟩
    · refine .polled first taken reading started ordered reached ?_ ?_ (fun line present => ?_)
      · intro other asking
        have none : (Phase.scanning (scan (journalctl journal since now))).asked = none := asked_scanning _
        rw [none] at asking
        cases asking
      · rintro _ ⟨⟩
        exact ⟨Int.le_trans ordered reached, Int.le_refl now⟩
      · have resumed : Watcher.resumesAt { o.watcher with
            phase := .scanning (scan (journalctl journal since now)), clock := now } = o.watcher.lastPoll := by
          simp only [Watcher.resumesAt, asked_scanning, Option.getD_none]
        have unread : Schedule.unread { schedule with last := some now } line = decide (now < line.stamp) := rfl
        rw [resumed, unread, decide_eq_true_iff]
        constructor
        · exact (quiet line present).1
        · exact fun future => Int.le_trans (toSql_le _) (Int.le_trans reached (Int.le_of_lt future))
    · rw [asked] at read
      have parsed : (o.parsed.map Prod.snd).Perm (journal.filter schedule.spans) := by
        rw [← List.append_nil (o.parsed.map Prod.snd)]
        exact read
      have span := @filter_span journal schedule first now started (called_by called later)
      have whole : Schedule.spans { schedule with last := some now } =
          fun line => decide (first ≤ line.stamp) && decide (line.stamp ≤ now) := by
        funext line
        simp only [Schedule.spans, started]
      have fetched := fetched_eq resumes (fun line present => (quiet line present).2)
      show (o.parsed.map Prod.snd ++ (Phase.scanning (scan (journalctl journal since now))).pending).Perm
        (journal.filter (Schedule.spans { schedule with last := some now }))
      rw [pending_scanning, fetched, whole]
      exact (parsed.append_right _).trans span

/-- A step that asks nothing and reads no clock keeps the span and what is read of it. -/
theorem Covered.moveOn (held : Covered journal schedule o) {w : Watcher} (later : o.watcher.clock ≤ w.clock)
    (lookback : w.initialLookback = o.watcher.initialLookback) (lastPoll : w.lastPoll = o.watcher.lastPoll)
    (asked : o.watcher.phase.asked = none) (unasked : w.phase.asked = none) {parsed : List (Time × Line)}
    (read : (parsed.map Prod.snd ++ w.phase.pending).Perm (journal.filter schedule.spans))
    (errors : w.tracker.errors = (parsed.map Prod.snd).countP (fun line => isErr line.text)) :
    Covered journal schedule ⟨w, parsed⟩ := by
  refine ⟨lookback.symm ▸ held.lookback, Int.lt_of_lt_of_le held.clock later, ?_, read, errors⟩
  have same : w.resumesAt = o.watcher.resumesAt := by
    simp only [Watcher.resumesAt, asked, unasked, lastPoll]
  cases held.placed with
  | unpolled fresh empty none => exact .unpolled (lastPoll.trans fresh) empty unasked
  | polled first taken reading started ordered past before called resumes =>
    rw [← lastPoll] at taken reading ordered past
    rw [← same] at resumes
    refine .polled first taken reading started ordered (Int.le_trans past later) ?_ (called_by called later) resumes
    intro since asking
    rw [unasked] at asking
    cases asking

private theorem covered_step (held : Covered journal schedule o)
    (apart : LinesApart journal o.watcher.initialLookback schedule step)
    (stepped : observe journal o step = some after) :
    Covered journal (schedule.after o.watcher.initialLookback step) after := by
  have read := held.read
  obtain ⟨w, polled, rfl⟩ := Option.map_eq_some_iff.mp stepped
  cases watchNext_polled polled with
  | activity active idle later =>
    rw [idle] at read
    simp only [Watcher.passes, List.append_nil]
    apply held.moveOn
    · exact later
    · rfl
    · rfl
    · rw [idle]
      rfl
    · rfl
    · exact read
    · exact held.errors
  | window taken later =>
    simp only [Watcher.passes, List.append_nil]
    exact covered_window held taken later apart
  | fetch failed asked later =>
    simp only [Watcher.passes, List.append_nil]
    cases failed with
    | true => exact covered_fail held apart asked later
    | false => exact covered_fetch held apart asked later
  | @parse now next rest scanning later =>
    rw [scanning] at read
    simp only [Watcher.passes, scanning, Phase.pending, List.take_succ_cons, List.take_zero, List.map_cons,
      List.map_nil]
    apply held.moveOn
    · exact later
    · rfl
    · rfl
    · rw [scanning]
      rfl
    · exact asked_scanning rest
    · rw [List.map_append, pending_scanning, List.append_assoc]
      exact read
    · rw [errors_parseLine, List.map_append, List.countP_append, held.errors]
      rfl

private theorem initialLookback_step (stepped : observe journal o step = some after) :
    after.watcher.initialLookback = o.watcher.initialLookback := by
  obtain ⟨w, polled, rfl⟩ := Option.map_eq_some_iff.mp stepped
  cases watchNext_polled polled <;> rfl

end Covered

/-- In every run whose lines are apart, the lines between the first poll's lookback start
and the last successful poll are parsed once. -/
theorem journal_processed_once (journal : List Line) (lagMax : Duration) (cfg : WatcherConfig) (clock : Reading)
    (steps : List (Time × PollStep)) (o : Observed)
    (run : exec (observe journal) { watcher := configuredWatcher lagMax cfg clock } steps = some o)
    (apart : KeptApart journal cfg.lookback steps) (settled : o.watcher.phase.pending = []) :
    ProcessedOnce journal (scheduleOf cfg.lookback steps) o := by
  have history : o.watcher.initialLookback = cfg.lookback ∧
      (KeptApart journal cfg.lookback steps → Covered journal (scheduleOf cfg.lookback steps) o) := by
    refine exec_history (fun past seen => seen.watcher.initialLookback = cfg.lookback ∧
        (KeptApart journal cfg.lookback past → Covered journal (scheduleOf cfg.lookback past) seen))
      ⟨rfl, fun _ => covered_start lagMax cfg clock⟩ ?_ run
    intro past before step after _ ⟨lookback, covered⟩ stepped
    refine ⟨(initialLookback_step stepped).trans lookback, fun kept => ?_⟩
    obtain ⟨earlier, now⟩ := keptApart_concat_iff.mp kept
    rw [scheduleOf_concat, ← lookback]
    rw [← lookback] at now earlier covered
    exact covered_step (covered earlier) now stepped
  have covered := history.2 apart
  have read : (o.parsed.map Prod.snd).Perm (journal.filter (scheduleOf cfg.lookback steps).spans) := by
    have whole := covered.read
    rw [settled, List.append_nil] at whole
    exact whole
  refine ⟨fun line _ inside => ?_, ?_⟩
  · rw [read.count_eq, List.count_filter inside]
  · rw [covered.errors]
    exact read.countP_eq _

/-! A line that the resume point has passed unread is lost for good. -/

section Skipped

variable {journal : List Line} {o after : Observed} {step : Time × PollStep} {line : Line}

/-- The line was not parsed, and lies before every point a call can still resume at. -/
structure Skipped (o : Observed) (line : Line) : Prop where
  unparsed : line ∉ o.parsed.map Prod.snd
  unfetched : line ∉ o.watcher.phase.pending
  polled : zeroTime < o.watcher.lastPoll
  past : o.watcher.lastPoll ≤ o.watcher.clock
  before : line.stamp < toSql o.watcher.lastPoll * second
  asked : ∀ since ∈ o.watcher.phase.asked, line.stamp < toSql since * second

private theorem skipped_step (skipped : Skipped o line) (stepped : observe journal o step = some after) :
    Skipped after line := by
  obtain ⟨unparsed, unfetched, polled, past, before, asked⟩ := skipped
  obtain ⟨w, taken, rfl⟩ := Option.map_eq_some_iff.mp stepped
  cases watchNext_polled taken with
  | activity active idle later =>
    refine ⟨?_, List.not_mem_nil, polled, Int.le_trans past later, before, ?_⟩
    · simpa [Watcher.passes] using unparsed
    · rintro _ ⟨⟩
  | @window now taken later =>
    have forward : o.watcher.lastPoll ≤ now := Int.le_trans past later
    have bound : line.stamp < toSql now * second := by
      refine Int.lt_of_lt_of_le before ?_
      exact Int.mul_le_mul_of_nonneg_right (toSql_mono forward) (by decide)
    refine ⟨?_, List.not_mem_nil, Int.lt_of_lt_of_le polled forward, Int.le_refl now, bound, ?_⟩
    · simpa [Watcher.passes] using unparsed
    · rintro _ ⟨⟩
      rw [if_neg (Int.ne_of_gt polled)]
      exact before
  | @fetch now since failed called later =>
    have early : line.stamp < toSql since * second := asked since (by rw [called]; rfl)
    refine ⟨?_, ?_, polled, Int.le_trans past later, before, ?_⟩
    · simpa [Watcher.passes] using unparsed
    · show line ∉ (Phase.scanning _).pending
      rw [pending_scanning]
      cases failed with
      | true => exact List.not_mem_nil
      | false =>
        intro fetched
        have returned := (List.takeWhile_sublist _).subset fetched
        exact absurd (mem_journalctl.mp returned).2.1 (Int.not_le.mpr early)
    · show ∀ other ∈ (Phase.scanning _).asked, _
      rw [asked_scanning]
      rintro _ ⟨⟩
  | @parse now next rest scanning later =>
    rw [scanning] at unfetched
    have other : line ≠ next := fun same => unfetched (same ▸ List.mem_cons_self)
    have unread : line ∉ rest := fun member => unfetched (List.mem_cons_of_mem next member)
    refine ⟨?_, ?_, polled, Int.le_trans past later, before, ?_⟩
    · simp only [Watcher.passes, scanning, Phase.pending, List.take_succ_cons, List.take_zero, List.map_cons,
        List.map_nil, List.map_append]
      intro member
      rcases List.mem_append.mp member with old | new
      · exact unparsed old
      · exact other (List.mem_singleton.mp new)
    · show line ∉ (Phase.scanning rest).pending
      rw [pending_scanning]
      exact unread
    · show ∀ other ∈ (Phase.scanning rest).asked, _
      rw [asked_scanning]
      rintro _ ⟨⟩

/-- Such a line is never parsed, whatever follows. -/
theorem skipped_never_parsed {steps : List (Time × PollStep)} (skipped : Skipped o line)
    (run : exec (observe journal) o steps = some after) : line ∉ after.parsed.map Prod.snd :=
  (exec_invariant (fun seen => Skipped seen line) skipped
    (fun _ _ _ held stepped => skipped_step held stepped) run).unparsed

end Skipped

/-- A line that reports an error. -/
def errorLine (stamp : Time) : Line := ⟨stamp, lit "host litestream[7]: error replicating WAL"⟩

/-- A poll of an active service at one instant, without a line to parse. -/
def quietPoll (now : Time) (failed : Bool) : List (Time × PollStep) :=
  [(now, .systemctl true), (now, .readClock), (now, .journalctl failed)]

/-- Polls every 30 s, with a lookback of a minute. -/
def minuteConfig : WatcherConfig := ⟨30 * second, 60 * second⟩

/-- A watcher before its first poll. -/
def watchedMinute : Observed := { watcher := configuredWatcher (60 * second) minuteConfig 0 }

/-- The same after its last poll, when every parsed line was an error. -/
def watchedUntil (lastPoll : Time) (parsed : List (Time × Line)) : Observed where
  watcher := {
    tracker := { serviceActive := true, errors := parsed.length, lagMax := 60 * second }
    initialLookback := 60 * second, lastPoll := lastPoll, clock := lastPoll }
  parsed := parsed

/-- An error logged in the second of a poll is counted again by the next one, and one
logged before a call that fails is not counted at all. -/
theorem polls_repeat_and_lose_lines :
    (∃ o, exec (observe [errorLine (10200 * millisecond)]) watchedMinute
          (pollOnce (10500 * millisecond) ++ pollOnce (40500 * millisecond)) = some o ∧
        o.watcher.phase.pending = [] ∧ o.watcher.tracker.errors = 2 ∧
        ¬ ProcessedOnce [errorLine (10200 * millisecond)]
          (scheduleOf minuteConfig.lookback (pollOnce (10500 * millisecond) ++ pollOnce (40500 * millisecond))) o) ∧
      ∃ o, exec (observe [errorLine (25 * second)]) watchedMinute
          (quietPoll (10 * second) false ++ quietPoll (40 * second) true ++ quietPoll (70 * second) false) = some o ∧
        o.watcher.phase.pending = [] ∧ o.watcher.tracker.errors = 0 ∧
        ¬ ProcessedOnce [errorLine (25 * second)]
          (scheduleOf minuteConfig.lookback
            (quietPoll (10 * second) false ++ quietPoll (40 * second) true ++ quietPoll (70 * second) false)) o := by
  constructor
  · refine ⟨watchedUntil (40500 * millisecond)
      [(10500 * millisecond, errorLine (10200 * millisecond)),
        (40500 * millisecond, errorLine (10200 * millisecond))], by decide +kernel, rfl, rfl, ?_⟩
    intro processed
    exact absurd (processed.once _ List.mem_cons_self (by decide)) (by decide +kernel)
  · refine ⟨watchedUntil (70 * second) [], by decide +kernel, rfl, rfl, ?_⟩
    intro processed
    exact absurd (processed.once _ List.mem_cons_self (by decide)) (by decide +kernel)

/-- An error logged well before a poll is counted once by three polls, of which the second
fails. -/
theorem early_error_processed_once :
    ∃ o, exec (observe [errorLine (10200 * millisecond)]) watchedMinute
          (pollOnce (20500 * millisecond) ++ quietPoll (50500 * millisecond) true ++
            quietPoll (80500 * millisecond) false) = some o ∧
        o.watcher.tracker.errors = 1 ∧
        ProcessedOnce [errorLine (10200 * millisecond)]
          (scheduleOf minuteConfig.lookback (pollOnce (20500 * millisecond) ++
            quietPoll (50500 * millisecond) true ++ quietPoll (80500 * millisecond) false)) o := by
  have run : exec (observe [errorLine (10200 * millisecond)]) watchedMinute
      (pollOnce (20500 * millisecond) ++ quietPoll (50500 * millisecond) true ++
        quietPoll (80500 * millisecond) false) =
      some (watchedUntil (80500 * millisecond) [(20500 * millisecond, errorLine (10200 * millisecond))]) := by
    decide +kernel
  have apart : KeptApart [errorLine (10200 * millisecond)] minuteConfig.lookback
      (pollOnce (20500 * millisecond) ++ quietPoll (50500 * millisecond) true ++
        quietPoll (80500 * millisecond) false) := by
    unfold KeptApart
    decide +kernel
  exact ⟨_, run, rfl,
    journal_processed_once _ (60 * second) minuteConfig ⟨0, by decide⟩ _ _ run apart rfl⟩

end NetLatencyMonitor.Litestream
