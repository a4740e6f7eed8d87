import NetLatencyMonitor.Controller.Dashboard
import NetLatencyMonitor.Controller.FeedClients

/-! What a cell of the dashboard shows after the frames of the live feed. The script finds a
cell by an id that two pairs of nodes can share, and JSON leaves out a latency of zero, which
the script cannot do without: the right cells are repainted exactly when neither happens. -/

namespace NetLatencyMonitor.Controller

open Machine Text

/-- What the cell of a pair shows. -/
def viewOf (page : List Cell) (pair : GoString × GoString) : Option CellView :=
  (page.find? (fun cell => decide (cell.pair = pair))).map Cell.view

def ProbeEvent.pair (event : ProbeEvent) : GoString × GoString := (event.sourceID, event.targetID)

section Paint

variable {id : GoString} {view : CellView} {page : List Cell} {pair : GoString × GoString}

private theorem paint_pairs (id : GoString) (view : CellView) (page : List Cell) :
    (paint id view page).map Cell.pair = page.map Cell.pair := by
  induction page with
  | nil => rfl
  | cons cell rest ih =>
    unfold paint
    split
    · rfl
    · rw [List.map_cons, List.map_cons, ih]

private theorem viewOf_cons (cell : Cell) (page : List Cell) (pair : GoString × GoString) :
    viewOf (cell :: page) pair = if cell.pair = pair then some cell.view else viewOf page pair := by
  unfold viewOf
  by_cases own : cell.pair = pair
  · simp [own]
  · simp [own]

private theorem viewOf_isSome_iff : (viewOf page pair).isSome = true ↔ pair ∈ page.map Cell.pair := by
  simp [viewOf]

/-- Painting an id that no other pair of the page has. -/
theorem viewOf_paint {painted : GoString × GoString} (own : ∀ cell ∈ page, cell.id = id → cell.pair = painted)
    (named : cellID painted.1 painted.2 = id) (pair : GoString × GoString) :
    viewOf (paint id view page) pair =
      if pair = painted then (viewOf page pair).map (fun _ => view) else viewOf page pair := by
  induction page with
  | nil =>
    unfold paint viewOf
    split
    · rfl
    · rfl
  | cons cell rest ih =>
    unfold paint
    by_cases hit : cell.id = id
    · have here := own cell List.mem_cons_self hit
      have there : ({ cell with view } : Cell).pair = painted := here
      rw [if_pos hit, viewOf_cons, viewOf_cons, there, here]
      by_cases same : painted = pair
      · simp [same]
      · simp [same, Ne.symm same]
    · have later := ih (fun other member => own other (List.mem_cons_of_mem cell member))
      have away : cell.pair ≠ painted := by
        rintro rfl
        exact hit named
      rw [if_neg hit, viewOf_cons, viewOf_cons, later]
      by_cases same : cell.pair = pair
      · subst same
        simp [away]
      · simp [same]

/-- Painting an id whose first cell belongs to another pair: that cell shows the view. -/
theorem viewOf_paint_first {cell : Cell} (distinct : (page.map Cell.pair).Nodup)
    (first : page.find? (fun cell => decide (cell.id = id)) = some cell) :
    viewOf page cell.pair = some cell.view ∧ viewOf (paint id view page) cell.pair = some view := by
  induction page with
  | nil => cases first
  | cons head rest ih =>
    rw [List.map_cons, List.nodup_cons] at distinct
    unfold paint
    by_cases hit : head.id = id
    · rw [List.find?_cons_of_pos (by simpa using hit)] at first
      cases first
      rw [if_pos hit, viewOf_cons, viewOf_cons, if_pos rfl]
      exact ⟨rfl, if_pos rfl⟩
    · rw [List.find?_cons_of_neg (by simpa using hit)] at first
      have away : head.pair ≠ cell.pair := by
        intro same
        exact distinct.1 (same ▸ List.mem_map_of_mem (List.mem_of_find?_eq_some first))
      rw [if_neg hit, viewOf_cons, viewOf_cons, if_neg away, if_neg away]
      exact ih distinct.2 first

end Paint

section Table

variable (decimals : Decimals) (matrix : LatencyMatrix)

private theorem mem_matrixTable_pairs {pair : GoString × GoString} :
    pair ∈ (matrixTable decimals matrix).map Cell.pair ↔
      pair.1 ∈ matrix.nodes ∧ pair.2 ∈ matrix.nodes ∧ pair.1 ≠ pair.2 := by
  obtain ⟨src, dst⟩ := pair
  simp only [matrixTable, List.map_flatMap, List.map_map, List.mem_flatMap, List.mem_map, List.mem_filter,
    Function.comp_apply, Cell.pair, decide_eq_true_eq, Prod.mk.injEq]
  constructor
  · rintro ⟨_, present, _, ⟨among, apart⟩, rfl, rfl⟩
    exact ⟨present, among, apart⟩
  · rintro ⟨present, among, apart⟩
    exact ⟨src, present, dst, ⟨among, apart⟩, rfl, rfl⟩

private theorem matrixTable_distinct (once : matrix.nodes.Nodup) :
    ((matrixTable decimals matrix).map Cell.pair).Nodup := by
  unfold matrixTable
  rw [List.map_flatMap, List.nodup_flatMap]
  constructor
  · intro src _
    rw [List.map_map]
    refine (once.filter _).map ?_
    intro left right same
    exact congrArg Prod.snd same
  · refine once.imp ?_
    intro left right apart pair inLeft inRight
    simp only [List.map_map, List.mem_map, Function.comp_apply, Cell.pair] at inLeft inRight
    obtain ⟨_, _, rfl⟩ := inLeft
    obtain ⟨_, _, same⟩ := inRight
    exact apart (congrArg Prod.fst same).symm

/-- A cell of the grid shows the entry of its pair. -/
theorem viewOf_matrixTable {pair : GoString × GoString} (member : pair ∈ (matrixTable decimals matrix).map Cell.pair) :
    viewOf (matrixTable decimals matrix) pair = some (matrixCell decimals (matrix.get pair.1 pair.2)) := by
  obtain ⟨view, shown⟩ := Option.isSome_iff_exists.mp (viewOf_isSome_iff.mpr member)
  rw [shown]
  obtain ⟨cell, found, rfl⟩ := Option.map_eq_some_iff.mp shown
  have present := List.mem_of_find?_eq_some found
  have named : cell.pair = pair := by simpa using List.find?_some found
  simp only [matrixTable, List.mem_flatMap, List.mem_map] at present
  obtain ⟨src, _, dst, _, rfl⟩ := present
  subst named
  rfl

end Table

/-! A run of events against one page. -/

/-- What an event says about its pair. -/
def ProbeEvent.shows (decimals : Decimals) (event : ProbeEvent) : CellView :=
  if event.error = [] then latencyView decimals event.latencyMS else errorView

/-- A probe that succeeded in no time at all. -/
def ProbeEvent.Instant (event : ProbeEvent) : Prop := event.error = [] ∧ event.latencyMS = 0

/-- What the cell of a pair should show: the last of its own events. -/
def expected (decimals : Decimals) (initial : CellView) (events : List ProbeEvent) (pair : GoString × GoString) :
    CellView :=
  ((events.filter (fun event => decide (event.pair = pair))).map (ProbeEvent.shows decimals)).getLastD initial

private theorem expected_concat (decimals : Decimals) (initial : CellView) (events : List ProbeEvent)
    (event : ProbeEvent)
    (pair : GoString × GoString) :
    expected decimals initial (events ++ [event]) pair =
      if event.pair = pair then event.shows decimals else expected decimals initial events pair := by
  unfold expected
  by_cases own : event.pair = pair
  · simp [own]
  · simp [own]

/-- The script paints what the event says, unless `omitempty` has left out all that it could paint. -/
theorem repaint_wire (decimals : Decimals) (event : ProbeEvent) :
    (event.Instant → event.wire.repaint decimals = none) ∧
      (¬ event.Instant → event.wire.repaint decimals = some (event.shows decimals)) := by
  unfold ProbeEvent.Instant ProbeEvent.wire ProbeEvent.shows WireEvent.repaint
  cases event.error with
  | nil =>
    by_cases zero : event.latencyMS = 0
    · simp [zero]
    · simp [zero]
  | cons byte rest => simp

/-- The page after the frames of some events. -/
def pageAfter (decimals : Decimals) (codec : EventCodec) (page : List Cell) (events : List ProbeEvent) : List Cell :=
  events.foldl (fun page event => onMessage decimals codec page (codec.marshal event)) page

section Frames

variable {decimals : Decimals} {codec : EventCodec} {page : List Cell} {event : ProbeEvent}

/-- A probe result that JSON carries. -/
def ProbeEvent.Proper (codec : EventCodec) (event : ProbeEvent) : Prop :=
  event.type = lit "probe_result" ∧ codec.Carries event

instance (codec : EventCodec) (event : ProbeEvent) : Decidable (event.Proper codec) :=
  inferInstanceAs (Decidable (_ ∧ _))

private theorem onMessage_marshal (proper : event.Proper codec) :
    onMessage decimals codec page (codec.marshal event) =
      (event.wire.repaint decimals).elim page (fun view => paint (cellID event.pair.1 event.pair.2) view page) := by
  unfold onMessage
  rw [show codec.parse (codec.marshal event) = some event.wire from proper.2]
  have typed : event.wire.type = lit "probe_result" := proper.1
  simp only [typed, if_true]
  cases event.wire.repaint decimals with
  | none => rfl
  | some view => rfl

private theorem onMessage_instant (proper : event.Proper codec) (instant : event.Instant) :
    onMessage decimals codec page (codec.marshal event) = page := by
  rw [onMessage_marshal proper, (repaint_wire decimals event).1 instant]
  rfl

private theorem onMessage_paints (proper : event.Proper codec) (slow : ¬ event.Instant) :
    onMessage decimals codec page (codec.marshal event) =
      paint (cellID event.pair.1 event.pair.2) (event.shows decimals) page := by
  rw [onMessage_marshal proper, (repaint_wire decimals event).2 slow]
  rfl

private theorem onMessage_pairs (proper : event.Proper codec) :
    (onMessage decimals codec page (codec.marshal event)).map Cell.pair = page.map Cell.pair := by
  by_cases instant : event.Instant
  · rw [onMessage_instant proper instant]
  · rw [onMessage_paints proper instant, paint_pairs]

private theorem pageAfter_concat (events : List ProbeEvent) (last : ProbeEvent) :
    pageAfter decimals codec page (events ++ [last]) =
      onMessage decimals codec (pageAfter decimals codec page events) (codec.marshal last) := by
  simp [pageAfter]

private theorem pageAfter_pairs {events : List ProbeEvent} (proper : ∀ event ∈ events, event.Proper codec) :
    (pageAfter decimals codec page events).map Cell.pair = page.map Cell.pair := by
  induction events using List.reverseRecOn with
  | nil => rfl
  | append_singleton events last ih =>
    rw [pageAfter_concat, onMessage_pairs (proper last (by simp))]
    exact ih (fun event member => proper event (List.mem_append_left _ member))

/-- The script paints the event in the cell of its own pair, if there is one: no cell of another
pair has its id, and the event says something to paint. -/
structure Paints (page : List Cell) (event : ProbeEvent) : Prop where
  alone : ∀ pair ∈ page.map Cell.pair, ¬ Overlap event.pair pair ∧ ¬ Overlap pair event.pair
  visible : event.pair ∈ page.map Cell.pair → ¬ event.Instant

private theorem Paints.of_pairs {other : List Cell} (paints : Paints page event)
    (pairs : other.map Cell.pair = page.map Cell.pair) : Paints other event :=
  ⟨by rw [pairs]; exact paints.alone, by rw [pairs]; exact paints.visible⟩

private theorem viewOf_onMessage (proper : event.Proper codec) (paints : Paints page event) {pair : GoString × GoString}
    {before : CellView} (shown : viewOf page pair = some before) :
    viewOf (onMessage decimals codec page (codec.marshal event)) pair =
      some (if event.pair = pair then event.shows decimals else before) := by
  have displayed : pair ∈ page.map Cell.pair := viewOf_isSome_iff.mp (by rw [shown]; rfl)
  by_cases instant : event.Instant
  · have foreign : event.pair ≠ pair := by
      rintro rfl
      exact paints.visible displayed instant
    rw [onMessage_instant proper instant, shown, if_neg foreign]
  · have own : ∀ cell ∈ page, cell.id = cellID event.pair.1 event.pair.2 → cell.pair = event.pair := by
      intro cell member same
      obtain ⟨ahead, behind⟩ := paints.alone cell.pair (List.mem_map_of_mem member)
      rcases (@cellID_eq_iff cell.pair event.pair).mp same with equal | overlap | overlap
      · exact equal
      · exact absurd overlap behind
      · exact absurd overlap ahead
    rw [onMessage_paints proper instant, viewOf_paint own rfl, shown]
    by_cases same : pair = event.pair
    · simp [same]
    · simp [same, Ne.symm same]

private theorem pageAfter_expected {events : List ProbeEvent} (proper : ∀ event ∈ events, event.Proper codec)
    (paints : ∀ event ∈ events, Paints page event) {pair : GoString × GoString} {initial : CellView}
    (shown : viewOf page pair = some initial) :
    viewOf (pageAfter decimals codec page events) pair = some (expected decimals initial events pair) := by
  induction events using List.reverseRecOn with
  | nil => exact shown
  | append_singleton events last ih =>
    have properBefore : ∀ event ∈ events, event.Proper codec :=
      fun event member => proper event (List.mem_append_left _ member)
    have before := ih properBefore (fun event member => paints event (List.mem_append_left _ member))
    rw [pageAfter_concat, expected_concat]
    exact viewOf_onMessage (proper last (by simp)) ((paints last (by simp)).of_pairs (pageAfter_pairs properBefore))
      before

end Frames

/-! Pages that go wrong. -/

/-- What the controller may publish: probe results that JSON carries, and for each pair a failure
and a latency other than zero among them. -/
structure Publishes (codec : EventCodec) (published : ProbeEvent → Prop) : Prop where
  proper : ∀ event, published event → event.Proper codec
  fails : ∀ event, published event → ∃ failed, published failed ∧ failed.pair = event.pair ∧ failed.error ≠ []
  succeeds : ∀ event, published event → ∃ answered, published answered ∧ answered.pair = event.pair ∧
    answered.error = [] ∧ answered.latencyMS ≠ 0

section Right

variable {decimals : Decimals} {codec : EventCodec} {page : List Cell} {published : ProbeEvent → Prop}

private theorem latencyView_ne_errorView (decimals : Decimals) (ms : ℚ) : latencyView decimals ms ≠ errorView := by
  intro same
  have classes : cellClass ms = errorView.className := congrArg CellView.className same
  unfold cellClass at classes
  split at classes
  · exact absurd classes (by decide)
  split at classes
  · exact absurd classes (by decide)
  · exact absurd classes (by decide)

/-- A failure or a success of a pair changes whatever a cell shows. -/
theorem Publishes.exists_painting (source : Publishes codec published) {event : ProbeEvent} (seen : published event)
    (old : CellView) :
    ∃ painting, published painting ∧ painting.pair = event.pair ∧ ¬ painting.Instant ∧
      painting.shows decimals ≠ old := by
  by_cases same : errorView = old
  · obtain ⟨answered, known, pair, silent, slow⟩ := source.succeeds event seen
    refine ⟨answered, known, pair, fun instant => slow instant.2, ?_⟩
    rw [ProbeEvent.shows, if_pos silent, ← same]
    exact latencyView_ne_errorView decimals _
  · obtain ⟨failed, known, pair, error⟩ := source.fails event seen
    refine ⟨failed, known, pair, fun instant => error instant.1, ?_⟩
    rw [ProbeEvent.shows, if_neg error]
    exact same

/-- Whatever events are published, each cell shows the last of its own. -/
def ShowsOwn (decimals : Decimals) (codec : EventCodec) (page : List Cell) (published : ProbeEvent → Prop) : Prop :=
  ∀ events : List ProbeEvent, (∀ event ∈ events, published event) → ∀ pair initial, viewOf page pair = some initial →
    viewOf (pageAfter decimals codec page events) pair = some (expected decimals initial events pair)

/-- The first cell with the id of a pair is the cell of that pair: it would otherwise show
an event that is not its own. -/
theorem ShowsOwn.own_cell (right : ShowsOwn decimals codec page published) (source : Publishes codec published)
    (distinct : (page.map Cell.pair).Nodup) {event : ProbeEvent} (seen : published event) {cell : Cell}
    (first : page.find? (fun cell => decide (cell.id = cellID event.pair.1 event.pair.2)) = some cell) :
    cell.pair = event.pair := by
  obtain ⟨painting, known, pair, slow, different⟩ := @Publishes.exists_painting decimals _ _ source _ seen cell.view
  rw [← pair] at first ⊢
  obtain ⟨before, after⟩ := @viewOf_paint_first _ (painting.shows decimals) _ _ distinct first
  by_contra foreign
  have ought := right [painting] (by simp [known]) cell.pair cell.view before
  have painted : pageAfter decimals codec page [painting] =
      paint (cellID painting.pair.1 painting.pair.2) (painting.shows decimals) page :=
    onMessage_paints (source.proper painting known) slow
  have untouched : expected decimals cell.view [painting] cell.pair = cell.view := by
    simp [expected, Ne.symm foreign]
  rw [painted, after, untouched] at ought
  exact different (Option.some.inj ought)

private theorem ShowsOwn.ids_apart (right : ShowsOwn decimals codec page published) (source : Publishes codec published)
    (distinct : (page.map Cell.pair).Nodup)
    (within : ∀ pair ∈ page.map Cell.pair, ∃ event, published event ∧ event.pair = pair)
    {event : ProbeEvent} (seen : published event) {shown : GoString × GoString} (displayed : shown ∈ page.map Cell.pair)
    (same : cellID event.pair.1 event.pair.2 = cellID shown.1 shown.2) : event.pair = shown := by
  obtain ⟨own, member, rfl⟩ := List.mem_map.mp displayed
  obtain ⟨other, known, pair⟩ := within own.pair displayed
  have hit : ∃ cell ∈ page, decide (cell.id = cellID own.pair.1 own.pair.2) = true :=
    ⟨own, member, decide_eq_true rfl⟩
  obtain ⟨cell, first⟩ := Option.isSome_iff_exists.mp (List.find?_isSome.mpr hit)
  have ofEvent := right.own_cell source distinct seen (same ▸ first)
  have ofShown := right.own_cell source distinct known (by rw [pair]; exact first)
  exact ofEvent.symm.trans (ofShown.trans pair)

/-- After a failure, a latency of zero would have to be painted. -/
theorem ShowsOwn.paints (right : ShowsOwn decimals codec page published) (source : Publishes codec published)
    {event : ProbeEvent} (seen : published event) (displayed : event.pair ∈ page.map Cell.pair) : ¬ event.Instant := by
  intro instant
  obtain ⟨initial, shown⟩ := Option.isSome_iff_exists.mp (viewOf_isSome_iff.mpr displayed)
  obtain ⟨failed, known, pair, error⟩ := source.fails event seen
  have afterFailure := right [failed] (by simp [known]) event.pair initial shown
  have afterBoth := right ([failed] ++ [event]) (by simp [known, seen]) event.pair initial shown
  rw [pageAfter_concat, onMessage_instant (source.proper event seen) instant, afterFailure, expected_concat,
    if_pos rfl, ProbeEvent.shows, if_pos instant.1] at afterBoth
  have failure : expected decimals initial [failed] event.pair = errorView := by
    simp [expected, pair, ProbeEvent.shows, error]
  rw [failure] at afterBoth
  exact latencyView_ne_errorView decimals _ (Option.some.inj afterBoth).symm

private theorem Overlap.ne {first second : GoString × GoString} (overlap : Overlap first second) : first ≠ second := by
  rintro rfl
  obtain ⟨middle, source, _⟩ := overlap
  have length := congrArg List.length source
  have dash : (lit "-").length = 1 := rfl
  simp only [List.length_append] at length
  omega

private theorem Overlap.source_continues {first second : GoString × GoString} (overlap : Overlap first second) :
    first.1 ++ lit "-" <+: second.1 := by
  obtain ⟨middle, source, _⟩ := overlap
  exact ⟨middle, source.symm⟩

private theorem showsOwn_iff (source : Publishes codec published) (distinct : (page.map Cell.pair).Nodup)
    (within : ∀ pair ∈ page.map Cell.pair, ∃ event, published event ∧ event.pair = pair) :
    ShowsOwn decimals codec page published ↔ ∀ event, published event → Paints page event := by
  constructor
  · intro right event seen
    refine ⟨fun shown displayed => ?_, right.paints source seen⟩
    have apart := right.ids_apart source distinct within seen displayed
    refine ⟨fun overlap => overlap.ne ?_, fun overlap => overlap.ne ?_⟩
    · exact apart (cellID_eq_iff.mpr (Or.inr (Or.inl overlap)))
    · exact (apart (cellID_eq_iff.mpr (Or.inr (Or.inr overlap)))).symm
  · intro paints events all pair initial shown
    exact pageAfter_expected (fun event member => source.proper event (all event member))
      (fun event member => paints event (all event member)) shown

end Right

/-- The event suits the grid: its ids do not overlap with those of a displayed pair across the
dash, and if its own pair is displayed it has an error or a latency other than zero. -/
def Suits (matrix : LatencyMatrix) (event : ProbeEvent) : Prop :=
  ∀ src ∈ matrix.nodes, ∀ dst ∈ matrix.nodes, src ≠ dst →
    (¬ Overlap event.pair (src, dst) ∧ ¬ Overlap (src, dst) event.pair) ∧
    (event.pair = (src, dst) → event.error = [] → event.latencyMS ≠ 0)

private theorem paints_matrixTable_iff (decimals : Decimals) {matrix : LatencyMatrix} {event : ProbeEvent} :
    Paints (matrixTable decimals matrix) event ↔ Suits matrix event := by
  constructor
  · intro paints src present dst among apart
    have displayed : (src, dst) ∈ (matrixTable decimals matrix).map Cell.pair :=
      (mem_matrixTable_pairs decimals matrix).mpr ⟨present, among, apart⟩
    refine ⟨paints.alone (src, dst) displayed, fun own silent zero => ?_⟩
    exact paints.visible (own ▸ displayed) ⟨silent, zero⟩
  · intro suits
    refine ⟨fun shown displayed => ?_, fun displayed instant => ?_⟩
    · obtain ⟨present, among, apart⟩ := (mem_matrixTable_pairs decimals matrix).mp displayed
      exact (suits shown.1 present shown.2 among apart).1
    · obtain ⟨present, among, apart⟩ := (mem_matrixTable_pairs decimals matrix).mp displayed
      exact (suits _ present _ among apart).2 rfl instant.1 instant.2

/-- Live updates are right, each cell showing the last event of its own pair, exactly when the
source of no displayed pair continues, across a dash, that of a published one, nor the other way
round, and every event of a displayed pair has an error or a latency other than zero. -/
theorem live_cells_right_iff (decimals : Decimals) (codec : EventCodec) (matrix : LatencyMatrix)
    (published : ProbeEvent → Prop) (once : matrix.nodes.Nodup) (source : Publishes codec published)
    (mesh : ∀ src ∈ matrix.nodes, ∀ dst ∈ matrix.nodes, src ≠ dst →
      ∃ event, published event ∧ event.pair = (src, dst)) :
    ShowsOwn decimals codec (matrixTable decimals matrix) published ↔
      ∀ event, published event → Suits matrix event := by
  have within : ∀ pair ∈ (matrixTable decimals matrix).map Cell.pair, ∃ event, published event ∧ event.pair = pair := by
    intro pair displayed
    obtain ⟨present, among, apart⟩ := (mem_matrixTable_pairs decimals matrix).mp displayed
    exact mesh pair.1 present pair.2 among apart
  rw [showsOwn_iff source (matrixTable_distinct decimals matrix once) within]
  exact forall_congr' (fun event => imp_congr_right (fun _ => paints_matrixTable_iff decimals))

/-- The digits of a number that is not negative, so many of them behind the point. -/
def pointed (digits scaled : Nat) : GoString :=
  let fraction := lit (toString (scaled % 10 ^ digits))
  lit (toString (scaled / 10 ^ digits)) ++ lit "." ++ List.replicate (digits - fraction.length) 0x30 ++ fraction

/-- The nearest integer to a number that is not negative; `up` decides a tie above the integer below. -/
def nearest (up : Nat → Bool) (value : ℚ) : Nat :=
  let down := value.floor.toNat
  if 2 * (value - down) < 1 then down
  else if 1 < 2 * (value - down) then down + 1
  else if up down then down + 1 else down

def signed (value : ℚ) (text : GoString) : GoString := if value < 0 then lit "-" ++ text else text

/-- A tie goes to the even digit in `%.1f`, and up in `toFixed`. -/
def roundedDecimals : Decimals where
  percentF value := signed value (pointed 1 (nearest (fun down => down % 2 == 1) (|value| * 10)))
  toFixed digits value := signed value (pointed digits (nearest (fun _ => true) (|value| * 10 ^ digits)))

/-- JSON for the events of a table, with their texts. -/
def EventCodec.table (texts : List (ProbeEvent × GoString)) : EventCodec where
  marshal event := ((texts.find? (fun row => decide (row.1 = event))).map Prod.snd).getD []
  parse frame := (texts.find? (fun row => decide (row.2 = frame))).map (fun row => row.1.wire)

/-- A hub, and one whose id repeats that of the first. -/
def nestedHubs : LatencyMatrix := ⟨[lit "a", lit "a-a"], []⟩

/-- Probes between the two. -/
def nestedEvents : List (ProbeEvent × GoString) :=
  [(⟨lit "probe_result", lit "a", lit "a-a", 5 / 2, []⟩,
      lit "\x7b\"type\":\"probe_result\",\"source_id\":\"a\",\"target_id\":\"a-a\",\"latency_ms\":2.5\x7d"),
    (⟨lit "probe_result", lit "a", lit "a-a", 0, lit "timeout"⟩,
      lit "\x7b\"type\":\"probe_result\",\"source_id\":\"a\",\"target_id\":\"a-a\",\"error\":\"timeout\"\x7d"),
    (⟨lit "probe_result", lit "a-a", lit "a", 5 / 2, []⟩,
      lit "\x7b\"type\":\"probe_result\",\"source_id\":\"a-a\",\"target_id\":\"a\",\"latency_ms\":2.5\x7d"),
    (⟨lit "probe_result", lit "a-a", lit "a", 0, lit "timeout"⟩,
      lit "\x7b\"type\":\"probe_result\",\"source_id\":\"a-a\",\"target_id\":\"a\",\"error\":\"timeout\"\x7d")]

private theorem nestedEvents_publishes :
    Publishes (.table nestedEvents) (fun event => event ∈ nestedEvents.map Prod.fst) where
  proper := show ∀ event ∈ nestedEvents.map Prod.fst, _ by decide +kernel
  fails := show ∀ event ∈ nestedEvents.map Prod.fst, _ by decide +kernel
  succeeds := show ∀ event ∈ nestedEvents.map Prod.fst, _ by decide +kernel

/-- Where hubs `a` and `a-a` are both shown, some events of the two land in a wrong cell. -/
theorem nested_ids_mispaint :
    ¬ ShowsOwn roundedDecimals (.table nestedEvents) (matrixTable roundedDecimals nestedHubs)
      (fun event => event ∈ nestedEvents.map Prod.fst) := by
  rw [live_cells_right_iff roundedDecimals (.table nestedEvents) nestedHubs _ (by decide) nestedEvents_publishes
    (by decide +kernel)]
  intro suits
  have clear := suits ⟨lit "probe_result", lit "a", lit "a-a", 0, lit "timeout"⟩ (by decide +kernel) (lit "a-a")
    (by decide) (lit "a") (by decide) (by decide)
  exact clear.1.1 ⟨lit "a", rfl, rfl⟩

/-! The page of a browser of the feed. -/

/-- The grid that was last rendered for the page, and the frames handled since. -/
def sinceSwap (rendered : LatencyMatrix) (history : List PageEvent) : LatencyMatrix × List GoString :=
  history.foldl (fun state event => match event with
    | .message frame => (state.1, state.2 ++ [frame])
    | .swap matrix => (matrix, [])) (rendered, [])

section Swap

variable {decimals : Decimals} {codec : EventCodec}

private theorem sinceSwap_concat (rendered : LatencyMatrix) (history : List PageEvent) (last : PageEvent) :
    sinceSwap rendered (history ++ [last]) = match last with
      | .message frame => ((sinceSwap rendered history).1, (sinceSwap rendered history).2 ++ [frame])
      | .swap matrix => (matrix, []) := by
  unfold sinceSwap
  rw [List.foldl_append]
  rfl

/-- Nothing from before the last swap is left on the page. -/
theorem foldl_pageNext (rendered : LatencyMatrix) (history : List PageEvent) :
    history.foldl (pageNext decimals codec) (matrixTable decimals rendered) =
      (sinceSwap rendered history).2.foldl (onMessage decimals codec)
        (matrixTable decimals (sinceSwap rendered history).1) := by
  induction history using List.reverseRecOn with
  | nil => rfl
  | append_singleton history last ih =>
    rw [List.foldl_append, ih, sinceSwap_concat]
    cases last with
    | message frame =>
      rw [List.foldl_append]
      rfl
    | swap matrix => rfl

private theorem sinceSwap_suffix (rendered : LatencyMatrix) (history : List PageEvent) :
    (sinceSwap rendered history).2 <:+ history.filterMap PageEvent.frame? := by
  induction history using List.reverseRecOn with
  | nil => exact List.nil_suffix
  | append_singleton history last ih =>
    rw [sinceSwap_concat, List.filterMap_append]
    cases last with
    | message frame =>
      obtain ⟨earlier, whole⟩ := ih
      exact ⟨earlier, by rw [← whole, List.append_assoc]; rfl⟩
    | swap matrix => exact List.nil_suffix

private theorem foldl_rowFrame (page : List Cell) (seen : List ResultRow) :
    (seen.map (rowFrame codec.marshal)).foldl (onMessage decimals codec) page =
      pageAfter decimals codec page (seen.map rowEvent) := by
  unfold pageAfter
  rw [List.foldl_map, List.foldl_map]
  rfl

end Swap

/-- Every cell of the page in a browser shows what the server last rendered, at load or for a swap,
or the last of some rows of its own pair published since the browser registered. -/
theorem live_page_shows_stored (decimals : Decimals) (codec : EventCodec) (db : DB) (events : List LiveEvent)
    (live : LiveServer) (run : exec (liveNext codec.marshal) (.start db) events = some live)
    (client : UIClient) (member : client ∈ live.clients) (rendered : LatencyMatrix) (history : List PageEvent)
    (handled : history.filterMap PageEvent.frame? <+: client.written)
    (carried : ∀ row ∈ sinceJoined live client, codec.Carries (rowEvent row))
    (suits : ∀ row ∈ sinceJoined live client, Suits (sinceSwap rendered history).1 (rowEvent row)) :
    ∃ seen : List ResultRow, seen.Sublist (sinceJoined live client) ∧
      seen.map (rowFrame codec.marshal) = (sinceSwap rendered history).2 ∧
      (∀ row ∈ seen, row ∈ live.db.results.rows ∧ row ∉ db.results.rows) ∧
      ∀ src ∈ (sinceSwap rendered history).1.nodes, ∀ dst ∈ (sinceSwap rendered history).1.nodes, src ≠ dst →
        viewOf (history.foldl (pageNext decimals codec) (matrixTable decimals rendered)) (src, dst) =
          some (expected decimals (matrixCell decimals ((sinceSwap rendered history).1.get src dst))
            (seen.map rowEvent) (src, dst)) := by
  obtain ⟨added, books⟩ := ledger_run run
  have shown : (sinceSwap rendered history).2.Sublist (client.written ++ client.send.waiting) :=
    (sinceSwap_suffix rendered history).sublist.trans (handled.sublist.trans (List.sublist_append_left _ _))
  obtain ⟨seen, within, frames⟩ := (fed_run run client member).frames.lose shown
  have among : ∀ row ∈ seen, row ∈ live.published :=
    fun row present => (within.trans (List.drop_sublist _ _)).subset present
  refine ⟨seen, within, frames, fun row present => books.published.2 row (among row present), ?_⟩
  intro src present dst column apart
  rw [foldl_pageNext, ← frames, foldl_rowFrame]
  refine pageAfter_expected ?_ ?_ (viewOf_matrixTable decimals _
    ((mem_matrixTable_pairs decimals _).mpr ⟨present, column, apart⟩))
  · intro event read
    obtain ⟨row, seenRow, rfl⟩ := List.mem_map.mp read
    exact ⟨rfl, carried row (within.subset seenRow)⟩
  · intro event read
    obtain ⟨row, seenRow, rfl⟩ := List.mem_map.mp read
    exact (paints_matrixTable_iff decimals).mpr (suits row (within.subset seenRow))

/-- The grid of the probing node and the hub of the first row. -/
def spokeAndHub : LatencyMatrix := ⟨[lit "spoke-1", lit "hub-1"], []⟩

/-- The event of the first row. -/
def hubOneText : GoString :=
  lit "\x7b\"type\":\"probe_result\",\"source_id\":\"spoke-1\",\"target_id\":\"hub-1\",\"latency_ms\":1\x7d"

def hubOneCodec : EventCodec := .table [(rowEvent hubOneRow, hubOneText)]

/-- A page without nodes, swapped for the grid before the frame of the first row arrives. -/
def swappedPage : List PageEvent := [.swap spokeAndHub, .message hubOneText]

private theorem hubOne_suits : Suits spokeAndHub (rowEvent hubOneRow) := by
  intro src source dst _ _
  have ids : ∀ id ∈ spokeAndHub.nodes, ¬ lit "spoke-1-" <+: id ∧ ¬ id ++ lit "-" <+: lit "spoke-1" := by decide
  refine ⟨⟨fun overlap => (ids src source).1 overlap.source_continues,
    fun overlap => (ids src source).2 overlap.source_continues⟩, fun _ _ => ?_⟩
  decide +kernel

/-- The cell of the first row shows its latency, or is still as it was swapped in. -/
theorem reposted_run_page :
    ∃ live, exec (liveNext hubOneCodec.marshal) (.start knownSpoke) repostedRun = some live ∧
      ∃ seen : List ResultRow, seen.Sublist (sinceJoined live (firstFrameWritten hubOneCodec.marshal)) ∧
        seen.map (rowFrame hubOneCodec.marshal) = [hubOneText] ∧
        viewOf (swappedPage.foldl (pageNext roundedDecimals hubOneCodec) (matrixTable roundedDecimals ⟨[], []⟩))
          (lit "spoke-1", lit "hub-1") =
        some (expected roundedDecimals (matrixCell roundedDecimals none) (seen.map rowEvent)
          (lit "spoke-1", lit "hub-1")) := by
  obtain ⟨live, run, clients, log⟩ := repostedRun_live hubOneCodec.marshal
  have present : firstFrameWritten hubOneCodec.marshal ∈ live.clients := by rw [clients]; exact List.mem_cons_self
  have lone : ∀ row ∈ sinceJoined live (firstFrameWritten hubOneCodec.marshal), row = hubOneRow := by
    intro row member
    have published := List.mem_of_mem_drop member
    rw [log] at published
    exact List.mem_singleton.mp published
  have carried : hubOneCodec.Carries (rowEvent hubOneRow) := by decide +kernel
  obtain ⟨seen, within, frames, _, shown⟩ := live_page_shows_stored roundedDecimals hubOneCodec knownSpoke repostedRun
    live run _ present ⟨[], []⟩ swappedPage (by decide +kernel) (fun row member => lone row member ▸ carried)
    (fun row member => lone row member ▸ hubOne_suits)
  exact ⟨live, run, seen, within, frames, shown (lit "spoke-1") (by decide) (lit "hub-1") (by decide) (by decide)⟩

end NetLatencyMonitor.Controller
