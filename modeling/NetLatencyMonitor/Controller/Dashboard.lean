import NetLatencyMonitor.Controller.LiveFeed
import NetLatencyMonitor.Controller.Matrix

/-! The page of the dashboard: the latency grid as the server renders it, at load and again for
every swap of the table, and the script that repaints one cell for each frame of the live feed.
The attribute `id` of an element is taken as its text. -/

namespace NetLatencyMonitor.Controller

open Text

structure CellView where
  text : GoString
  className : GoString
  title : GoString
deriving DecidableEq, Repr

/-- A cell of the grid, in the row of its source and the column of its target. -/
structure Cell where
  source : GoString
  target : GoString
  view : CellView
deriving DecidableEq, Repr

def cellID (src dst : GoString) : GoString := lit "cell-" ++ src ++ lit "-" ++ dst

def Cell.pair (cell : Cell) : GoString × GoString := (cell.source, cell.target)

def Cell.id (cell : Cell) : GoString := cellID cell.source cell.target

/-- The class of a latency; the script has the same two bounds. -/
def cellClass (ms : ℚ) : GoString :=
  if ms < 10 then lit "cell-good" else if ms < 50 then lit "cell-warn" else lit "cell-bad"

/-- `LatencyMatrix.Get`. -/
def LatencyMatrix.get (matrix : LatencyMatrix) (src dst : GoString) : Option MatrixEntry :=
  matrix.entries.find? (fun e => decide (e.sourceID = src) && decide (e.targetID = dst))

/-- How numbers are written: `%.1f` of the server, and `toFixed` of the script. -/
structure Decimals where
  percentF : ℚ → GoString
  toFixed : Nat → ℚ → GoString

def errorView : CellView := ⟨lit "✕", lit "cell-error", lit "probe error"⟩

section Render

variable (decimals : Decimals)

def matrixCell : Option MatrixEntry → CellView
  | none => ⟨lit "?", lit "cell-unknown", []⟩
  | some e =>
    if e.hasError then errorView
    else {
      text := decimals.percentF e.avgLatMS
      className := cellClass e.avgLatMS
      title := lit "avg " ++ decimals.percentF e.avgLatMS ++ lit " ms  min " ++ decimals.percentF e.minLatMS ++
        lit "  max " ++ decimals.percentF e.maxLatMS ++ lit "  n=" ++ lit (toString e.samples) }

/-- The cells of `MatrixTable` that have an id, in document order; the diagonal has none. -/
def matrixTable (matrix : LatencyMatrix) : List Cell :=
  matrix.nodes.flatMap (fun src =>
    (matrix.nodes.filter (fun dst => decide (src ≠ dst))).map (fun dst =>
      ⟨src, dst, matrixCell decimals (matrix.get src dst)⟩))

/-! The script. -/

/-- A frame as `JSON.parse` returns it; a field that was left out is `undefined`. -/
structure WireEvent where
  type : GoString
  sourceID : GoString
  targetID : GoString
  latencyMS : Option ℚ
  error : Option GoString
deriving DecidableEq, Repr

/-- `omitempty` leaves out a zero latency and an empty error. -/
def ProbeEvent.wire (event : ProbeEvent) : WireEvent where
  type := event.type
  sourceID := event.sourceID
  targetID := event.targetID
  latencyMS := if event.latencyMS = 0 then none else some event.latencyMS
  error := if event.error = [] then none else some event.error

/-- `json.Marshal` on the server and `JSON.parse` in the browser. -/
structure EventCodec where
  marshal : ProbeEvent → GoString
  /-- `none` is a syntax error, which the script catches. -/
  parse : GoString → Option WireEvent

/-- The browser reads the event that the server wrote, as it does when JSON can spell it. -/
def EventCodec.Carries (codec : EventCodec) (event : ProbeEvent) : Prop :=
  codec.parse (codec.marshal event) = some event.wire

instance (codec : EventCodec) (event : ProbeEvent) : Decidable (codec.Carries event) :=
  inferInstanceAs (Decidable (_ = _))

def latencyView (ms : ℚ) : CellView :=
  ⟨decimals.toFixed 1 ms, cellClass ms, decimals.toFixed 2 ms ++ lit " ms"⟩

/-- What the script makes of a probe result. Without error and latency, `ms.toFixed` throws
before the cell is touched. -/
def WireEvent.repaint (msg : WireEvent) : Option CellView :=
  match msg.error with
  | some (_ :: _) => some errorView
  | _ => msg.latencyMS.map (latencyView decimals)

/-- Repaint the element `getElementById` finds: the first with that id. -/
def paint (id : GoString) (view : CellView) : List Cell → List Cell
  | [] => []
  | cell :: rest => if cell.id = id then { cell with view } :: rest else cell :: paint id view rest

def onMessage (codec : EventCodec) (page : List Cell) (frame : GoString) : List Cell :=
  match codec.parse frame with
  | none => page
  | some msg =>
    if msg.type = lit "probe_result" then
      match msg.repaint decimals with
      | none => page
      | some view => paint (cellID msg.sourceID msg.targetID) view page
    else page

/-- What happens to the page: the script handles a frame, or htmx puts a newly rendered table in
the place of the old one. -/
inductive PageEvent where
  | message (frame : GoString)
  | swap (matrix : LatencyMatrix)

def PageEvent.frame? : PageEvent → Option GoString
  | .message frame => some frame
  | .swap _ => none

def pageNext (codec : EventCodec) (page : List Cell) : PageEvent → List Cell
  | .message frame => onMessage decimals codec page frame
  | .swap matrix => matrixTable decimals matrix

end Render

/-! When two pairs share a cell id. -/

/-- The source of the second pair continues that of the first across the dash. -/
def Overlap (first second : GoString × GoString) : Prop :=
  ∃ middle, second.1 = first.1 ++ lit "-" ++ middle ∧ first.2 = middle ++ lit "-" ++ second.2

/-- A shorter source, and the part of the id between the two. -/
theorem overlap_of_split {first second : GoString × GoString} {gap : GoString} (source : second.1 = first.1 ++ gap)
    (target : lit "-" ++ first.2 = gap ++ (lit "-" ++ second.2)) : first = second ∨ Overlap first second := by
  cases gap with
  | nil =>
    left
    rw [List.append_nil] at source
    exact Prod.ext source.symm (List.append_cancel_left target)
  | cons dash middle =>
    right
    obtain ⟨rfl, rest⟩ := List.cons.inj target
    refine ⟨middle, ?_, ?_⟩
    · rw [source, List.append_assoc]
      rfl
    · rw [List.append_assoc]
      exact rest

theorem cellID_eq_iff {first second : GoString × GoString} :
    cellID first.1 first.2 = cellID second.1 second.2 ↔
      first = second ∨ Overlap first second ∨ Overlap second first := by
  unfold cellID
  constructor
  · intro same
    simp only [List.append_assoc, List.append_cancel_left_eq] at same
    rcases List.append_eq_append_iff.mp same with ⟨gap, source, target⟩ | ⟨gap, source, target⟩
    · exact (overlap_of_split source target).imp_right Or.inl
    · rcases overlap_of_split source target with equal | overlap
      · exact Or.inl equal.symm
      · exact Or.inr (Or.inr overlap)
  · rintro (rfl | ⟨middle, source, target⟩ | ⟨middle, source, target⟩)
    · rfl
    · simp only [source, target, List.append_assoc]
    · simp only [source, target, List.append_assoc]

end NetLatencyMonitor.Controller
