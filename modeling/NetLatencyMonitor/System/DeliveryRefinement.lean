import NetLatencyMonitor.Machine.Channel
import NetLatencyMonitor.Machine.Simulation
import NetLatencyMonitor.System.ExactlyOnce

/-! The delivery system is an exactly-once channel for runs: enqueueing offers a run,
the commit delivers it, the deletion on acceptance confirms it. Everything else, lost
answers, replays and restarts included, is invisible. -/

namespace NetLatencyMonitor.System

open Agent Clock Controller Keyed Machine Spool Text

open DeliverySystem

/-- The channel as seen in a state of the system. -/
def channelOf (system : DeliverySystem) : Channel GoString where
  offered := {run | ∃ payload, (run, payload) ∈ system.payloads}
  delivered := {run | ∃ sourceID, rowsOf system.db sourceID run ≠ []}
  confirmed := {run | ∃ c removed, (c, removed) ∈ system.deletions ∧ c.probeRunID = run}

/-- The deletions on acceptance that a call is about to make. -/
def confirms : Option SpoolCall → List (ChannelAction GoString)
  | some (.settle _ current .accepted _ _ _) => [.confirm current.probeRunID]
  | _ => []

/-- What a step shows of the channel. -/
def channelActions (codec : JsonCodec) (system : DeliverySystem) :
    DeliveryEvent → List (ChannelAction GoString)
  | .enqueue _ uuid req =>
    match codec.marshal { req with probeRunID := uuidString uuid } with
    | none => []
    | some _ => [.offer (uuidString uuid)]
  | .statement agent _ => confirms (system.agents agent).call
  | .commit =>
    match system.txn with
    | none => []
    | some txn => [.deliver txn.req.probeRunID]
  | _ => []

variable {codec : JsonCodec} {system after : DeliverySystem}

/-- A step that leaves payloads, results and deletions alone is invisible. -/
theorem channelOf_unchanged (payloads : after.payloads = system.payloads)
    (results : after.db.results = system.db.results) (deletions : after.deletions = system.deletions) :
    channelOf after = channelOf system := by
  have rows : ∀ sourceID run, rowsOf after.db sourceID run = rowsOf system.db sourceID run := by
    intro sourceID run
    unfold rowsOf
    rw [results]
  simp only [channelOf, payloads, rows, deletions]

private theorem channelOf_offer {pair : GoString × GoString} (payloads : after.payloads = system.payloads ++ [pair])
    (results : after.db = system.db) (deletions : after.deletions = system.deletions) :
    channelOf after = { channelOf system with offered := insert pair.1 (channelOf system).offered } := by
  apply Channel.ext
  · ext run
    simp only [channelOf, payloads, List.mem_append, List.mem_singleton, Set.mem_ofPred_eq, Set.mem_insert_iff]
    constructor
    · rintro ⟨payload, old | new⟩
      · exact Or.inr ⟨payload, old⟩
      · exact Or.inl (congrArg Prod.fst new)
    · rintro (same | ⟨payload, old⟩)
      · exact ⟨pair.2, Or.inr (by rw [same])⟩
      · exact ⟨payload, Or.inl old⟩
  · simp only [channelOf, results]
  · simp only [channelOf, deletions]

private theorem channelOf_confirm {c : Candidate} {removed : List SpoolRow}
    (payloads : after.payloads = system.payloads) (results : after.db = system.db)
    (deletions : after.deletions = system.deletions ++ [(c, removed)]) :
    channelOf after =
      { channelOf system with confirmed := insert c.probeRunID (channelOf system).confirmed } := by
  apply Channel.ext
  · simp only [channelOf, payloads]
  · simp only [channelOf, results]
  · ext run
    simp only [channelOf, deletions, List.mem_append, List.mem_singleton, Set.mem_ofPred_eq, Set.mem_insert_iff]
    constructor
    · rintro ⟨other, row, old | new, same⟩
      · exact Or.inr ⟨other, row, old, same⟩
      · cases new
        exact Or.inl same.symm
    · rintro (same | ⟨other, row, old, same⟩)
      · exact ⟨c, removed, Or.inr rfl, same.symm⟩
      · exact ⟨other, row, Or.inl old, same⟩

/-- The deletion on acceptance confirms a delivered run. -/
theorem Delivered.confirmable (held : Delivered codec system) {agent : Nat} {now : Time}
    {current : Candidate} {message : GoString} {rest : List Candidate} {stats : DrainStats}
    (running : (system.agents agent).call = some (.settle now current .accepted message rest stats)) :
    current.probeRunID ∈ (channelOf system).delivered := by
  have holds := held.agents.calls agent _ running
  obtain ⟨_, req, decoded, nonempty, rows⟩ := holds.2 rfl
  have named := held.known.run_eq (holds.1 current List.mem_cons_self).known decoded
  refine ⟨req.sourceID, ?_⟩
  rw [← named, rows]
  exact fun empty => nonempty (List.map_eq_nil_iff.mp empty)

/-- A complete transaction belongs to an offered run that is not delivered yet. -/
theorem Delivered.deliverable (held : Delivered codec system) {txn : Txn} (running : system.txn = some txn)
    (complete : txn.remaining = []) :
    txn.req.probeRunID ∈ (channelOf system).offered ∧ txn.req.probeRunID ∉ (channelOf system).delivered := by
  obtain ⟨⟨payload, found, decoded⟩, ⟨authNodeID, valid⟩, inserting⟩ := held.controller.running txn running
  obtain ⟨_, _, _, _, nonempty, _, _⟩ := validateResultsRequest_ok_iff.mp valid
  have listed := held.known.listed (List.mem_of_getElem? found) decoded
  refine ⟨⟨payload, listed⟩, fun ⟨sourceID, present⟩ => ?_⟩
  -- rows of the run come from its one payload, hence from the same source
  rcases held.controller.whole sourceID txn.req.probeRunID with none | ⟨other, req, member, same, source, _, rows⟩
  · exact present none
  · rw [held.known.same_payload member listed, decoded] at same
    cases same
    subst sourceID
    rw [complete] at inserting
    obtain ⟨done, all, _, fresh⟩ := inserting
    rcases fresh with first | none
    · rw [first] at all
      exact nonempty (List.map_eq_nil_iff.mp all)
    · exact present none

section Steps

variable {actions : List (ChannelAction GoString)}

private theorem trace_unchanged (trace : Channel.Trace actions (channelOf system))
    (payloads : after.payloads = system.payloads) (results : after.db.results = system.db.results)
    (deletions : after.deletions = system.deletions) : Channel.Trace (actions ++ []) (channelOf after) := by
  rw [List.append_nil, channelOf_unchanged payloads results deletions]
  exact trace

private theorem trace_beginRun (trace : Channel.Trace actions (channelOf system)) (agent : Nat)
    {uuid : Vector UInt8 16} (req : ResultsRequest)
    (fresh : uuidString uuid ∉ system.payloads.map Prod.fst) :
    Channel.Trace (actions ++ channelActions codec system (.enqueue agent uuid req))
      (channelOf (system.beginRun codec agent uuid req)) := by
  simp only [channelActions]
  cases encoded : codec.marshal { req with probeRunID := uuidString uuid } with
  | none =>
    have same : system.beginRun codec agent uuid req = system := by
      simp only [beginRun, encoded]
    rw [same]
    exact trace_unchanged trace rfl rfl rfl
  | some payload =>
    have begun : channelOf (system.beginRun codec agent uuid req) =
        { channelOf system with offered := insert (uuidString uuid) (channelOf system).offered } := by
      simp only [beginRun, encoded]
      exact @channelOf_offer system _ (uuidString uuid, payload) rfl rfl rfl
    rw [begun]
    refine trace.step (.offer ?_)
    rintro ⟨other, member⟩
    exact fresh (List.mem_map_of_mem member)

private theorem trace_statement (held : Delivered codec system) (trace : Channel.Trace actions (channelOf system))
    {cfg : Config} {agent : Nat} {now : Time} {call : SpoolCall}
    (running : (system.agents agent).call = some call)
    (step : system.agentStatement cfg agent now call = some after) :
    Channel.Trace (actions ++ channelActions codec system (.statement agent now)) (channelOf after) := by
  obtain ⟨⟨spool, next⟩, _, same⟩ := Option.map_eq_some_iff.mp step
  have payloads : after.payloads = system.payloads := same ▸ rfl
  have results : after.db = system.db := same ▸ rfl
  have deletions : after.deletions = system.deletions ++ deletion system.spool spool call := same ▸ rfl
  simp only [channelActions, running]
  have invisible (none : deletion system.spool spool call = []) : Channel.Trace (actions ++ []) (channelOf after) := by
    rw [none, List.append_nil] at deletions
    exact trace_unchanged trace payloads (by rw [results]) deletions
  cases call with
  | settle started current outcome message rest stats =>
    cases outcome with
    | accepted =>
      rw [channelOf_confirm payloads results deletions]
      exact trace.step (.confirm (held.confirmable running))
    | permanentFail => exact invisible rfl
    | transientFail => exact invisible rfl
  | _ => exact invisible rfl

private theorem channelOf_commit {txn : Txn} (nonempty : txn.req.results ≠ [])
    (inserting : Inserting system.db txn.req txn.working []) :
    channelOf { system.answer txn 201 with db := txn.working } =
      { channelOf system with delivered := insert txn.req.probeRunID (channelOf system).delivered } := by
  obtain ⟨own, _, others⟩ := inserting.complete nonempty
  have stored : rowsOf txn.working txn.req.sourceID txn.req.probeRunID ≠ [] := by
    rw [own]
    exact fun empty => nonempty (List.map_eq_nil_iff.mp empty)
  apply Channel.ext
  · rfl
  · ext run
    simp only [channelOf, Set.mem_ofPred_eq, Set.mem_insert_iff]
    constructor
    · rintro ⟨sourceID, present⟩
      by_cases same : sourceID = txn.req.sourceID ∧ run = txn.req.probeRunID
      · exact Or.inl same.2
      · rw [others sourceID run same] at present
        exact Or.inr ⟨sourceID, present⟩
    · rintro (same | ⟨sourceID, present⟩)
      · subst run
        exact ⟨txn.req.sourceID, stored⟩
      · by_cases same : sourceID = txn.req.sourceID ∧ run = txn.req.probeRunID
        · obtain ⟨rfl, rfl⟩ := same
          exact ⟨txn.req.sourceID, stored⟩
        · rw [← others sourceID run same] at present
          exact ⟨sourceID, present⟩
  · rfl

private theorem trace_commit (held : Delivered codec system) (trace : Channel.Trace actions (channelOf system))
    {txn : Txn} (running : system.txn = some txn) (complete : txn.remaining = []) :
    Channel.Trace (actions ++ channelActions codec system .commit)
      (channelOf { system.answer txn 201 with db := txn.working }) := by
  obtain ⟨_, ⟨authNodeID, valid⟩, inserting⟩ := held.controller.running txn running
  obtain ⟨_, _, _, _, nonempty, _, _⟩ := validateResultsRequest_ok_iff.mp valid
  obtain ⟨offered, first⟩ := held.deliverable running complete
  rw [complete] at inserting
  simp only [channelActions, running]
  rw [channelOf_commit nonempty inserting]
  exact trace.step (.deliver offered first)

private theorem channelActions_quiet {event : DeliveryEvent} (quiet : event.quiet = true) :
    channelActions codec system event = [] := by
  cases event with
  | enqueue agent uuid req => cases quiet
  | statement agent now => cases quiet
  | commit => cases quiet
  | _ => rfl

private theorem insertNext_frame {txn : Txn} (taken : system.insertNext txn = some after) :
    after.payloads = system.payloads ∧ after.db = system.db ∧ after.deletions = system.deletions := by
  unfold DeliverySystem.insertNext at taken
  split at taken
  · cases taken
  · split at taken
    · cases taken
      exact ⟨rfl, rfl, rfl⟩
    · cases taken
      exact ⟨rfl, rfl, rfl⟩

/-- Every step is a step of the channel or invisible. -/
theorem trace_next {cfg : Nat → Config} {event : DeliveryEvent} (held : Delivered codec system)
    (step : deliveryNext codec cfg system event = some after)
    (trace : Channel.Trace actions (channelOf system)) :
    Channel.Trace (actions ++ channelActions codec system event) (channelOf after) := by
  cases deliveryNext_effect step with
  | begun fresh => exact trace_beginRun trace _ _ fresh
  | stated running taken => exact trace_statement held trace running taken
  | committed running complete => exact trace_commit held trace running complete
  | moved quiet harmless =>
    rw [channelActions_quiet quiet]
    exact trace_unchanged trace rfl rfl rfl
  | settled quiet running answered taken =>
    rw [channelActions_quiet quiet]
    obtain ⟨next, _, same⟩ := Option.map_eq_some_iff.mp taken
    subst after
    exact trace_unchanged trace rfl rfl rfl
  | inserted running taken =>
    obtain ⟨payloads, results, deletions⟩ := insertNext_frame taken
    exact trace_unchanged trace payloads (by rw [results]) deletions
  | changed quiet idle results =>
    rw [channelActions_quiet quiet]
    exact trace_unchanged trace rfl results rfl
  | sent running => exact trace_unchanged trace rfl rfl rfl
  | opened found decoded valid => exact trace_unchanged trace rfl rfl rfl
  | faulted => exact trace_unchanged trace rfl rfl rfl
  | rejected refused => exact trace_unchanged trace rfl rfl rfl
  | restarted => exact trace_unchanged trace rfl rfl rfl

end Steps

private theorem channelOf_start {db : DB} (fresh : db.results.rows = []) :
    channelOf (.start db) = Channel.empty := by
  apply Channel.ext
  · ext run
    simp [channelOf, DeliverySystem.start, Channel.empty]
  · ext run
    simp [channelOf, DeliverySystem.start, Channel.empty, rowsOf, fresh]
  · ext run
    simp [channelOf, DeliverySystem.start, Channel.empty]

/-- Every run of the system is a trace of the channel. -/
theorem delivery_refines_channel (codec : JsonCodec) (cfg : Nat → Config) {db : DB}
    (fresh : db.results.rows = []) {events : List DeliveryEvent} {system : DeliverySystem}
    (run : exec (deliveryNext codec cfg) (.start db) events = some system) :
    Channel.Trace (emitted (deliveryNext codec cfg) (channelActions codec) (.start db) events)
      (channelOf system) := by
  refine exec_simulates (Delivered codec) Channel.Trace channelOf (delivered_start fresh) ?_ ?_ ?_ run
  · rw [channelOf_start fresh]
    exact .start
  · exact fun _ _ _ held step => delivered_next held step
  · exact fun _ _ _ _ held step trace => trace_next held step trace

/-- In no run is a run's payload written twice, and whatever was confirmed to the agent
by a deletion is in the table. -/
theorem runs_delivered_once (codec : JsonCodec) (cfg : Nat → Config) {db : DB}
    (fresh : db.results.rows = []) {events : List DeliveryEvent} {system : DeliverySystem}
    (run : exec (deliveryNext codec cfg) (.start db) events = some system) :
    (Channel.deliveries (emitted (deliveryNext codec cfg) (channelActions codec) (.start db) events)).Nodup ∧
      (channelOf system).confirmed ⊆ (channelOf system).delivered ∧
      (channelOf system).delivered ⊆ (channelOf system).offered :=
  have trace := delivery_refines_channel codec cfg fresh run
  ⟨trace.deliveries_nodup, trace.ordered⟩

end NetLatencyMonitor.System
