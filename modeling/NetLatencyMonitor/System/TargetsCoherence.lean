import NetLatencyMonitor.Agent.TargetCache
import NetLatencyMonitor.Controller.StoreCalls
import NetLatencyMonitor.Controller.TargetsVersion
import NetLatencyMonitor.Machine.Execution
import NetLatencyMonitor.Machine.VersionedCopy

/-! The controller's registry and one agent's target cache. Admin calls, target
fetches and results posts interleave one SQL statement at a time, a call may be
cancelled between two of its statements, and any response may be lost. The JSON of
a response is kept as the value it encodes; that encoding replaces bytes which are no
UTF-8 is left out. -/

namespace NetLatencyMonitor.System

open Agent Clock Controller Machine Text

/-- A fetch of the agent: which statement of `HubTargetsFor` is next, or the response
on its way back. -/
inductive Fetch where
  | queryNodes
  | queryVersion (hubs : List Node)
  | answered (response : TargetsResponse)
  | ended

structure TargetsSystem where
  db : DB
  calls : List StoreCall
  fetches : List Fetch
  echoes : List Int
  cache : TargetCache

/-- A fresh database and an agent that has not fetched yet. -/
def TargetsSystem.start : TargetsSystem := ⟨.migrated, [], [], [], {}⟩

inductive TargetsEvent where
  | upsert (n : Node)
  | delete (id : GoString)
  | statement (call : Nat)
  | cancel (call : Nat)
  | refresh (now : Time)
  | fetch (number : Nat) (now : Time)
  | lose (fetch : Nat)
  | echo
  | notice (echo : Nat)
  | spoolStats (id : GoString) (stats : NodeStore.SpoolStats)
  | result (row : ResultRow)
  | restartAgent

/-- What a cancelled call returns: the error of the statement it was about to run,
except that the error of the bump is discarded. -/
def cancelled : StoreCall → Option StoreCall
  | .returned _ => none
  | .bump => some (.returned (.ok ()))
  | _ => some (.returned (.error (.sql (.other (lit "context canceled")))))

section Steps

variable (nodeID : GoString) (maxAge : Duration)

/-- The next step of a fetch: the two queries of `HubTargetsFor` for the agent, then
the delivery of the response. -/
def fetchStep (system : TargetsSystem) (number : Nat) (now : Time) : Fetch → Option TargetsSystem
  | .queryNodes => some { system with
      fetches := system.fetches.set number (.queryVersion (NodeStore.hubTargetRows system.db nodeID)) }
  | .queryVersion hubs => some { system with
      fetches := system.fetches.set number (.answered (targetsResponse hubs system.db.targetsVersion)) }
  | .answered response => some { system with
      fetches := system.fetches.set number .ended
      cache := system.cache.store response now }
  | .ended => none

def targetsNext (system : TargetsSystem) : TargetsEvent → Option TargetsSystem
  | .upsert n => some { system with calls := system.calls ++ [.upsertGet n] }
  | .delete id => some { system with calls := system.calls ++ [.deleteGet id] }
  | .statement number =>
    (system.calls[number]?).bind (fun call => (call.step system.db).map (fun (db, next) =>
      { system with db, calls := system.calls.set number next }))
  | .cancel number =>
    (system.calls[number]?).bind (fun call => (cancelled call).map (fun next =>
      { system with calls := system.calls.set number next }))
  | .refresh now =>
    if system.cache.needRefresh maxAge now then
      some { system with fetches := system.fetches ++ [.queryNodes] }
    else none
  | .fetch number now => (system.fetches[number]?).bind (fetchStep nodeID system number now)
  | .lose number => some { system with fetches := system.fetches.set number .ended }
  | .echo => some { system with echoes := system.echoes ++ [system.db.targetsVersion] }
  | .notice number =>
    (system.echoes[number]?).map (fun v => { system with cache := system.cache.noticeVersion v })
  | .spoolStats id stats =>
    (NodeStore.updateSpoolStats system.db id stats).toOption.map (fun db => { system with db })
  | .result row => (system.db.insertResult row).toOption.map (fun db => { system with db })
  | .restartAgent => some { system with cache := {}, fetches := [] }

end Steps

/-- The list the agent should have: the registered hubs but itself, enabled and with an address. -/
def currentTargets (db : DB) (nodeID : GoString) : List Target :=
  (NodeStore.hubTargetRows db nodeID).map (fun hub => ⟨hub.id, hub.address⟩)

/-- A write that changes the target set is made by a call that will bump, judging by
the row it read. -/
def BumpsIfChanging (db : DB) : StoreCall → Prop
  | .upsertWrite n prior =>
    NodeStore.hubSetChanged (NodeStore.get db n.id).toOption n = true →
      NodeStore.hubSetChanged prior n = true
  | .deleteWrite id prior => activeAddress db id ≠ none → NodeStore.deleteBumps prior = true
  | _ => True

/-- The condition on a step: no write on a stale reading, no cancellation between a
write and its bump, and no version read for a list that a finished change has
overtaken. -/
def Careful (nodeID : GoString) (system : TargetsSystem) : TargetsEvent → Prop
  | .statement number => ∀ call, system.calls[number]? = some call → BumpsIfChanging system.db call
  | .cancel number => system.calls[number]? ≠ some .bump
  | .fetch number _ => ∀ hubs, system.fetches[number]? = some (.queryVersion hubs) →
      hubs = NodeStore.hubTargetRows system.db nodeID ∨ .bump ∈ system.calls
  | _ => True

/-- The registry as the owner of a versioned target list. -/
def published (nodeID : GoString) (db : DB) (calls : List StoreCall) : Source (List Target) :=
  ⟨currentTargets db nodeID, db.targetsVersion, .bump ∈ calls⟩

private theorem currentTargets_congr {first second : DB}
    (same : ∀ id, activeAddress first id = activeAddress second id) (nodeID : GoString) :
    currentTargets first nodeID = currentTargets second nodeID := by
  unfold currentTargets
  rw [hubTargetRows_congr same nodeID]

private theorem decodeTargets_targetsResponse (hubs : List Node) (version : Int) :
    TargetCache.decodeTargets (targetsResponse hubs version) = hubs.map (fun hub => ⟨hub.id, hub.address⟩) := by
  simp only [TargetCache.decodeTargets, targetsResponse, List.map_map]
  rfl

private theorem mem_set_of_ne {Item : Type} {items : List Item} {item old new : Item} {place : Nat}
    (found : items[place]? = some old) (different : old ≠ item) (member : item ∈ items) :
    item ∈ items.set place new := by
  obtain ⟨other, here⟩ := List.mem_iff_getElem?.mp member
  have elsewhere : place ≠ other := by
    intro same
    subst other
    exact different (Option.some.inj (found.symm.trans here))
  exact List.mem_iff_getElem?.mpr ⟨other, by rw [List.getElem?_set_ne elsewhere]; exact here⟩

private theorem mem_set_here {Item : Type} {items : List Item} {old new : Item} {place : Nat}
    (found : items[place]? = some old) : new ∈ items.set place new := by
  have bound := (List.getElem?_eq_some_iff.mp found).1
  exact List.mem_iff_getElem?.mpr ⟨place, List.getElem?_set_self bound⟩

section Owner

variable {nodeID : GoString} {db after : DB} {calls : List StoreCall} {number : Nat} {call next : StoreCall}

/-- A statement that leaves target set and version alone. -/
theorem published_keep (found : calls[number]? = some call) (running : call ≠ .bump)
    (same : ∀ id, activeAddress after id = activeAddress db id)
    (version : after.targetsVersion = db.targetsVersion) :
    (published nodeID db calls).Step (published nodeID after (calls.set number next)) :=
  .keep (currentTargets_congr same nodeID) version (mem_set_of_ne found running)

/-- One statement of a call that bumps whenever it changes the target set. -/
theorem published_statement (found : calls[number]? = some call) (bumps : BumpsIfChanging db call)
    (taken : call.step db = some (after, next)) :
    (published nodeID db calls).Step (published nodeID after (calls.set number next)) := by
  cases call with
  | upsertGet n =>
    rw [StoreCall.step_upsertGet] at taken
    cases taken
    exact published_keep found (by simp) (fun _ => rfl) rfl
  | upsertWrite n prior =>
    rcases StoreCall.step_upsertWrite taken with ⟨error, _, rfl, _⟩ | ⟨done, rfl⟩
    · exact published_keep found (by simp) (fun _ => rfl) rfl
    · have version := (NodeStore.writeNode_frame done).2
      by_cases changed : NodeStore.hubSetChanged (NodeStore.get db n.id).toOption n = true
      · rw [bumps changed]
        exact .change version (mem_set_here found)
      · exact published_keep found (by simp) (activeAddress_unchanged done changed) version
  | deleteGet id =>
    obtain ⟨rfl, _⟩ := StoreCall.step_deleteGet taken
    exact published_keep found (by simp) (fun _ => rfl) rfl
  | deleteWrite id prior =>
    rcases StoreCall.step_deleteWrite taken with ⟨error, _, rfl, _⟩ | ⟨removed, done, rfl⟩
    · exact published_keep found (by simp) (fun _ => rfl) rfl
    · obtain ⟨_, version, counted⟩ := NodeStore.deleteNode_frame done
      have targets := activeAddress_deleteNode done
      by_cases probed : activeAddress db id = none
      · refine published_keep found (by simp) (fun other => ?_) version
        rw [targets]
        split
        · rename_i same
          rw [same, probed]
        · rfl
      · -- the row that is probed is there, so the deletion counts it and the call goes on to bump
        have present : removed ≠ 0 := by
          intro none
          cases stored : db.nodes.find? id with
          | none => exact probed (by simp [activeAddress, NodeStore.get_toOption, stored])
          | some row =>
            rw [stored, none] at counted
            cases counted
        rw [if_neg present, bumps probed]
        exact .change version (mem_set_here found)
  | bump =>
    obtain ⟨rfl, rfl⟩ := StoreCall.step_bump taken
    exact .raise (Int.lt_succ _)
  | returned result => cases taken

private theorem published_cancel (found : calls[number]? = some call) (running : call ≠ .bump) :
    (published nodeID db calls).Step (published nodeID db (calls.set number next)) :=
  published_keep found running (fun _ => rfl) rfl

private theorem published_start (call : StoreCall) :
    (published nodeID db calls).Step (published nodeID db (calls ++ [call])) :=
  .keep rfl rfl (List.mem_append_left _)

private theorem published_same (same : ∀ id, activeAddress after id = activeAddress db id)
    (version : after.targetsVersion = db.targetsVersion) :
    (published nodeID db calls).Step (published nodeID after calls) :=
  .keep (currentTargets_congr same nodeID) version id

end Owner

section Runs

variable {nodeID : GoString} {maxAge : Duration} {system after : TargetsSystem} {event : TargetsEvent}

/-- Results posts leave target set and version alone. -/
theorem updateSpoolStats_targets {db after : DB} {id : GoString} {stats : NodeStore.SpoolStats}
    (done : NodeStore.updateSpoolStats db id stats = .ok after) :
    (∀ other, activeAddress after other = activeAddress db other) ∧
      after.targetsVersion = db.targetsVersion := by
  obtain ⟨_, oldest, rfl⟩ := NodeStore.updateSpoolStats_ok done
  exact ⟨activeAddress_updateSpool db id _ _ _ _, rfl⟩

private theorem insertResult_targets {db after : DB} {row : ResultRow} (done : db.insertResult row = .ok after) :
    (∀ other, activeAddress after other = activeAddress db other) ∧
      after.targetsVersion = db.targetsVersion := by
  unfold DB.insertResult at done
  split at done
  · cases done
  · split at done
    · cases done
      exact ⟨fun _ => rfl, rfl⟩
    · cases done

private theorem fetchStep_frame {number : Nat} {now : Time} {fetch : Fetch}
    (taken : fetchStep nodeID system number now fetch = some after) :
    after.db = system.db ∧ after.calls = system.calls := by
  cases fetch with
  | queryNodes =>
    cases taken
    exact ⟨rfl, rfl⟩
  | queryVersion hubs =>
    cases taken
    exact ⟨rfl, rfl⟩
  | answered response =>
    cases taken
    exact ⟨rfl, rfl⟩
  | ended => cases taken

/-- A careful step of the system is a step of an owner that keeps its word. -/
theorem published_next (careful : Careful nodeID system event)
    (taken : targetsNext nodeID maxAge system event = some after) :
    (published nodeID system.db system.calls).Step (published nodeID after.db after.calls) := by
  have idle : (published nodeID system.db system.calls).Step (published nodeID system.db system.calls) :=
    published_same (fun _ => rfl) rfl
  cases event with
  | upsert n =>
    cases taken
    exact published_start _
  | delete id =>
    cases taken
    exact published_start _
  | statement number =>
    obtain ⟨call, found, moved⟩ := Option.bind_eq_some_iff.mp taken
    obtain ⟨⟨db, next⟩, stepped, same⟩ := Option.map_eq_some_iff.mp moved
    cases same
    exact published_statement found (careful call found) stepped
  | cancel number =>
    obtain ⟨call, found, moved⟩ := Option.bind_eq_some_iff.mp taken
    obtain ⟨next, _, same⟩ := Option.map_eq_some_iff.mp moved
    cases same
    refine published_cancel found (fun bump => ?_)
    rw [bump] at found
    exact careful found
  | refresh now =>
    simp only [targetsNext] at taken
    split at taken
    · cases taken
      exact idle
    · cases taken
  | fetch number now =>
    obtain ⟨fetch, _, stepped⟩ := Option.bind_eq_some_iff.mp taken
    obtain ⟨db, calls⟩ := fetchStep_frame stepped
    rw [db, calls]
    exact idle
  | lose number =>
    cases taken
    exact idle
  | echo =>
    cases taken
    exact idle
  | notice number =>
    obtain ⟨v, _, same⟩ := Option.map_eq_some_iff.mp taken
    cases same
    exact idle
  | spoolStats id stats =>
    obtain ⟨db, done, same⟩ := Option.map_eq_some_iff.mp taken
    cases same
    obtain ⟨targets, version⟩ := updateSpoolStats_targets (ok_of_toOption done)
    exact published_same targets version
  | result row =>
    obtain ⟨db, done, same⟩ := Option.map_eq_some_iff.mp taken
    cases same
    obtain ⟨targets, version⟩ := insertResult_targets (ok_of_toOption done)
    exact published_same targets version
  | restartAgent =>
    cases taken
    exact idle

/-- The copies of the target list outside the database: the cache, and responses on
their way to it. -/
def Holds (system : TargetsSystem) (copy : Copy (List Target)) : Prop :=
  copy = ⟨system.cache.targets, system.cache.knownVersion⟩ ∨
    ∃ response, .answered response ∈ system.fetches ∧
      copy = ⟨TargetCache.decodeTargets response, response.targetsVersion⟩

private theorem answered_mem_set {fetches : List Fetch} {place : Nat} {new : Fetch} {response : TargetsResponse}
    (member : .answered response ∈ fetches.set place new) :
    .answered response ∈ fetches ∨ new = .answered response := by
  rcases List.mem_or_eq_of_mem_set member with old | same
  · exact Or.inl old
  · exact Or.inr same.symm

/-- Where a copy comes from: it was held before, it is the empty copy of a restarted
agent, or it joins a list read earlier to the version read now. -/
theorem holds_next (taken : targetsNext nodeID maxAge system event = some after)
    {copy : Copy (List Target)} (holds : Holds after copy) :
    Holds system copy ∨ copy = ⟨[], 0⟩ ∨
      ∃ number now hubs, event = .fetch number now ∧
        system.fetches[number]? = some (.queryVersion hubs) ∧
        copy = ⟨TargetCache.decodeTargets (targetsResponse hubs system.db.targetsVersion),
          system.db.targetsVersion⟩ := by
  cases event with
  | upsert n =>
    cases taken
    exact Or.inl holds
  | delete id =>
    cases taken
    exact Or.inl holds
  | statement number =>
    obtain ⟨call, _, moved⟩ := Option.bind_eq_some_iff.mp taken
    obtain ⟨_, _, same⟩ := Option.map_eq_some_iff.mp moved
    cases same
    exact Or.inl holds
  | cancel number =>
    obtain ⟨call, _, moved⟩ := Option.bind_eq_some_iff.mp taken
    obtain ⟨_, _, same⟩ := Option.map_eq_some_iff.mp moved
    cases same
    exact Or.inl holds
  | refresh now =>
    simp only [targetsNext] at taken
    split at taken
    · cases taken
      refine Or.inl (holds.imp_right (fun ⟨response, member, same⟩ => ⟨response, ?_, same⟩))
      rcases List.mem_append.mp member with old | new
      · exact old
      · cases List.mem_singleton.mp new
    · cases taken
  | fetch number now =>
    obtain ⟨fetch, found, stepped⟩ := Option.bind_eq_some_iff.mp taken
    cases fetch with
    | queryNodes =>
      cases stepped
      refine Or.inl (holds.imp_right (fun ⟨response, member, same⟩ => ⟨response, ?_, same⟩))
      rcases answered_mem_set member with old | new
      · exact old
      · cases new
    | queryVersion hubs =>
      cases stepped
      rcases holds with cached | ⟨response, member, same⟩
      · exact Or.inl (Or.inl cached)
      · rcases answered_mem_set member with old | new
        · exact Or.inl (Or.inr ⟨response, old, same⟩)
        · cases new
          exact Or.inr (Or.inr ⟨number, now, hubs, rfl, found, same⟩)
    | answered delivered =>
      cases stepped
      rcases holds with cached | ⟨response, member, same⟩
      · exact Or.inl (Or.inr ⟨delivered, List.mem_of_getElem? found, cached⟩)
      · rcases answered_mem_set member with old | new
        · exact Or.inl (Or.inr ⟨response, old, same⟩)
        · cases new
    | ended => cases stepped
  | lose number =>
    cases taken
    refine Or.inl (holds.imp_right (fun ⟨response, member, same⟩ => ⟨response, ?_, same⟩))
    rcases answered_mem_set member with old | new
    · exact old
    · cases new
  | echo =>
    cases taken
    exact Or.inl holds
  | notice number =>
    obtain ⟨v, _, same⟩ := Option.map_eq_some_iff.mp taken
    cases same
    rw [Holds, TargetCache.noticeVersion_targets, TargetCache.noticeVersion_knownVersion] at holds
    exact Or.inl holds
  | spoolStats id stats =>
    obtain ⟨db, _, same⟩ := Option.map_eq_some_iff.mp taken
    cases same
    exact Or.inl holds
  | result row =>
    obtain ⟨db, _, same⟩ := Option.map_eq_some_iff.mp taken
    cases same
    exact Or.inl holds
  | restartAgent =>
    cases taken
    rcases holds with cached | ⟨response, member, _⟩
    · exact Or.inr (Or.inl cached)
    · cases member

/-- Every copy is covered by the registry. -/
structure Coherent (nodeID : GoString) (system : TargetsSystem) : Prop where
  positive : 0 < system.db.targetsVersion
  covered : ∀ copy, Holds system copy → (published nodeID system.db system.calls).Covers copy

private theorem coherent_start (nodeID : GoString) : Coherent nodeID .start where
  positive := by decide
  covered := by
    intro copy holds
    rcases holds with rfl | ⟨response, member, _⟩
    · exact Source.covers_older Int.zero_lt_one
    · cases member

private theorem coherent_next (careful : Careful nodeID system event)
    (taken : targetsNext nodeID maxAge system event = some after) (coherent : Coherent nodeID system) :
    Coherent nodeID after := by
  have owner := published_next careful taken
  refine ⟨Int.lt_of_lt_of_le coherent.positive owner.version_le, fun copy holds => ?_⟩
  rcases holds_next taken holds with old | rfl | ⟨number, now, hubs, rfl, found, rfl⟩
  · exact (coherent.covered copy old).step owner
  · exact (Source.covers_older coherent.positive).step owner
  · have read : (published nodeID system.db system.calls).Covers
        ⟨TargetCache.decodeTargets (targetsResponse hubs system.db.targetsVersion),
          system.db.targetsVersion⟩ := by
      apply Source.covers_read
      rcases careful hubs found with current | raising
      · rw [current, decodeTargets_targetsResponse]
        exact Or.inl rfl
      · exact Or.inr raising
    exact read.step owner

end Runs

/-- A run of careful steps never leaves a stale list under the current version. -/
theorem no_silently_stale_cache (nodeID : GoString) (maxAge : Duration) (events : List TargetsEvent)
    (final : TargetsSystem) (run : exec (targetsNext nodeID maxAge) .start events = some final)
    (careful : Along (targetsNext nodeID maxAge) (Careful nodeID) .start events)
    (quiet : ∀ call ∈ final.calls, ∃ result, call = .returned result)
    (known : final.cache.knownVersion = final.db.targetsVersion) :
    final.cache.targets = currentTargets final.db nodeID := by
  have coherent : Coherent nodeID final :=
    exec_invariant_along (Coherent nodeID) (coherent_start nodeID)
      (fun _ _ _ held met stepped => coherent_next met stepped held) careful run
  have covered := coherent.covered ⟨final.cache.targets, final.cache.knownVersion⟩ (Or.inl rfl)
  rcases covered.2 known with current | raising
  · exact current
  · obtain ⟨result, same⟩ := quiet .bump raising
    cases same

def hubOne : Node := { id := lit "hub-1", role := roleHub, address := lit "10.0.0.1:9000" }

/-- The agent's node query runs before a hub is created, its version query after the
bump: the cache keeps the empty list under the new version. -/
theorem list_before_version_after_stale :
    ¬ ∀ (events : List TargetsEvent) (final : TargetsSystem),
      exec (targetsNext (lit "spoke-1") 0) .start events = some final →
      (∀ call ∈ final.calls, ∃ result, call = .returned result) →
      final.cache.knownVersion = final.db.targetsVersion →
      final.cache.targets = currentTargets final.db (lit "spoke-1") := by
  intro always
  have stale := always
    [.refresh 1, .fetch 0 1, .upsert hubOne, .statement 0, .statement 0, .statement 0, .fetch 0 2, .fetch 0 3]
    _ rfl (fun call member => ⟨_, List.mem_singleton.mp member⟩) rfl
  exact absurd stale (by decide)

/-- The same hub, created before the agent asks. -/
theorem fetch_after_create_current :
    ∃ final, exec (targetsNext (lit "spoke-1") 0) .start
        [.upsert hubOne, .statement 0, .statement 0, .statement 0, .refresh 1, .fetch 0 1, .fetch 0 2,
          .fetch 0 3] = some final ∧
      final.cache.knownVersion = final.db.targetsVersion ∧
      final.cache.targets = currentTargets final.db (lit "spoke-1") := by
  refine ⟨_, rfl, rfl, no_silently_stale_cache (lit "spoke-1") 0
    [.upsert hubOne, .statement 0, .statement 0, .statement 0, .refresh 1, .fetch 0 1, .fetch 0 2, .fetch 0 3]
    _ rfl ?_ (fun call member => ⟨_, List.mem_singleton.mp member⟩) rfl⟩
  refine ⟨trivial, fun _ created => ?_⟩
  cases created
  refine ⟨fun _ found => ?_, fun _ read => ?_⟩
  · cases found
    trivial
  cases read
  refine ⟨fun _ found => ?_, fun _ written => ?_⟩
  · cases found
    exact fun changed => changed
  cases written
  refine ⟨fun _ found => ?_, fun _ bumped => ?_⟩
  · cases found
    trivial
  cases bumped
  refine ⟨trivial, fun _ asked => ?_⟩
  cases asked
  refine ⟨fun _ found => ?_, fun _ listed => ?_⟩
  · cases found
  cases listed
  refine ⟨fun _ found => ?_, fun _ versioned => ?_⟩
  · cases found
    exact Or.inl rfl
  cases versioned
  refine ⟨fun _ found => ?_, fun _ _ => trivial⟩
  cases found

end NetLatencyMonitor.System
