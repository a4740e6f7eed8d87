import NetLatencyMonitor.Controller.Nodes

/-! `GET /api/v1/targets`. -/

namespace NetLatencyMonitor.Controller

open Text

structure TargetEntry where
  id : GoString
  address : GoString
deriving DecidableEq, Repr

structure TargetsResponse where
  targetsVersion : Int
  targets : List TargetEntry
deriving DecidableEq, Repr

/-- The body `handleTargets` writes for what `HubTargetsFor` returned. -/
def targetsResponse (hubs : List Node) (version : Int) : TargetsResponse where
  targetsVersion := version
  targets := hubs.map (fun hub => ⟨hub.id, hub.address⟩)

/-- The answer to an authenticated agent, both statements at one moment. -/
def handleTargets (db : DB) (nodeID : GoString) : TargetsResponse :=
  let (hubs, version) := NodeStore.hubTargetsFor db nodeID
  targetsResponse hubs version

end NetLatencyMonitor.Controller
