import NetLatencyMonitor.Agent.TargetCache
import NetLatencyMonitor.Text.Number

/-! The agent's configuration from environment variables. -/

namespace NetLatencyMonitor.Agent

open Clock Text
open Controller (ok_of_bind)

/-- The environment as `os.LookupEnv` reads it. -/
abbrev Env := GoString → Option GoString

inductive ConfigError where
  | notSet (key : GoString)
  | invalidInteger (key value : GoString) (error : NumError)
  | notPositive (key : GoString)
  | negative (key : GoString)
  | unreadableSecret (path text : GoString)
  | emptySecret (path : GoString)
  | malformedTarget (index : Nat) (part : GoString)
  | incompleteTarget (index : Nat) (part : GoString)
  | duplicateTarget (id : GoString)
deriving DecidableEq, Repr

/-- The error's message; `quote` is the verb `%q`. -/
def ConfigError.text (quote : GoString → GoString) : ConfigError → GoString
  | .notSet key => key ++ lit " must be set"
  | .invalidInteger key value error =>
    key ++ lit ": invalid integer " ++ quote value ++ lit ": strconv.Atoi: parsing " ++ quote value ++
      lit ": " ++ error.text
  | .notPositive key => key ++ lit " must be > 0"
  | .negative key => key ++ lit " must be >= 0"
  | .unreadableSecret path text => lit "read NLM_NODE_SECRET_PATH (" ++ path ++ lit "): " ++ text
  | .emptySecret path => lit "NLM_NODE_SECRET_PATH (" ++ path ++ lit ") is empty"
  | .malformedTarget index part =>
    lit "NLM_PROBE_TARGETS[" ++ lit (toString index) ++ lit "]: expected id=host:port, got " ++ quote part
  | .incompleteTarget index part =>
    lit "NLM_PROBE_TARGETS[" ++ lit (toString index) ++ lit "]: empty id or address in " ++ quote part
  | .duplicateTarget id => lit "NLM_PROBE_TARGETS: duplicate target id " ++ quote id

def getString (env : Env) (key default : GoString) : GoString :=
  match env key with
  | some v => if v = [] then default else v
  | none => default

def getInt (env : Env) (key : GoString) (default : Int) : Except ConfigError Int :=
  match env key with
  | none => .ok default
  | some v =>
    if v = [] then .ok default
    else match atoi v with
      | .error error => .error (.invalidInteger key v error)
      | .ok n => .ok n

theorem getInt_lt {env : Env} {key : GoString} {default n : Int} (fits : default < 2 ^ 63)
    (read : getInt env key default = .ok n) : n < 2 ^ 63 := by
  unfold getInt at read
  split at read
  · cases read
    exact fits
  split at read
  · cases read
    exact fits
  split at read
  · cases read
  · rename_i parsed
    cases read
    exact atoi_lt parsed

/-- A number of seconds that has to be positive, as a duration. -/
def positiveSeconds (env : Env) (key : GoString) (default : Int) : Except ConfigError Duration :=
  match getInt env key default with
  | .error error => .error error
  | .ok n => if n ≤ 0 then .error (.notPositive key) else .ok (wrap64 (n * second))

/-- A number of seconds that may be zero. -/
def nonnegativeSeconds (env : Env) (key : GoString) (default : Int) : Except ConfigError Duration :=
  match getInt env key default with
  | .error error => .error error
  | .ok n => if n < 0 then .error (.negative key) else .ok (wrap64 (n * second))

/-- One part of the list. `eq <= 0` is a part without `=` or with nothing before it,
`eq == len(p)-1` one with nothing behind it. -/
def parseTarget (index : Nat) (seen : List GoString) (p : GoString) : Except ConfigError Target :=
  let (before, behind) := cut 0x3d p
  if before = [] ∨ behind = [] then .error (.malformedTarget index p)
  else
    let t : Target := ⟨trimSpace before, trimSpace behind⟩
    if t.id = [] ∨ t.address = [] then .error (.incompleteTarget index p)
    else if t.id ∈ seen then .error (.duplicateTarget t.id)
    else .ok t

/-- The loop of `parseTargets`, with the ids seen so far. -/
def parseParts : Nat → List GoString → List GoString → Except ConfigError (List Target)
  | _, _, [] => .ok []
  | index, seen, part :: rest =>
    let p := trimSpace part
    if p = [] then parseParts (index + 1) seen rest
    else match parseTarget index seen p with
      | .error error => .error error
      | .ok t =>
        match parseParts (index + 1) (t.id :: seen) rest with
        | .error error => .error error
        | .ok out => .ok (t :: out)

def parseTargets (raw : GoString) : Except ConfigError (List Target) :=
  let raw := trimSpace raw
  if raw = [] then .ok [] else parseParts 0 [] (split 0x2c raw)

/-- `loadAgentSecret`; a failed `os.ReadFile` is its error text. -/
def loadAgentSecret (env : Env) (readFile : GoString → Except GoString GoString) :
    Except ConfigError GoString :=
  let v := (env (lit "NLM_NODE_SECRET")).getD []
  if v ≠ [] then .ok (trimSpace v)
  else
    let path := getString env (lit "NLM_NODE_SECRET_PATH") (lit "/var/lib/nlm/node.secret")
    match readFile path with
    | .error text => .error (.unreadableSecret path text)
    | .ok data =>
      let secret := trimSpace data
      if secret = [] then .error (.emptySecret path) else .ok secret

structure AgentConfig where
  nodeID : GoString
  nodeSecret : GoString
  controllerURL : GoString
  targets : List Target
  probeTimeout : Duration
  httpTimeout : Duration
  startupJitter : Duration
  hubProbeInterval : Duration
  hubRefreshInterval : Duration
deriving DecidableEq, Repr

def loadAgent (env : Env) (readFile : GoString → Except GoString GoString) :
    Except ConfigError AgentConfig :=
  let nodeID := getString env (lit "NLM_NODE_ID") []
  let controllerURL := getString env (lit "NLM_CONTROLLER_URL") []
  if nodeID = [] then .error (.notSet (lit "NLM_NODE_ID"))
  else if controllerURL = [] then .error (.notSet (lit "NLM_CONTROLLER_URL"))
  else do
    let nodeSecret ← loadAgentSecret env readFile
    let targets ← parseTargets (getString env (lit "NLM_PROBE_TARGETS") [])
    let probeTimeout ← positiveSeconds env (lit "NLM_PROBE_TIMEOUT") 5
    let httpTimeout ← positiveSeconds env (lit "NLM_HTTP_TIMEOUT") 10
    let startupJitter ← nonnegativeSeconds env (lit "NLM_STARTUP_JITTER") 10
    let hubProbeInterval ← positiveSeconds env (lit "NLM_HUB_PROBE_INTERVAL") 60
    let hubRefreshInterval ← positiveSeconds env (lit "NLM_HUB_REFRESH_INTERVAL") 300
    return {
      nodeID, nodeSecret, controllerURL, targets, probeTimeout, httpTimeout, startupJitter,
      hubProbeInterval, hubRefreshInterval }

/-- Targets with an id each, and no id twice. -/
def DistinctTargets (targets : List Target) : Prop :=
  (targets.map Target.id).Nodup ∧ ∀ t ∈ targets, t.id ≠ []

theorem parseTarget_ok {index : Nat} {seen : List GoString} {p : GoString} {t : Target}
    (parsed : parseTarget index seen p = .ok t) : t.id ≠ [] ∧ t.address ≠ [] ∧ t.id ∉ seen := by
  simp only [parseTarget] at parsed
  split at parsed
  · cases parsed
  · split at parsed
    · cases parsed
    · rename_i complete
      split at parsed
      · cases parsed
      · rename_i fresh
        cases parsed
        exact ⟨fun empty => complete (Or.inl empty), fun empty => complete (Or.inr empty), fresh⟩

private theorem parseParts_ok {parts : List GoString} {index : Nat} {seen : List GoString} {targets : List Target}
    (parsed : parseParts index seen parts = .ok targets) :
    DistinctTargets targets ∧ ∀ t ∈ targets, t.id ∉ seen := by
  induction parts generalizing index seen targets with
  | nil =>
    cases parsed
    exact ⟨⟨List.nodup_nil, fun t member => by cases member⟩, fun t member => by cases member⟩
  | cons part rest ih =>
    simp only [parseParts] at parsed
    split at parsed
    · exact ih parsed
    · split at parsed
      · cases parsed
      · rename_i t first
        split at parsed
        · cases parsed
        · rename_i out later
          cases parsed
          obtain ⟨named, _, fresh⟩ := parseTarget_ok first
          obtain ⟨⟨distinct, allNamed⟩, unseen⟩ := ih later
          refine ⟨⟨?_, ?_⟩, ?_⟩
          · refine List.nodup_cons.mpr ⟨fun repeated => ?_, distinct⟩
            obtain ⟨other, member, same⟩ := List.mem_map.mp repeated
            exact unseen other member (same ▸ List.mem_cons_self)
          · intro other member
            rcases List.mem_cons.mp member with rfl | tail
            · exact named
            · exact allNamed other tail
          · intro other member
            rcases List.mem_cons.mp member with rfl | tail
            · exact fresh
            · exact fun old => unseen other tail (List.mem_cons_of_mem _ old)

theorem parseTargets_ok {raw : GoString} {targets : List Target} (parsed : parseTargets raw = .ok targets) :
    DistinctTargets targets := by
  simp only [parseTargets] at parsed
  split at parsed
  · cases parsed
    exact ⟨List.nodup_nil, fun t member => by cases member⟩
  · exact (parseParts_ok parsed).1

/-- What an accepted configuration says about identity and targets: the id is there, but
it is taken as it stands. -/
theorem loadAgent_ok {env : Env} {readFile : GoString → Except GoString GoString} {cfg : AgentConfig}
    (loaded : loadAgent env readFile = .ok cfg) :
    cfg.nodeID = getString env (lit "NLM_NODE_ID") [] ∧ cfg.nodeID ≠ [] ∧
      parseTargets (getString env (lit "NLM_PROBE_TARGETS") []) = .ok cfg.targets := by
  simp only [loadAgent] at loaded
  split at loaded
  · cases loaded
  · rename_i named
    split at loaded
    · cases loaded
    · obtain ⟨nodeSecret, _, loaded⟩ := ok_of_bind loaded
      obtain ⟨targets, parsed, loaded⟩ := ok_of_bind loaded
      obtain ⟨probeTimeout, _, loaded⟩ := ok_of_bind loaded
      obtain ⟨httpTimeout, _, loaded⟩ := ok_of_bind loaded
      obtain ⟨startupJitter, _, loaded⟩ := ok_of_bind loaded
      obtain ⟨hubProbeInterval, _, loaded⟩ := ok_of_bind loaded
      obtain ⟨hubRefreshInterval, _, loaded⟩ := ok_of_bind loaded
      cases loaded
      exact ⟨rfl, named, parsed⟩

end NetLatencyMonitor.Agent
