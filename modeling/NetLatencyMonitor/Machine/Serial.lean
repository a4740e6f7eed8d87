import NetLatencyMonitor.Machine.Execution

/-! Serializability by commit order. Requests are sequences of atomic steps on one
shared state, interleaved freely. When each request has a step at which it decides
its reply, does there what the whole request would do on the state of that moment,
and only what nobody compares before and after, the requests served one after
another in the order of those steps give the same replies and the same state. -/

namespace NetLatencyMonitor.Machine

universe u

variable {Shared Request Phase Reply : Type u}

/-- The shared state and the next step of each request. -/
structure Pool (Shared Phase : Type u) where
  shared : Shared
  phases : List Phase

/-- One atomic step of the request with the given number. -/
def Pool.advance (step : Phase → Shared → Option (Shared × Phase)) (pool : Pool Shared Phase)
    (number : Nat) : Option (Pool Shared Phase) :=
  (pool.phases[number]?).bind (fun phase =>
    (step phase pool.shared).map (fun after => ⟨after.1, pool.phases.set number after.2⟩))

private theorem Pool.advance_eq_some_iff {step : Phase → Shared → Option (Shared × Phase)}
    {pool after : Pool Shared Phase} {number : Nat} :
    pool.advance step number = some after ↔
      ∃ phase shared next, pool.phases[number]? = some phase ∧
        step phase pool.shared = some (shared, next) ∧
        after = ⟨shared, pool.phases.set number next⟩ := by
  unfold Pool.advance
  rw [Option.bind_eq_some_iff]
  constructor
  · intro ⟨phase, found, stepped⟩
    obtain ⟨⟨shared, next⟩, taken, same⟩ := Option.map_eq_some_iff.mp stepped
    exact ⟨phase, shared, next, found, taken, same.symm⟩
  · intro ⟨phase, shared, next, found, taken, same⟩
    refine ⟨phase, found, ?_⟩
    rw [taken, same]
    rfl

/-- Serve the listed requests one after another; replies carry the request's number. -/
def serial (serve : Request → Shared → Shared × Reply) (requests : List Request) :
    List Nat → Shared → Shared × List (Nat × Reply)
  | [], shared => (shared, [])
  | number :: rest, shared =>
    match requests[number]? with
    | none => serial serve requests rest shared
    | some request =>
      let (after, reply) := serve request shared
      let (final, replies) := serial serve requests rest after
      (final, (number, reply) :: replies)

private theorem serial_concat {serve : Request → Shared → Shared × Reply} {requests : List Request}
    {order : List Nat} {shared middle after : Shared} {replies : List (Nat × Reply)} {number : Nat}
    {request : Request} {reply : Reply}
    (before : serial serve requests order shared = (middle, replies))
    (found : requests[number]? = some request) (served : serve request middle = (after, reply)) :
    serial serve requests (order ++ [number]) shared = (after, replies ++ [(number, reply)]) := by
  induction order generalizing shared replies with
  | nil =>
    simp only [serial, Prod.mk.injEq] at before
    obtain ⟨rfl, rfl⟩ := before
    simp [serial, found, served]
  | cons first rest ih =>
    simp only [List.cons_append, serial] at before ⊢
    cases present : requests[first]? with
    | none =>
      simp only [present] at before
      exact ih before
    | some other =>
      simp only [present] at before ⊢
      cases tail : serial serve requests rest (serve other shared).1 with
      | mk final earlier =>
        simp only [tail, Prod.mk.injEq] at before
        obtain ⟨rfl, rfl⟩ := before
        rw [ih tail]
        rfl

/-- How the steps of a request relate to serving it whole. `fate` is the reply a
request is committed to, `same` what is compared of two shared states, `pending`
what the next step of an uncommitted request owes to the request it belongs to. -/
structure CommitDiscipline (start : Request → Phase)
    (step : Phase → Shared → Option (Shared × Phase))
    (serve : Request → Shared → Shared × Reply) (allowed : Shared → Phase → Prop) where
  fate : Phase → Option Reply
  same : Shared → Shared → Prop
  pending : Request → Phase → Prop
  refl : ∀ shared, same shared shared
  /-- A request that commits without any step leaves the shared state alone. -/
  immediate : ∀ request reply, fate (start request) = some reply → ∀ real model, same real model →
    ∃ after, serve request model = (after, reply) ∧ same real after
  starts : ∀ request, fate (start request) = none → pending request (start request)
  /-- After its commit a request does nothing that is compared. -/
  settled : ∀ phase reply real after next, fate phase = some reply →
    step phase real = some (after, next) →
    fate next = some reply ∧ ∀ model, same real model → same after model
  /-- Before its commit a request only moves on, or commits by being served. -/
  moves : ∀ request phase real after next, fate phase = none → pending request phase →
    allowed real phase → step phase real = some (after, next) →
    (fate next = none ∧ pending request next ∧ ∀ model, same real model → same after model) ∨
    ∃ reply, fate next = some reply ∧ ∀ model, same real model →
      ∃ served, serve request model = (served, reply) ∧ same after served

namespace CommitDiscipline

variable {start : Request → Phase} {step : Phase → Shared → Option (Shared × Phase)}
  {serve : Request → Shared → Shared × Reply} {allowed : Shared → Phase → Prop}

/-- Where a request stands in the order of commits. -/
def Accounted (discipline : CommitDiscipline start step serve allowed) (order : List Nat)
    (replies : List (Nat × Reply)) (number : Nat) (request : Request) (phase : Phase) : Prop :=
  match discipline.fate phase with
  | some reply => number ∈ order ∧ (number, reply) ∈ replies
  | none => number ∉ order ∧ discipline.pending request phase

/-- The committed requests, in commit order, explain the state reached. -/
structure Explains (discipline : CommitDiscipline start step serve allowed) (requests : List Request)
    (initial : Shared) (pool : Pool Shared Phase) (order : List Nat) (model : Shared)
    (replies : List (Nat × Reply)) : Prop where
  served : serial serve requests order initial = (model, replies)
  agrees : discipline.same pool.shared model
  distinct : order.Nodup
  bounded : ∀ number ∈ order, number < requests.length
  length : pool.phases.length = requests.length
  accounted : ∀ number phase request, pool.phases[number]? = some phase →
    requests[number]? = some request → discipline.Accounted order replies number request phase

variable (discipline : CommitDiscipline start step serve allowed)

private theorem accounted_of_fate {order : List Nat} {replies : List (Nat × Reply)} {number : Nat}
    {request : Request} {phase : Phase} {reply : Reply} (decided : discipline.fate phase = some reply) :
    discipline.Accounted order replies number request phase ↔
      number ∈ order ∧ (number, reply) ∈ replies := by
  unfold Accounted
  rw [decided]

private theorem accounted_of_pending {order : List Nat} {replies : List (Nat × Reply)} {number : Nat}
    {request : Request} {phase : Phase} (undecided : discipline.fate phase = none) :
    discipline.Accounted order replies number request phase ↔
      number ∉ order ∧ discipline.pending request phase := by
  unfold Accounted
  rw [undecided]

/-- The commit of one request leaves the account of every other one as it was. -/
theorem Accounted.concat {order : List Nat} {replies : List (Nat × Reply)} {number place : Nat}
    {request : Request} {phase : Phase} {reply : Reply} (different : place ≠ number)
    (account : discipline.Accounted order replies place request phase) :
    discipline.Accounted (order ++ [number]) (replies ++ [(number, reply)]) place request phase := by
  cases fate : discipline.fate phase with
  | some answer =>
    obtain ⟨member, replied⟩ := (discipline.accounted_of_fate fate).mp account
    exact (discipline.accounted_of_fate fate).mpr
      ⟨List.mem_append_left _ member, List.mem_append_left _ replied⟩
  | none =>
    obtain ⟨outside, owes⟩ := (discipline.accounted_of_pending fate).mp account
    refine (discipline.accounted_of_pending fate).mpr ⟨fun member => ?_, owes⟩
    rcases List.mem_append.mp member with earlier | last
    · exact outside earlier
    · exact different (List.mem_singleton.mp last)

private theorem nodup_concat {order : List Nat} {number : Nat} (distinct : order.Nodup)
    (outside : number ∉ order) : (order ++ [number]).Nodup := by
  refine List.nodup_append.mpr ⟨distinct, List.pairwise_singleton _ _, ?_⟩
  intro place member other single equal
  rw [equal, List.mem_singleton.mp single] at member
  exact outside member

private theorem bounded_concat {order : List Nat} {number bound : Nat} (inside : number < bound)
    (bounded : ∀ place ∈ order, place < bound) : ∀ place ∈ order ++ [number], place < bound := by
  intro place member
  rcases List.mem_append.mp member with earlier | last
  · exact bounded place earlier
  · exact List.mem_singleton.mp last ▸ inside

/-- Requests that commit at once come first in the order. -/
theorem explains_start (requests : List Request) (initial : Shared) :
    ∀ count ≤ requests.length, ∃ order model replies,
      serial serve requests order initial = (model, replies) ∧ discipline.same initial model ∧
      order.Nodup ∧ (∀ number ∈ order, number < count) ∧
      ∀ number request, number < count → requests[number]? = some request →
        discipline.Accounted order replies number request (start request) := by
  intro count
  induction count with
  | zero =>
    intro _
    exact ⟨[], initial, [], rfl, discipline.refl initial, List.nodup_nil, by simp, by simp⟩
  | succ count ih =>
    intro bound
    obtain ⟨order, model, replies, served, agrees, distinct, bounded, accounted⟩ := ih (by omega)
    have outside : count ∉ order := fun member => Nat.lt_irrefl _ (bounded count member)
    have found : requests[count]? = some requests[count] := List.getElem?_eq_getElem (by omega)
    cases fate : discipline.fate (start requests[count]) with
    | none =>
      refine ⟨order, model, replies, served, agrees, distinct, ?_, ?_⟩
      · exact fun number member => Nat.lt_succ_of_lt (bounded number member)
      · intro number request below present
        rcases Nat.lt_succ_iff_lt_or_eq.mp below with earlier | last
        · exact accounted number request earlier present
        · subst number
          rw [Option.some.inj (present.symm.trans found)]
          exact (discipline.accounted_of_pending fate).mpr ⟨outside, discipline.starts _ fate⟩
    | some reply =>
      obtain ⟨after, serves, follows⟩ := discipline.immediate _ reply fate initial model agrees
      refine ⟨order ++ [count], after, replies ++ [(count, reply)], serial_concat served found serves,
        follows, nodup_concat distinct outside, ?_, ?_⟩
      · exact bounded_concat (Nat.lt_succ_self count)
          (fun number member => Nat.lt_succ_of_lt (bounded number member))
      · intro number request below present
        rcases Nat.lt_succ_iff_lt_or_eq.mp below with earlier | last
        · exact Accounted.concat discipline (by omega) (accounted number request earlier present)
        · subst number
          rw [Option.some.inj (present.symm.trans found)]
          exact (discipline.accounted_of_fate fate).mpr ⟨by simp, by simp⟩

private theorem explains_initial (requests : List Request) (initial : Shared) :
    ∃ order model replies,
      discipline.Explains requests initial ⟨initial, requests.map start⟩ order model replies := by
  obtain ⟨order, model, replies, served, agrees, distinct, bounded, accounted⟩ :=
    discipline.explains_start requests initial requests.length (Nat.le_refl _)
  refine ⟨order, model, replies, served, agrees, distinct, bounded, by simp, ?_⟩
  intro number phase request present found
  rw [List.getElem?_map, found] at present
  cases present
  exact accounted number request (List.getElem?_eq_some_iff.mp found).1 found

/-- One step of one request keeps the explanation, or extends it by that request. -/
theorem explains_advance {requests : List Request} {initial : Shared} {pool after : Pool Shared Phase}
    {number : Nat} (stepped : pool.advance step number = some after)
    (guarded : ∀ phase, pool.phases[number]? = some phase → allowed pool.shared phase)
    (explained : ∃ order model replies, discipline.Explains requests initial pool order model replies) :
    ∃ order model replies, discipline.Explains requests initial after order model replies := by
  obtain ⟨phase, shared, next, present, taken, same⟩ := Pool.advance_eq_some_iff.mp stepped
  subst after
  obtain ⟨order, model, replies, explains⟩ := explained
  have bound : number < pool.phases.length := (List.getElem?_eq_some_iff.mp present).1
  have inside : number < requests.length := explains.length ▸ bound
  have found : requests[number]? = some requests[number] := List.getElem?_eq_getElem inside
  have length : (pool.phases.set number next).length = requests.length := by
    rw [List.length_set, explains.length]
  -- an account of the stepped request and of all the others is an account of the pool
  have everyone : ∀ order replies, discipline.Accounted order replies number requests[number] next →
      (∀ place phase request, place ≠ number → pool.phases[place]? = some phase →
        requests[place]? = some request → discipline.Accounted order replies place request phase) →
      ∀ place phase request, (pool.phases.set number next)[place]? = some phase →
        requests[place]? = some request → discipline.Accounted order replies place request phase := by
    intro order replies this others place phase request stored listed
    by_cases target : place = number
    · subst place
      rw [List.getElem?_set_self bound] at stored
      rw [← Option.some.inj stored, Option.some.inj (listed.symm.trans found)]
      exact this
    · rw [List.getElem?_set_ne (Ne.symm target)] at stored
      exact others place phase request target stored listed
  have account := explains.accounted number phase _ present found
  cases fate : discipline.fate phase with
  | some reply =>
    obtain ⟨keeps, frame⟩ := discipline.settled phase reply pool.shared shared next fate taken
    have committed := (discipline.accounted_of_fate fate).mp account
    exact ⟨order, model, replies, explains.served, frame model explains.agrees, explains.distinct,
      explains.bounded, length, everyone order replies ((discipline.accounted_of_fate keeps).mpr committed)
        (fun place phase request _ => explains.accounted place phase request)⟩
  | none =>
    obtain ⟨outside, owes⟩ := (discipline.accounted_of_pending fate).mp account
    rcases discipline.moves _ phase pool.shared shared next fate owes (guarded phase present) taken
      with ⟨waits, owed, frame⟩ | ⟨reply, commits, serves⟩
    · exact ⟨order, model, replies, explains.served, frame model explains.agrees, explains.distinct,
        explains.bounded, length,
        everyone order replies ((discipline.accounted_of_pending waits).mpr ⟨outside, owed⟩)
          (fun place phase request _ => explains.accounted place phase request)⟩
    · obtain ⟨served, answered, follows⟩ := serves model explains.agrees
      exact ⟨order ++ [number], served, replies ++ [(number, reply)],
        serial_concat explains.served found answered, follows, nodup_concat explains.distinct outside,
        bounded_concat inside explains.bounded, length,
        everyone _ _ ((discipline.accounted_of_fate commits).mpr ⟨by simp, by simp⟩)
          (fun place phase request different stored listed => Accounted.concat discipline different
            (explains.accounted place phase request stored listed))⟩

/-- A finished run whose steps were all allowed is serializable. -/
theorem serializable {requests : List Request} {initial : Shared} {schedule : List Nat}
    {final : Pool Shared Phase}
    (run : exec (Pool.advance step) ⟨initial, requests.map start⟩ schedule = some final)
    (guarded : Along (Pool.advance step)
      (fun pool number => ∀ phase, pool.phases[number]? = some phase → allowed pool.shared phase)
      ⟨initial, requests.map start⟩ schedule)
    (finished : ∀ phase ∈ final.phases, ∃ reply, discipline.fate phase = some reply) :
    ∃ order, order.Perm (List.range requests.length) ∧
      discipline.same final.shared (serial serve requests order initial).1 ∧
      ∀ number phase reply, final.phases[number]? = some phase → discipline.fate phase = some reply →
        (number, reply) ∈ (serial serve requests order initial).2 := by
  have reached : ∃ order model replies,
      discipline.Explains requests initial final order model replies :=
    exec_invariant_along
      (fun pool => ∃ order model replies, discipline.Explains requests initial pool order model replies)
      (discipline.explains_initial requests initial)
      (fun _ _ _ explained met stepped => discipline.explains_advance stepped met explained) guarded run
  obtain ⟨order, model, replies, explains⟩ := reached
  have committed : ∀ number phase reply, final.phases[number]? = some phase →
      discipline.fate phase = some reply → number ∈ order ∧ (number, reply) ∈ replies := by
    intro number phase reply present commits
    have inside : number < requests.length :=
      explains.length ▸ (List.getElem?_eq_some_iff.mp present).1
    exact (discipline.accounted_of_fate commits).mp
      (explains.accounted number phase _ present (List.getElem?_eq_getElem inside))
  refine ⟨order, ?_, by rw [explains.served]; exact explains.agrees, ?_⟩
  · refine (List.perm_ext_iff_of_nodup explains.distinct List.nodup_range).mpr (fun number => ?_)
    rw [List.mem_range]
    refine ⟨explains.bounded number, fun below => ?_⟩
    have bound : number < final.phases.length := explains.length ▸ below
    obtain ⟨reply, commits⟩ := finished _ (List.getElem_mem bound)
    exact (committed number _ reply (List.getElem?_eq_getElem bound) commits).1
  · intro number phase reply present commits
    rw [explains.served]
    exact (committed number phase reply present commits).2

end CommitDiscipline

end NetLatencyMonitor.Machine
