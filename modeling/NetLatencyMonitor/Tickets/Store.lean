import NetLatencyMonitor.Clock
import NetLatencyMonitor.Keyed.Table
import NetLatencyMonitor.Text.Encoding

/-! The in-memory store of single-use WebSocket tickets. Each definition is what one
call does while it holds the mutex. -/

namespace NetLatencyMonitor.Tickets

open Clock Keyed Text

def defaultTTL : Duration := 60 * second

/-- What `Issue` hands back. -/
structure Ticket where
  value : GoString
  nodeID : GoString
  issuedAt : Time
  expiresAt : Time
deriving DecidableEq, Repr

/-- An entry of the map, with its key. -/
structure Entry where
  value : GoString
  nodeID : GoString
  expiresAt : Time
deriving DecidableEq, Repr

inductive TicketError where
  | unknownTicket
  | expiredTicket
deriving DecidableEq, Repr

structure Store where
  tickets : Table Entry Entry.value
  ttl : Duration

def newStore (ttl : Duration) : Store := ⟨.empty, if ttl ≤ 0 then defaultTTL else ttl⟩

/-- `newTicketValue` for the 32 random bytes it read. -/
def newTicketValue (buf : Vector UInt8 32) : GoString := rawURLEncode buf.toList

theorem newTicketValue_ne_nil (buf : Vector UInt8 32) : newTicketValue buf ≠ [] := by
  apply rawURLEncode_ne_nil
  intro empty
  have length : buf.toList.length = 32 := Vector.length_toList
  rw [empty] at length
  cases length

/-- `Issue` up to the mutex: the value is minted and the clock is read. `none` is the
error for a missing node id. -/
def mint (ttl : Duration) (nodeID value : GoString) (now : Time) : Option Ticket :=
  if nodeID = [] then none else some ⟨value, nodeID, now, now + ttl⟩

def Entry.rebind (nodeID : GoString) (expiresAt : Time) (old : Entry) : Entry :=
  { old with nodeID, expiresAt }

private theorem Entry.rebind_value (nodeID : GoString) (expiresAt : Time) (old : Entry) :
    (Entry.rebind nodeID expiresAt old).value = old.value := rfl

namespace Store

/-- `Issue` under the mutex: the map assignment. -/
def put (store : Store) (ticket : Ticket) : Store :=
  let entry : Entry := ⟨ticket.value, ticket.nodeID, ticket.expiresAt⟩
  let rebind := Entry.rebind ticket.nodeID ticket.expiresAt
  { store with tickets := store.tickets.upsert entry rebind (Entry.rebind_value _ _) }

/-- `Validate`: a known ticket is gone afterwards, expired or not. -/
def validate (store : Store) (value : GoString) (now : Time) : Store × Except TicketError GoString :=
  match store.tickets.find? value with
  | none => (store, .error .unknownTicket)
  | some entry =>
    ({ store with tickets := store.tickets.erase value },
      if now > entry.expiresAt then .error .expiredTicket else .ok entry.nodeID)

/-- `Prune`, with the number of tickets it removed. -/
def prune (store : Store) (now : Time) : Store × Nat :=
  let kept := store.tickets.filter (fun entry => !decide (now > entry.expiresAt))
  ({ store with tickets := kept }, store.tickets.rows.length - kept.rows.length)

@[simp] theorem validate_ttl (store : Store) (value : GoString) (now : Time) :
    (store.validate value now).1.ttl = store.ttl := by
  unfold validate
  split
  · rfl
  · rfl

theorem find?_put (store : Store) (ticket : Ticket) (value : GoString) :
    (store.put ticket).tickets.find? value =
      if value = ticket.value then some ⟨ticket.value, ticket.nodeID, ticket.expiresAt⟩
      else store.tickets.find? value := by
  unfold put
  rw [Table.find?_upsert]
  split
  · cases found : store.tickets.find? ticket.value with
    | none => rfl
    | some old =>
      have named : old.value = ticket.value := (Table.find?_eq_some_iff.mp found).2
      simp [Entry.rebind, named]
  · rfl

theorem find?_validate (store : Store) (presented : GoString) (now : Time) (value : GoString) :
    (store.validate presented now).1.tickets.find? value =
      if value = presented then none else store.tickets.find? value := by
  unfold validate
  split
  · rename_i missing
    split
    · rename_i same
      rw [same, missing]
    · rfl
  · exact Table.find?_erase

theorem find?_prune (store : Store) (now : Time) (value : GoString) :
    (store.prune now).1.tickets.find? value =
      (store.tickets.find? value).filter (fun entry => !decide (now > entry.expiresAt)) :=
  Table.find?_filter

/-- When a ticket validates: it is in the map and its last instant has not passed. -/
theorem validate_ok_iff {store : Store} {value nodeID : GoString} {now : Time} :
    (store.validate value now).2 = .ok nodeID ↔
      ∃ entry, store.tickets.find? value = some entry ∧ entry.nodeID = nodeID ∧ now ≤ entry.expiresAt := by
  unfold validate
  cases store.tickets.find? value with
  | none => simp
  | some entry =>
    by_cases late : now > entry.expiresAt
    · simp [late]
    · simp [late, Int.not_lt.mp late]

end Store

end NetLatencyMonitor.Tickets
