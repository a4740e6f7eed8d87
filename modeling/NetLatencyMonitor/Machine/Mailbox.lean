import Mathlib.Data.List.Basic

/-! A bounded mailbox whose senders never wait: what finds it full is lost to its owner. A
log of everything that was published says how much of it came through. -/

namespace NetLatencyMonitor.Machine

universe u v

variable {Message : Type u} {Entry : Type v} {capacity : Nat}

structure Mailbox (Message : Type u) (capacity : Nat) where
  waiting : List Message
  bounded : waiting.length ≤ capacity
deriving DecidableEq

namespace Mailbox

def empty : Mailbox Message capacity := ⟨[], Nat.zero_le capacity⟩

def full (box : Mailbox Message capacity) : Bool := decide (box.waiting.length = capacity)

/-- Put a message behind the others if there is room. -/
def offer (box : Mailbox Message capacity) (message : Message) : Mailbox Message capacity :=
  if room : box.waiting.length < capacity then
    ⟨box.waiting ++ [message], by simpa using Nat.succ_le_of_lt room⟩
  else box

/-- The oldest message, and the others. -/
def take? (box : Mailbox Message capacity) : Option (Message × Mailbox Message capacity) :=
  match waiting : box.waiting with
  | [] => none
  | message :: rest =>
    some (message, ⟨rest, by
      have bounded := box.bounded
      rw [waiting, List.length_cons] at bounded
      exact Nat.le_of_succ_le bounded⟩)

theorem waiting_offer (box : Mailbox Message capacity) (message : Message) :
    (box.offer message).waiting = if box.full then box.waiting else box.waiting ++ [message] := by
  have bounded := box.bounded
  unfold offer full
  by_cases room : box.waiting.length < capacity
  · rw [dif_pos room, if_neg (by simp [Nat.ne_of_lt room])]
  · have length : box.waiting.length = capacity := Nat.le_antisymm bounded (Nat.le_of_not_lt room)
    rw [dif_neg room, if_pos (by simp [length])]

theorem take?_eq_some {box rest : Mailbox Message capacity} {message : Message}
    (taken : box.take? = some (message, rest)) : box.waiting = message :: rest.waiting := by
  unfold take? at taken
  split at taken
  · cases taken
  · rename_i waiting
    cases taken
    exact waiting

end Mailbox

/-! What came through of a log. -/

/-- The messages are those of some entries of the log, in its order. -/
def CameThrough (message : Entry → Message) (log : List Entry) (messages : List Message) : Prop :=
  ∃ seen : List Entry, seen.Sublist log ∧ seen.map message = messages

section CameThrough

variable {message : Entry → Message} {log : List Entry} {messages fewer : List Message}

theorem cameThrough_nil (message : Entry → Message) (log : List Entry) : CameThrough message log [] :=
  ⟨[], List.nil_sublist log, rfl⟩

theorem CameThrough.publish (through : CameThrough message log messages) (entry : Entry) :
    CameThrough message (log ++ [entry]) (messages ++ [message entry]) := by
  obtain ⟨seen, within, same⟩ := through
  exact ⟨seen ++ [entry], within.append (List.Sublist.refl _), by rw [List.map_append, same]; rfl⟩

theorem CameThrough.miss (through : CameThrough message log messages) (entry : Entry) :
    CameThrough message (log ++ [entry]) messages := by
  obtain ⟨seen, within, same⟩ := through
  exact ⟨seen, within.trans (List.sublist_append_left log [entry]), same⟩

theorem CameThrough.lose (through : CameThrough message log messages) (part : fewer.Sublist messages) :
    CameThrough message log fewer := by
  obtain ⟨seen, within, rfl⟩ := through
  obtain ⟨left, kept, rfl⟩ := List.sublist_map_iff.mp part
  exact ⟨left, kept.trans within, rfl⟩

/-- Offering the next entry of the log to a mailbox behind what has been taken out of it. -/
theorem CameThrough.offer {taken : List Message} {box : Mailbox Message capacity}
    (through : CameThrough message log (taken ++ box.waiting)) (entry : Entry) :
    CameThrough message (log ++ [entry]) (taken ++ (box.offer (message entry)).waiting) := by
  rw [Mailbox.waiting_offer]
  split
  · exact through.miss entry
  · rw [← List.append_assoc]
    exact through.publish entry

/-- What came through in full length is everything. -/
theorem CameThrough.eq_of_length (through : CameThrough message log messages)
    (length : messages.length = log.length) : messages = log.map message := by
  obtain ⟨seen, within, rfl⟩ := through
  rw [List.length_map] at length
  rw [within.eq_of_length length]

end CameThrough

end NetLatencyMonitor.Machine
