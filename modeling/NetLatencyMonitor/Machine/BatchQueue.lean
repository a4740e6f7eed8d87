import Mathlib.Data.Nat.Init

/-! A queue that is served in passes: each pass appends one item and takes the oldest
ones, up to a fixed number. -/

namespace NetLatencyMonitor.Machine

universe u

variable {Item : Type u} {size : Nat}

def batchServed (size : Nat) (queue : List Item) (arrival : Item) : List Item := (queue ++ [arrival]).take size

def batchLeft (size : Nat) (queue : List Item) (arrival : Item) : List Item := (queue ++ [arrival]).drop size

/-- What a run of passes serves, in order. -/
def servedAll (size : Nat) : List Item → List Item → List Item
  | _, [] => []
  | queue, arrival :: rest => batchServed size queue arrival ++ servedAll size (batchLeft size queue arrival) rest

def leftAfter (size : Nat) (queue arrivals : List Item) : List Item := arrivals.foldl (batchLeft size) queue

/-- Each pass shortens the queue by one less than it serves. -/
theorem length_leftAfter (positive : 0 < size) (queue arrivals : List Item) :
    (leftAfter size queue arrivals).length = queue.length - arrivals.length * (size - 1) := by
  induction arrivals generalizing queue with
  | nil => simp [leftAfter]
  | cons arrival rest ih =>
    have one : (batchLeft size queue arrival).length = queue.length - (size - 1) := by
      simp only [batchLeft, List.length_drop, List.length_append, List.length_singleton]
      omega
    have step : leftAfter size queue (arrival :: rest) = leftAfter size (batchLeft size queue arrival) rest := rfl
    rw [step, ih, one, List.length_cons, Nat.sub_sub, Nat.succ_mul, Nat.add_comm]

end NetLatencyMonitor.Machine
