import Mathlib.Data.Set.Insert

/-! A channel that delivers messages exactly once: a message is offered, delivered once
after that, and confirmed to its sender only when it has been delivered. -/

namespace NetLatencyMonitor.Machine

universe u

variable {Message : Type u}

@[ext] structure Channel (Message : Type u) where
  offered : Set Message
  delivered : Set Message
  confirmed : Set Message

inductive ChannelAction (Message : Type u) where
  | offer (message : Message)
  | deliver (message : Message)
  | confirm (message : Message)

namespace Channel

def empty : Channel Message := ⟨∅, ∅, ∅⟩

inductive Step : Channel Message → ChannelAction Message → Channel Message → Prop where
  | offer {channel : Channel Message} {message : Message} (fresh : message ∉ channel.offered) :
      Step channel (.offer message) { channel with offered := insert message channel.offered }
  | deliver {channel : Channel Message} {message : Message} (known : message ∈ channel.offered)
      (first : message ∉ channel.delivered) :
      Step channel (.deliver message) { channel with delivered := insert message channel.delivered }
  | confirm {channel : Channel Message} {message : Message} (arrived : message ∈ channel.delivered) :
      Step channel (.confirm message) { channel with confirmed := insert message channel.confirmed }

/-- Traces from the empty channel, the last action last. -/
inductive Trace : List (ChannelAction Message) → Channel Message → Prop where
  | start : Trace [] empty
  | step {actions : List (ChannelAction Message)} {action : ChannelAction Message}
      {before after : Channel Message} (earlier : Trace actions before) (last : Step before action after) :
      Trace (actions ++ [action]) after

/-- The messages delivered in a list of actions. -/
def deliveries (actions : List (ChannelAction Message)) : List Message :=
  actions.filterMap (fun
    | .deliver message => some message
    | _ => none)

private theorem deliveries_concat (actions : List (ChannelAction Message)) (action : ChannelAction Message) :
    deliveries (actions ++ [action]) = deliveries actions ++ deliveries [action] := by
  simp [deliveries]

/-- Confirmed messages have been delivered, delivered ones offered. -/
theorem Trace.ordered {actions : List (ChannelAction Message)} {channel : Channel Message}
    (trace : Trace actions channel) :
    channel.confirmed ⊆ channel.delivered ∧ channel.delivered ⊆ channel.offered := by
  induction trace with
  | start => exact ⟨fun _ member => member, fun _ member => member⟩
  | step _ last ih =>
    obtain ⟨confirmed, delivered⟩ := ih
    cases last with
    | offer fresh => exact ⟨confirmed, fun message member => Or.inr (delivered member)⟩
    | deliver known first =>
      refine ⟨fun message member => Or.inr (confirmed member), fun message member => ?_⟩
      rcases member with same | old
      · exact same ▸ known
      · exact delivered old
    | confirm arrived =>
      refine ⟨fun message member => ?_, delivered⟩
      rcases member with same | old
      · exact same ▸ arrived
      · exact confirmed old

private theorem Trace.mem_delivered_iff {actions : List (ChannelAction Message)} {channel : Channel Message}
    (trace : Trace actions channel) (message : Message) :
    message ∈ channel.delivered ↔ message ∈ deliveries actions := by
  induction trace with
  | start => exact ⟨fun member => member.elim, fun member => by cases member⟩
  | step _ last ih =>
    rw [deliveries_concat, List.mem_append, ← ih]
    cases last with
    | offer fresh => simp [deliveries]
    | @deliver new known first =>
      have one : deliveries [.deliver new] = [new] := rfl
      rw [one, List.mem_singleton]
      exact or_comm
    | confirm arrived => simp [deliveries]

/-- No message is delivered twice. -/
theorem Trace.deliveries_nodup {actions : List (ChannelAction Message)} {channel : Channel Message}
    (trace : Trace actions channel) : (deliveries actions).Nodup := by
  induction trace with
  | start => exact List.nodup_nil
  | step earlier last ih =>
    rw [deliveries_concat]
    cases last with
    | offer fresh => simpa [deliveries] using ih
    | deliver known first =>
      refine List.nodup_append.mpr ⟨ih, List.pairwise_singleton _ _, ?_⟩
      intro old member new single same
      rw [List.mem_singleton.mp single] at same
      subst old
      exact first ((earlier.mem_delivered_iff _).mpr member)
    | confirm arrived => simpa [deliveries] using ih

end Channel

end NetLatencyMonitor.Machine
