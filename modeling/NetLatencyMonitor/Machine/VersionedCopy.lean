import Mathlib.Data.Int.Basic

/-! Copies of content that carries a version number. The owner changes the content
first and raises the version afterwards; a copy is trusted as long as its version is
the owner's. -/

namespace NetLatencyMonitor.Machine

universe u

variable {Content : Type u}

/-- The owner's side: what is published, under which version, and whether a change
has been made whose version is still to be raised. -/
structure Source (Content : Type u) where
  content : Content
  version : Int
  pending : Prop

/-- A reader's side. -/
structure Copy (Content : Type u) where
  content : Content
  version : Int

namespace Source

/-- A copy under the current version is current, unless a raise is still to come. -/
def Covers (source : Source Content) (copy : Copy Content) : Prop :=
  copy.version ≤ source.version ∧
    (copy.version = source.version → copy.content = source.content ∨ source.pending)

/-- What an owner that keeps its word does in one step. -/
inductive Step (before after : Source Content) : Prop where
  | keep (content : after.content = before.content) (version : after.version = before.version)
      (pending : before.pending → after.pending)
  | change (version : after.version = before.version) (pending : after.pending)
  | raise (version : before.version < after.version)

theorem Covers.step {before after : Source Content} {copy : Copy Content}
    (covered : before.Covers copy) (step : before.Step after) : after.Covers copy := by
  obtain ⟨bounded, trusted⟩ := covered
  cases step with
  | keep content version pending =>
    refine ⟨by omega, fun same => ?_⟩
    rcases trusted (same.trans version) with current | raising
    · exact Or.inl (current.trans content.symm)
    · exact Or.inr (pending raising)
  | change version pending => exact ⟨by omega, fun _ => Or.inr pending⟩
  | raise version => exact ⟨by omega, fun same => by omega⟩

theorem Step.version_le {before after : Source Content} (step : before.Step after) :
    before.version ≤ after.version := by
  cases step with
  | keep content version pending => omega
  | change version pending => omega
  | raise version => omega

/-- A copy made of content read earlier and the version read now. -/
theorem covers_read {source : Source Content} {content : Content}
    (fresh : content = source.content ∨ source.pending) :
    source.Covers ⟨content, source.version⟩ :=
  ⟨Int.le_refl _, fun _ => fresh⟩

theorem covers_older {source : Source Content} {copy : Copy Content}
    (older : copy.version < source.version) : source.Covers copy :=
  ⟨by omega, fun same => by omega⟩

end Source

end NetLatencyMonitor.Machine
