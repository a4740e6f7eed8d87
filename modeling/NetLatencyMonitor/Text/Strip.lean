import Mathlib.Data.List.Basic

/-! Stripping tokens from the front of a list. A token is a short list of symbols; a
function that drops tokens as long as there is one in front is described by two
equations, and everything below follows from them. -/

namespace NetLatencyMonitor.Text

universe u

variable {Symbol : Type u} {token : List Symbol → Prop} {strip : List Symbol → List Symbol}

/-- A concatenation of tokens. -/
def Tokens (token : List Symbol → Prop) (text : List Symbol) : Prop :=
  ∃ tokens : List (List Symbol), (∀ part ∈ tokens, token part) ∧ text = tokens.flatten

/-- No token stands in front. -/
def NoLead (token : List Symbol → Prop) (text : List Symbol) : Prop :=
  ∀ part rest, token part → text ≠ part ++ rest

/-- `strip` drops a token in front and stops where there is none. -/
structure Strips (token : List Symbol → Prop) (strip : List Symbol → List Symbol) : Prop where
  nonempty : ∀ part, token part → part ≠ []
  step : ∀ part rest, token part → strip (part ++ rest) = strip rest
  stop : ∀ text, NoLead token text → strip text = text

theorem tokens_nil : Tokens token [] := ⟨[], fun _ member => (List.not_mem_nil member).elim, rfl⟩

private theorem tokens_cons {part text : List Symbol} (first : token part) (rest : Tokens token text) :
    Tokens token (part ++ text) := by
  obtain ⟨tokens, each, rfl⟩ := rest
  refine ⟨part :: tokens, ?_, rfl⟩
  intro other member
  rcases List.mem_cons.mp member with rfl | later
  · exact first
  · exact each other later

theorem tokens_append_tokens {first second : List Symbol} (left : Tokens token first)
    (right : Tokens token second) : Tokens token (first ++ second) := by
  obtain ⟨firstParts, eachFirst, rfl⟩ := left
  obtain ⟨secondParts, eachSecond, rfl⟩ := right
  refine ⟨firstParts ++ secondParts, ?_, List.flatten_append.symm⟩
  intro part member
  rcases List.mem_append.mp member with early | late
  · exact eachFirst part early
  · exact eachSecond part late

/-- Reversing a concatenation reverses its tokens. -/
theorem tokens_reverse {text : List Symbol} (tokens : Tokens token text) :
    Tokens (fun part => token part.reverse) text.reverse := by
  obtain ⟨parts, each, rfl⟩ := tokens
  refine ⟨(parts.map List.reverse).reverse, ?_, List.reverse_flatten⟩
  intro part member
  obtain ⟨original, present, rfl⟩ := List.mem_map.mp (List.mem_reverse.mp member)
  rw [List.reverse_reverse]
  exact each original present

theorem tokens_reverse_iff {text : List Symbol} :
    Tokens (fun part => token part.reverse) text.reverse ↔ Tokens token text := by
  refine ⟨fun reversed => ?_, tokens_reverse⟩
  have twice := tokens_reverse reversed
  simp only [List.reverse_reverse] at twice
  exact twice

namespace Strips

variable (strips : Strips token strip)

include strips

theorem tokens_append {blank : List Symbol} (tokens : Tokens token blank) (text : List Symbol) :
    strip (blank ++ text) = strip text := by
  obtain ⟨parts, each, rfl⟩ := tokens
  induction parts with
  | nil => rfl
  | cons part rest ih =>
    rw [List.flatten_cons, List.append_assoc, strips.step _ _ (each part List.mem_cons_self)]
    exact ih (fun other member => each other (List.mem_cons_of_mem part member))

/-- What is stripped is a concatenation of tokens, and what is left starts with none. -/
theorem decompose (text : List Symbol) :
    ∃ blank, Tokens token blank ∧ text = blank ++ strip text ∧ NoLead token (strip text) := by
  -- by length: a token in front leaves something shorter
  induction length : text.length using Nat.strongRecOn generalizing text with
  | _ n ih =>
    by_cases free : NoLead token text
    · exact ⟨[], tokens_nil, (strips.stop text free).symm, (strips.stop text free).symm ▸ free⟩
    · simp only [NoLead, not_forall, not_not] at free
      obtain ⟨part, rest, first, rfl⟩ := free
      have shorter : rest.length < n := by
        have := List.length_pos_iff.mpr (strips.nonempty part first)
        rw [← length, List.length_append]
        omega
      obtain ⟨blank, tokens, split, stopped⟩ := ih rest.length shorter rest rfl
      rw [strips.step part rest first]
      refine ⟨part ++ blank, tokens_cons first tokens, ?_, stopped⟩
      rw [List.append_assoc, ← split]

end Strips

end NetLatencyMonitor.Text
