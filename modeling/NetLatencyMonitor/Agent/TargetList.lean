import NetLatencyMonitor.Agent.Config
import NetLatencyMonitor.Text.Split

/-! `NLM_PROBE_TARGETS`: what `parseTargets` accepts, and that it reads back every list
written as `id=address` items. -/

namespace NetLatencyMonitor.Agent

open Text

/-- A target as the list can carry it. -/
structure Writable (t : Target) : Prop where
  named : t.id ≠ []
  addressed : t.address ≠ []
  idTrimmed : trimSpace t.id = t.id
  addressTrimmed : trimSpace t.address = t.address
  idComma : 0x2c ∉ t.id
  addressComma : 0x2c ∉ t.address
  idEquals : 0x3d ∉ t.id

/-- The comma-separated parts of a list of targets: `id=address` items in order, with any
white space around items, ids and addresses, and any blank parts between them. -/
inductive Formats : List GoString → List Target → Prop
  | nil : Formats [] []
  | blank {part : GoString} {parts : List GoString} {targets : List Target} (white : Blank part)
      (rest : Formats parts targets) : Formats (part :: parts) targets
  | item {t : Target} {before afterID beforeAddress behind : GoString} {parts : List GoString}
      {targets : List Target} (white : Blank before) (whiteID : Blank afterID)
      (whiteAddress : Blank beforeAddress) (whiteBehind : Blank behind) (rest : Formats parts targets) :
      Formats ((before ++ t.id ++ afterID ++ 0x3d :: (beforeAddress ++ t.address ++ behind)) :: parts)
        (t :: targets)

/-- Blanks contain neither separator. -/
theorem comma_free {blank : GoString} (white : Blank blank) : 0x2c ∉ blank := white.free (by decide)

private theorem equals_free {blank : GoString} (white : Blank blank) : 0x3d ∉ blank := white.free (by decide)

/-- The outer `TrimSpace` of a part does not change the two fields that are cut out of it. -/
theorem cut_trimSpace {part : GoString} (present : 0x3d ∈ part) :
    0x3d ∈ trimSpace part ∧
      trimSpace (cut 0x3d (trimSpace part)).1 = trimSpace (cut 0x3d part).1 ∧
      trimSpace (cut 0x3d (trimSpace part)).2 = trimSpace (cut 0x3d part).2 := by
  obtain ⟨before, behind, white, whiteBehind, whole, _⟩ := trimSpace_decompose part
  have inside : 0x3d ∈ trimSpace part := by
    rw [whole] at present
    rcases List.mem_append.mp present with front | back
    · exact (List.mem_append.mp front).resolve_left (equals_free white)
    · exact absurd back (equals_free whiteBehind)
  have both : cut 0x3d part =
      (before ++ (cut 0x3d (trimSpace part)).1, (cut 0x3d (trimSpace part)).2 ++ behind) := by
    conv_lhs => rw [whole]
    rw [List.append_assoc, cut_append_left (equals_free white), cut_append_right inside]
  refine ⟨inside, ?_, ?_⟩
  · rw [both, trimSpace_append_left white]
  · rw [both, trimSpace_append_right _ whiteBehind]

/-- A part with an `=` whose two sides are not blank is a target, unless its id was seen. -/
theorem parseTarget_of_fields {part : GoString} {t : Target} {seen : List GoString} (index : Nat)
    (present : 0x3d ∈ part) (id : trimSpace (cut 0x3d part).1 = t.id)
    (address : trimSpace (cut 0x3d part).2 = t.address) (named : t.id ≠ []) (addressed : t.address ≠ [])
    (fresh : t.id ∉ seen) : parseTarget index seen (trimSpace part) = .ok t := by
  obtain ⟨_, sameID, sameAddress⟩ := cut_trimSpace present
  rw [id] at sameID
  rw [address] at sameAddress
  have front : (cut 0x3d (trimSpace part)).1 ≠ [] := by
    intro empty
    rw [empty] at sameID
    exact named sameID.symm
  have back : (cut 0x3d (trimSpace part)).2 ≠ [] := by
    intro empty
    rw [empty] at sameAddress
    exact addressed sameAddress.symm
  simp only [parseTarget, sameID, sameAddress]
  rw [if_neg (by simp [front, back]), if_neg (by simp [named, addressed]), if_neg fresh]

/-- The loop reads back what was written, when no id was seen before. -/
theorem parseParts_formats {parts : List GoString} {targets : List Target} (formats : Formats parts targets)
    (writable : ∀ t ∈ targets, Writable t) (distinct : (targets.map Target.id).Nodup) (index : Nat)
    (seen : List GoString) (fresh : ∀ t ∈ targets, t.id ∉ seen) :
    parseParts index seen parts = .ok targets := by
  induction formats generalizing index seen with
  | nil => rfl
  | blank white rest ih =>
    simp only [parseParts, trimSpace_blank white, if_true]
    exact ih writable distinct (index + 1) seen fresh
  | @item t before afterID beforeAddress behind parts targets white whiteID whiteAddress whiteBehind rest ih =>
    have ok := writable t List.mem_cons_self
    rw [List.map_cons, List.nodup_cons] at distinct
    have noEquals : 0x3d ∉ before ++ t.id ++ afterID := by
      simp only [List.mem_append, not_or]
      exact ⟨⟨equals_free white, ok.idEquals⟩, equals_free whiteID⟩
    have sides := cut_part noEquals (beforeAddress ++ t.address ++ behind)
    have present : 0x3d ∈ before ++ t.id ++ afterID ++ 0x3d :: (beforeAddress ++ t.address ++ behind) :=
      List.mem_append_right _ List.mem_cons_self
    have parsed := @parseTarget_of_fields _ t seen index present
      (by rw [sides]; exact trimSpace_pad white (trimSpace_eq_self_iff.mp ok.idTrimmed) whiteID)
      (by rw [sides]; exact trimSpace_pad whiteAddress (trimSpace_eq_self_iff.mp ok.addressTrimmed) whiteBehind)
      ok.named ok.addressed (fresh t List.mem_cons_self)
    have filled : trimSpace (before ++ t.id ++ afterID ++ 0x3d :: (beforeAddress ++ t.address ++ behind)) ≠ [] :=
      List.ne_nil_of_mem (cut_trimSpace present).1
    have later := ih (fun other member => writable other (List.mem_cons_of_mem t member)) distinct.2
      (index + 1) (t.id :: seen) (fun other member => by
        rw [List.mem_cons, not_or]
        exact ⟨fun same => distinct.1 (same ▸ List.mem_map_of_mem member),
          fresh other (List.mem_cons_of_mem t member)⟩)
    simp only [parseParts, filled, if_false, parsed, later]

/-- The loop trims every part, so it sees no difference between parts that trim alike. -/
theorem parseParts_map_trimSpace (index : Nat) (seen : List GoString) (parts : List GoString) :
    parseParts index seen (parts.map trimSpace) = parseParts index seen parts := by
  induction parts generalizing index seen with
  | nil => rfl
  | cons part rest ih => simp only [List.map_cons, parseParts, trimSpace_idempotent, ih]

/-- The outer `TrimSpace` and the early return of `parseTargets` make no difference either. -/
theorem parseTargets_eq (raw : GoString) : parseTargets raw = parseParts 0 [] (split 0x2c raw) := by
  have trimmed : parseParts 0 [] (split 0x2c (trimSpace raw)) = parseParts 0 [] (split 0x2c raw) := by
    rw [← parseParts_map_trimSpace, split_trimSpace (by decide), parseParts_map_trimSpace]
  rw [← trimmed]
  simp only [parseTargets]
  by_cases empty : trimSpace raw = []
  · rw [if_pos empty, empty]
    rfl
  · rw [if_neg empty]

theorem Formats.comma_free {parts : List GoString} {targets : List Target} (formats : Formats parts targets)
    (writable : ∀ t ∈ targets, Writable t) : ∀ part ∈ parts, 0x2c ∉ part := by
  induction formats with
  | nil => exact fun part member => (List.not_mem_nil member).elim
  | blank white rest ih =>
    intro part member
    rcases List.mem_cons.mp member with rfl | later
    · exact Agent.comma_free white
    · exact ih writable part later
  | @item t _ _ _ _ _ _ white whiteID whiteAddress whiteBehind rest ih =>
    have ok := writable t List.mem_cons_self
    intro part member
    rcases List.mem_cons.mp member with rfl | later
    · simp only [List.mem_append, List.mem_cons, not_or]
      exact ⟨⟨⟨Agent.comma_free white, ok.idComma⟩, Agent.comma_free whiteID⟩, by decide,
        ⟨Agent.comma_free whiteAddress, ok.addressComma⟩, Agent.comma_free whiteBehind⟩
    · exact ih (fun other target => writable other (List.mem_cons_of_mem t target)) part later

/-- Parsing undoes formatting. -/
theorem parseTargets_join {parts : List GoString} {targets : List Target} (formats : Formats parts targets)
    (writable : ∀ t ∈ targets, Writable t) (distinct : (targets.map Target.id).Nodup) :
    parseTargets (join 0x2c parts) = .ok targets := by
  rw [parseTargets_eq]
  by_cases empty : parts = []
  · subst empty
    cases formats
    rfl
  · rw [split_join empty (formats.comma_free writable)]
    exact parseParts_formats formats writable distinct 0 [] (fun t _ => List.not_mem_nil)

/-- What every accepted target looks like. -/
structure Accepted (t : Target) : Prop where
  named : t.id ≠ []
  addressed : t.address ≠ []
  idTrimmed : trimSpace t.id = t.id
  addressTrimmed : trimSpace t.address = t.address

private theorem parseTarget_accepted {index : Nat} {seen : List GoString} {p : GoString} {t : Target}
    (parsed : parseTarget index seen p = .ok t) : Accepted t := by
  obtain ⟨named, addressed, _⟩ := parseTarget_ok parsed
  have fields : t = ⟨trimSpace (cut 0x3d p).1, trimSpace (cut 0x3d p).2⟩ := by
    simp only [parseTarget] at parsed
    split at parsed
    · cases parsed
    · split at parsed
      · cases parsed
      · split at parsed
        · cases parsed
        · cases parsed
          rfl
  refine ⟨named, addressed, ?_, ?_⟩
  · rw [fields, trimSpace_idempotent]
  · rw [fields, trimSpace_idempotent]

private theorem parseParts_accepted {parts : List GoString} {index : Nat} {seen : List GoString}
    {targets : List Target} (parsed : parseParts index seen parts = .ok targets) :
    ∀ t ∈ targets, Accepted t := by
  induction parts generalizing index seen targets with
  | nil =>
    cases parsed
    exact fun t member => (List.not_mem_nil member).elim
  | cons part rest ih =>
    simp only [parseParts] at parsed
    split at parsed
    · exact ih parsed
    · split at parsed
      · cases parsed
      · rename_i t first
        split at parsed
        · cases parsed
        · rename_i out later
          cases parsed
          intro other member
          rcases List.mem_cons.mp member with rfl | tail
          · exact parseTarget_accepted first
          · exact ih later other tail

/-- Every formatted list is read back exactly, and whatever text is accepted, the ids are
distinct and no id or address is empty or has white space around it. -/
theorem parseTargets_roundTrip_accepted :
    (∀ (targets : List Target) (parts : List GoString), (∀ t ∈ targets, Writable t) →
      (targets.map Target.id).Nodup → Formats parts targets →
      parseTargets (join 0x2c parts) = .ok targets) ∧
    ∀ (raw : GoString) (targets : List Target), parseTargets raw = .ok targets →
      (targets.map Target.id).Nodup ∧ ∀ t ∈ targets, Accepted t := by
  refine ⟨fun targets parts writable distinct formats => parseTargets_join formats writable distinct, ?_⟩
  intro raw targets parsed
  exact ⟨(parseTargets_ok parsed).1, parseParts_accepted (parseTargets_eq raw ▸ parsed)⟩

/-- `" hub-1 = 10.0.0.1:443 , ,"` is a way to write one target. -/
theorem parseTargets_roundTrip_accepted_padded :
    parseTargets (join 0x2c [lit " hub-1 = 10.0.0.1:443 ", lit " ", []]) =
        .ok [⟨lit "hub-1", lit "10.0.0.1:443"⟩] ∧
      (parseTargets (lit "a=b=c")).toOption = some [⟨lit "a", lit "b=c"⟩] ∧
      Accepted ⟨lit "a", lit "b=c"⟩ := by
  have space : Blank (lit " ") := ⟨[lit " "], by
    intro rune member
    rw [List.mem_singleton.mp member]
    exact .byte (by decide), rfl⟩
  have nothing : Blank [] := ⟨[], fun _ member => (List.not_mem_nil member).elim, rfl⟩
  have read : parseTargets (lit "a=b=c") = .ok [⟨lit "a", lit "b=c"⟩] := by decide +kernel
  refine ⟨?_, by rw [read]; rfl,
    (parseTargets_roundTrip_accepted.2 _ _ read).2 _ List.mem_cons_self⟩
  refine parseTargets_roundTrip_accepted.1 [⟨lit "hub-1", lit "10.0.0.1:443"⟩] _ ?_ (by decide)
    (@Formats.item ⟨lit "hub-1", lit "10.0.0.1:443"⟩ (lit " ") (lit " ") (lit " ") (lit " ") _ _
      space space space space (.blank space (.blank nothing .nil)))
  intro t member
  rw [List.mem_singleton.mp member]
  exact ⟨by decide, by decide, by decide +kernel, by decide +kernel, by decide, by decide, by decide⟩

end NetLatencyMonitor.Agent
