import AccessPolicy.Proofs.Condition.Chain
import AccessPolicy.Proofs.Decision.Settlement
import AccessPolicy.Time.ZoneTable

namespace AccessPolicy.Policy

variable (mode : PatternMode) (r : Request)

def FailsOn (p : Policy) (field : String) : Prop :=
  (∃ c ∈ p.conditions, c.field = field) ∧ ∀ c ∈ p.conditions, c.field = field → c.holds mode (r.resolve field) = false

/-- Whether no condition of a policy but the last is joined with the next by OR. -/
def JoinsByAnd (p : Policy) : Prop := ∀ c ∈ p.conditions.dropLast, c.logic ≠ .or

variable {mode r} {p : Policy}

theorem failsOn_of_not_covers {field value : String} (hvalue : r.resolve field = .text value)
    (h : p.covers mode field value = false) : p.FailsOn mode r field := by
  rw [covers, Bool.or_eq_false_iff, Bool.not_eq_false', hasConditionOn, List.any_eq_true, List.any_eq_false] at h
  obtain ⟨⟨c, hc, hfield⟩, hnone⟩ := h
  refine ⟨⟨c, hc, eq_of_beq hfield⟩, fun d hd hdfield => ?_⟩
  simpa [hdfield, hvalue] using hnone d hd

theorem failsOn_of_not_isApplicable (h : p.isApplicable mode r.resource r.action = false) :
    p.FailsOn mode r "resource" ∨ p.FailsOn mode r "action" := by
  rw [isApplicable, Bool.and_eq_false_iff] at h
  exact h.imp (failsOn_of_not_covers rfl) (failsOn_of_not_covers rfl)

theorem FailsOn.not_isMatchedBy {field : String} (hfails : p.FailsOn mode r field) (hand : p.JoinsByAnd) :
    p.isMatchedBy mode r = false := by
  obtain ⟨⟨c, hc, rfl⟩, hall⟩ := hfails
  rw [isMatchedBy, Condition.allHold_of_no_or mode hand, List.all_eq_false]
  exact ⟨c, hc, by simp [hall c hc rfl]⟩

theorem isApplicable_of_isMatchedBy (hand : p.JoinsByAnd) (h : p.isMatchedBy mode r = true) :
    p.isApplicable mode r.resource r.action = true := by
  cases happ : p.isApplicable mode r.resource r.action with
  | true => rfl
  | false =>
    have hnot : p.isMatchedBy mode r = false :=
      (failsOn_of_not_isApplicable happ).elim (·.not_isMatchedBy hand) (·.not_isMatchedBy hand)
    exact hnot.symm.trans h

theorem matching_applicable {ps : List Policy} (hand : ∀ p ∈ ps, p.JoinsByAnd) :
    matching mode r (applicable mode ps r.resource r.action) = matching mode r ps := by
  rw [matching, applicable, List.filter_filter]
  refine List.filter_congr fun p hp => ?_
  cases h : p.isMatchedBy mode r with
  | false => rfl
  | true => exact isApplicable_of_isMatchedBy (hand p hp) h

variable (mode r)

theorem scope_agrees_with_conditions [ZoneDatabase] :
    (∀ p : Policy, p.isMatchedBy mode r = true → p.isApplicable mode r.resource r.action = false →
      (∃ c ∈ p.conditions.dropLast, c.logic = .or) ∧ (p.FailsOn mode r "resource" ∨ p.FailsOn mode r "action")) ∧
    ∀ ps : List Policy, (∀ p ∈ ps, p.JoinsByAnd) →
      decide mode (applicable mode ps r.resource r.action) r = decide mode ps r := by
  refine ⟨fun p hmatch happ => ⟨?_, failsOn_of_not_isApplicable happ⟩, fun ps hand => ?_⟩
  · refine Classical.byContradiction fun hor => ?_
    have hand : p.JoinsByAnd := fun c hc hl => hor ⟨c, hc, hl⟩
    exact Bool.false_ne_true (happ.symm.trans (isApplicable_of_isMatchedBy hand hmatch))
  · rw [decide_eq_settle, decide_eq_settle, matching_applicable hand]

open ZoneTable in
theorem scope_drops_matching_deny :
    let onBots : Condition := ⟨"resource", .equal, .text "bot", .or⟩
    let onWrites : Condition := ⟨"action", .equal, .text "write", .and⟩
    let freeze : Policy := { (default : Policy) with name := "freeze", kind := .deny, conditions := [onBots, onWrites] }
    let lock : Policy := { freeze with conditions := [onWrites, onBots] }
    let r : Request := { Request.blank with resource := "model", action := "write" }
    (freeze.isMatchedBy .stub r = true ∧ freeze.isApplicable .stub r.resource r.action = false ∧
      freeze.FailsOn .stub r "resource") ∧
    (∀ p ∈ [lock], p.JoinsByAnd) ∧
      decide .stub (applicable .stub [lock] r.resource r.action) r = decide .stub [lock] r := by
  intro onBots onWrites freeze lock r
  have hmatch : freeze.isMatchedBy .stub r = true := by decide +kernel
  have happ : freeze.isApplicable .stub r.resource r.action = false := by decide +kernel
  have hand : ∀ p ∈ [lock], p.JoinsByAnd := by
    intro p hp c hc
    rw [List.mem_singleton.1 hp] at hc
    rw [List.mem_singleton.1 hc]
    decide
  obtain ⟨-, hfails⟩ := (scope_agrees_with_conditions .stub r).1 freeze hmatch happ
  refine ⟨⟨hmatch, happ, hfails.resolve_right fun h => ?_⟩, hand, (scope_agrees_with_conditions .stub r).2 [lock] hand⟩
  have hwrites := h.2 onWrites (by simp [freeze]) rfl
  exact absurd hwrites (by decide +kernel)

end AccessPolicy.Policy
