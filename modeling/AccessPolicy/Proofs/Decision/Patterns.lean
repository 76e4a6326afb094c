import AccessPolicy.Proofs.Condition.Chain
import AccessPolicy.Proofs.Decision.Settlement
import AccessPolicy.Time.ZoneTable

namespace AccessPolicy

namespace Condition

/-- Whether a condition holds of a value, where `found` says what the conditions that ask for a pattern find. -/
def holdsBy (found : Condition → Value → Bool) (c : Condition) (v : Value) : Bool :=
  if c.operator = .pattern then found c v else c.holds .stub v

variable {c : Condition} {cs : List Condition} {test test' : Condition → Bool}

theorem holds_stub_of_pattern (h : c.operator = .pattern) (v : Value) : c.holds .stub v = false := by
  simp [holds, h]

theorem holds_of_ne_pattern (h : c.operator ≠ .pattern) (mode : PatternMode) (v : Value) :
    c.holds mode v = c.holds .stub v := by
  cases ho : c.operator with
  | pattern => exact absurd ho h
  | _ => simp [holds, ho]

theorem holdsBy_of_ne_pattern (h : c.operator ≠ .pattern) (found : Condition → Value → Bool) (v : Value) :
    c.holdsBy found v = c.holds .stub v := if_neg h

theorem holdsBy_of_holds_stub (found : Condition → Value → Bool) {v : Value} (h : c.holds .stub v = true) :
    c.holdsBy found v = true := by
  by_cases ho : c.operator = .pattern
  · rw [holds_stub_of_pattern ho] at h
    contradiction
  · rwa [holdsBy_of_ne_pattern ho]

theorem holds_enabled : holds .enabled = holdsBy (holds .enabled) := by
  funext c v
  by_cases ho : c.operator = .pattern
  · exact (if_pos ho).symm
  · rw [holdsBy_of_ne_pattern ho, holds_of_ne_pattern ho]

theorem HoldsFrom.mono (hle : ∀ c, test c = true → test' c = true) {s : Nat} (h : HoldsFrom test cs s) :
    HoldsFrom test' cs s where
  passes := by
    obtain ⟨c, hc, hpass⟩ := h.passes
    exact ⟨c, hc, hle c hpass⟩
  starts := h.starts
  lasts j d c hj hd hc hand := hle c (h.lasts j d c hj hd hc hand)

theorem chain_mono (hle : ∀ c, test c = true → test' c = true) (h : chain test cs = true) : chain test' cs = true := by
  rw [chain_eq_true_iff] at h ⊢
  refine h.imp_right ?_
  rintro ⟨s, hs⟩
  exact ⟨s, hs.mono hle⟩

theorem chain_congr (h : ∀ c ∈ cs, test c = test' c) : chain test cs = chain test' cs := by
  have hresults : cs.map (fun c => (c.logic, test c)) = cs.map fun c => (c.logic, test' c) :=
    List.map_congr_left fun c hc => by rw [h c hc]
  rw [chain, chain, hresults]

end Condition

namespace Policy

section Tests

def coversBy (test : Condition → Value → Bool) (p : Policy) (field value : String) : Bool :=
  !p.hasConditionOn field || p.conditions.any fun c => c.field == field && test c (.text value)

def bearsOn (test : Condition → Value → Bool) (r : Request) (p : Policy) : Bool :=
  (p.coversBy test "resource" r.resource && p.coversBy test "action" r.action) &&
    Condition.chain (fun c => test c (r.resolve c.field)) p.conditions

variable (mode : PatternMode) {test test' : Condition → Value → Bool} {p : Policy} {ps : List Policy} {r : Request}

theorem bearsOn_holds : p.bearsOn (Condition.holds mode) r =
    (p.isApplicable mode r.resource r.action && p.isMatchedBy mode r) := rfl

theorem coversBy_mono (hle : ∀ c v, test c v = true → test' c v = true) {field value : String}
    (h : p.coversBy test field value = true) : p.coversBy test' field value = true := by
  rw [coversBy, Bool.or_eq_true, List.any_eq_true] at h ⊢
  refine h.imp_right ?_
  rintro ⟨c, hc, htest⟩
  obtain ⟨hfield, htest⟩ := Bool.and_eq_true_iff.1 htest
  exact ⟨c, hc, Bool.and_eq_true_iff.2 ⟨hfield, hle c _ htest⟩⟩

theorem bearsOn_mono (hle : ∀ c v, test c v = true → test' c v = true) (h : p.bearsOn test r = true) :
    p.bearsOn test' r = true := by
  simp only [bearsOn, Bool.and_eq_true] at h ⊢
  obtain ⟨⟨hresource, haction⟩, hchain⟩ := h
  exact ⟨⟨coversBy_mono hle hresource, coversBy_mono hle haction⟩, Condition.chain_mono (fun c => hle c _) hchain⟩

theorem kind_of_find?_deny (h : ps.find? (·.kind == .deny) = some p) : p.kind = .deny := by
  simpa using List.find?_some h

theorem bearsOn_congr (h : ∀ c ∈ p.conditions, test c = test' c) : p.bearsOn test r = p.bearsOn test' r := by
  have hcovers : ∀ field value, p.coversBy test field value = p.coversBy test' field value := by
    intro field value
    rw [coversBy, coversBy, Bool.eq_iff_iff, Bool.or_eq_true, Bool.or_eq_true, List.any_eq_true, List.any_eq_true]
    refine or_congr_right (exists_congr fun c => and_congr_right fun hc => ?_)
    rw [h c hc]
  rw [bearsOn, bearsOn, hcovers, hcovers, Condition.chain_congr fun c hc => congrFun (h c hc) _]

variable [ZoneDatabase]

def decideBy (test : Condition → Value → Bool) (ps : List Policy) (r : Request) : Decision :=
  settle r.time.instant (ps.filter (bearsOn test r))

def DeniesBy (test : Condition → Value → Bool) (ps : List Policy) (r : Request) : Prop :=
  ∃ p ∈ ps, p.kind = .deny ∧ decideBy test ps r = .deniedBy p.name

theorem decideInScope_eq_decideBy : decideInScope mode ps r = decideBy (Condition.holds mode) ps r := by
  rw [decideInScope, decide_eq_settle, matching, applicable, List.filter_filter, decideBy]
  congr 1
  refine List.filter_congr fun p _ => ?_
  rw [bearsOn_holds, Bool.and_comm]

theorem deniesBy_iff : DeniesBy test ps r ↔ ∃ p ∈ ps, p.bearsOn test r = true ∧ p.kind = .deny := by
  constructor
  · rintro ⟨p, hp, hkind, hdenied⟩
    obtain ⟨q, hq⟩ := exists_settle_eq_deniedBy_iff.1 ⟨p.name, hdenied⟩
    have hmem := List.mem_filter.1 (List.mem_of_find?_eq_some hq)
    exact ⟨q, hmem.1, hmem.2, kind_of_find?_deny hq⟩
  · rintro ⟨p, hp, hbears, hkind⟩
    cases hq : (ps.filter (bearsOn test r)).find? (·.kind == .deny) with
    | none => exact absurd (List.find?_eq_none.1 hq p (List.mem_filter.2 ⟨hp, hbears⟩)) (by simp [hkind])
    | some q =>
      have hmem := List.mem_filter.1 (List.mem_of_find?_eq_some hq)
      exact ⟨q, hmem.1, kind_of_find?_deny hq, settle_of_deny hq⟩

theorem deniesBy_mono (hle : ∀ c v, test c v = true → test' c v = true) (h : DeniesBy test ps r) :
    DeniesBy test' ps r := by
  rw [deniesBy_iff] at h ⊢
  obtain ⟨p, hp, hbears, hkind⟩ := h
  exact ⟨p, hp, bearsOn_mono hle hbears, hkind⟩

theorem decideBy_congr (h : ∀ p ∈ ps, ∀ c ∈ p.conditions, test c = test' c) :
    decideBy test ps r = decideBy test' ps r := by
  rw [decideBy, decideBy, List.filter_congr fun p hp => bearsOn_congr (h p hp)]

end Tests

theorem patterns_only_add [ZoneDatabase] (ps : List Policy) (r : Request) :
    (∀ found : Condition → Value → Bool,
      (∀ p ∈ ps, p.bearsOn (Condition.holds .stub) r = true → p.bearsOn (Condition.holdsBy found) r = true) ∧
      (DeniesBy (Condition.holds .stub) ps r → DeniesBy (Condition.holdsBy found) ps r) ∧
      ((∀ p ∈ ps, ∀ c ∈ p.conditions, c.operator ≠ .pattern) →
        decideBy (Condition.holdsBy found) ps r = decideBy (Condition.holds .stub) ps r)) ∧
    (∀ p ∈ ps, p.isApplicable .stub r.resource r.action = true → p.isMatchedBy .stub r = true →
      p.isApplicable .enabled r.resource r.action = true ∧ p.isMatchedBy .enabled r = true) ∧
    ((∃ p ∈ ps, p.kind = .deny ∧ decideInScope .stub ps r = .deniedBy p.name) →
      ∃ p ∈ ps, p.kind = .deny ∧ decideInScope .enabled ps r = .deniedBy p.name) ∧
    ((∀ p ∈ ps, ∀ c ∈ p.conditions, c.operator ≠ .pattern) →
      decideInScope .enabled ps r = decideInScope .stub ps r) := by
  have hle (found : Condition → Value → Bool) (c : Condition) (v : Value) :
      c.holds .stub v = true → c.holdsBy found v = true := Condition.holdsBy_of_holds_stub found
  have hsame (found : Condition → Value → Bool) (hps : ∀ p ∈ ps, ∀ c ∈ p.conditions, c.operator ≠ .pattern) :
      decideBy (Condition.holdsBy found) ps r = decideBy (Condition.holds .stub) ps r :=
    decideBy_congr fun p hp c hc => funext fun v => Condition.holdsBy_of_ne_pattern (hps p hp c hc) found v
  refine ⟨fun found => ⟨fun p _ => bearsOn_mono (hle found), deniesBy_mono (hle found), hsame found⟩, ?_, ?_, ?_⟩
  · intro p _ happ hmatch
    rw [← Bool.and_eq_true_iff, ← bearsOn_holds, Condition.holds_enabled]
    exact bearsOn_mono (hle _) (Bool.and_eq_true_iff.2 ⟨happ, hmatch⟩)
  · rw [decideInScope_eq_decideBy, decideInScope_eq_decideBy, Condition.holds_enabled]
    exact deniesBy_mono (hle _)
  · rw [decideInScope_eq_decideBy, decideInScope_eq_decideBy, Condition.holds_enabled]
    exact hsame _

open ZoneTable in
theorem patterns_only_add_to_freeze :
    let onCurl : Condition := ⟨"user_agent", .pattern, .text "^curl/", .or⟩
    let onBots : Condition := ⟨"resource", .equal, .text "bot", .and⟩
    let curl : Policy := { (default : Policy) with name := "curl", kind := .deny, conditions := [onCurl] }
    let freeze : Policy := { (default : Policy) with name := "freeze", kind := .deny, conditions := [onCurl, onBots] }
    let r : Request := { Request.blank with resource := "bot", userAgent := "curl/8.4.0" }
    (freeze.isApplicable .stub r.resource r.action = true ∧ freeze.isMatchedBy .stub r = true ∧
      freeze.isMatchedBy .enabled r = true ∧ freeze.bearsOn (Condition.holdsBy fun _ _ => true) r = true) ∧
    (∃ p ∈ [curl, freeze], p.kind = .deny ∧ decideInScope .stub [curl, freeze] r = .deniedBy p.name) ∧
    (∃ p ∈ [curl, freeze], p.kind = .deny ∧ decideInScope .enabled [curl, freeze] r = .deniedBy p.name) ∧
    (∀ p ∈ [{ freeze with conditions := [onBots] }], ∀ c ∈ p.conditions, c.operator ≠ .pattern) ∧
    decideInScope .enabled [{ freeze with conditions := [onBots] }] r =
      decideInScope .stub [{ freeze with conditions := [onBots] }] r := by
  intro onCurl onBots curl freeze r
  have happ : freeze.isApplicable .stub r.resource r.action = true := by decide +kernel
  have hmatch : freeze.isMatchedBy .stub r = true := by decide +kernel
  have hdenied : ∃ p ∈ [curl, freeze], p.kind = .deny ∧ decideInScope .stub [curl, freeze] r = .deniedBy p.name := by
    rw [decideInScope_eq_decideBy]
    exact deniesBy_iff.2 ⟨freeze, by simp, Bool.and_eq_true_iff.2 ⟨happ, hmatch⟩, rfl⟩
  have hplain : ∀ p ∈ [{ freeze with conditions := [onBots] }], ∀ c ∈ p.conditions, c.operator ≠ .pattern := by
    intro p hp c hc
    rw [List.mem_singleton.1 hp] at hc
    rw [List.mem_singleton.1 hc]
    decide
  obtain ⟨hfound, hpasses, hdenies, -⟩ := patterns_only_add [curl, freeze] r
  have hbears : freeze.bearsOn (Condition.holds .stub) r = true := Bool.and_eq_true_iff.2 ⟨happ, hmatch⟩
  obtain ⟨-, -, -, hsame⟩ := patterns_only_add [{ freeze with conditions := [onBots] }] r
  exact ⟨⟨happ, hmatch, (hpasses freeze (by simp) happ hmatch).2, (hfound _).1 freeze (by simp) hbears⟩, hdenied,
    hdenies hdenied, hplain, hsame hplain⟩

end Policy

end AccessPolicy
