import AccessPolicy.Proofs.Decision.Settlement
import AccessPolicy.Proofs.Policy.Ordering
import AccessPolicy.Time.ZoneTable
import Mathlib.Data.List.Forall2

namespace AccessPolicy

theorem PolicyKind.ofName?_eq_none_iff {s : String} : ofName? s = none ↔ s ∉ ["allow", "deny", "conditional"] := by
  unfold ofName?
  split <;> simp_all

theorem PolicyKind.name_mem (k : PolicyKind) : k.name ∈ ["allow", "deny", "conditional"] := by
  cases k <;> decide

namespace PolicyRecord

section Causes

variable [ZoneDatabase]

def causes (x : PolicyRecord) : List PolicyFault :=
  (if x.kind ∈ ["allow", "deny", "conditional"] then [] else [.kind x.kind]) ++
  ((fault? (Condition.decodeAll x.conditions)).map PolicyFault.conditions).toList ++
  if x.kind = "conditional" then ((fault? (Effect.decode x.effect)).map PolicyFault.effect).toList else []

theorem fault?_readEffect (kind : PolicyKind) (text : String) : fault? (readEffect kind text) =
    if kind = .conditional then (fault? (Effect.decode text)).map PolicyFault.effect else none := by
  unfold readEffect
  cases Effect.decode text <;> cases kind <;> rfl

theorem fault?_toPolicy (x : PolicyRecord) : fault? x.toPolicy = x.causes.head? := by
  unfold toPolicy causes
  cases hk : PolicyKind.ofName? x.kind with
  | none => simp [PolicyKind.ofName?_eq_none_iff.1 hk, fault?]
  | some kind =>
    have hname : kind.name = x.kind := PolicyKind.name_of_ofName? hk
    have hmem : x.kind ∈ ["allow", "deny", "conditional"] := hname ▸ kind.name_mem
    have hconditional : x.kind = "conditional" ↔ kind = .conditional := by
      rw [← hname]
      cases kind <;> decide
    rw [if_pos hmem]
    cases Condition.decodeAll x.conditions with
    | error e => rfl
    | ok cs =>
      simp only [fault?_map, fault?_readEffect, hconditional]
      by_cases hkind : kind = .conditional
      · cases Effect.decode x.effect <;> simp [hkind, fault?]
      · simp [hkind, fault?]

theorem compile_eq_error_iff {x : PolicyRecord} {f : Fault} :
    x.compile = .error f ↔ ∃ c, x.causes.head? = some c ∧ f = .malformedPolicy x.id c.message := by
  rw [← fault?_toPolicy, compile]
  cases x.toPolicy with
  | ok p => simp [fault?, Except.mapError]
  | error c => simp [fault?, Except.mapError, eq_comm]

theorem exists_compile_eq_error_iff {x : PolicyRecord} : (∃ f, x.compile = .error f) ↔ x.causes ≠ [] := by
  rw [ne_eq, ← List.head?_eq_none_iff, ← ne_eq, Option.ne_none_iff_exists']
  constructor
  · rintro ⟨f, hf⟩
    obtain ⟨c, hc, -⟩ := compile_eq_error_iff.1 hf
    exact ⟨c, hc⟩
  · rintro ⟨c, hc⟩
    exact ⟨_, compile_eq_error_iff.2 ⟨c, hc, rfl⟩⟩

theorem causes_ne_nil_iff {x : PolicyRecord} : x.causes ≠ [] ↔
    x.kind ∉ ["allow", "deny", "conditional"] ∨ (∃ e, Condition.decodeAll x.conditions = .error e) ∨
      x.kind = "conditional" ∧ ∃ e, Effect.decode x.effect = .error e := by
  have hfault : ∀ {α : Type} {a : Except DecodeFault α} {g : DecodeFault → PolicyFault},
      ((fault? a).map g).toList ≠ [] ↔ ∃ e, a = .error e := by
    intro α a g
    cases a <;> simp [fault?]
  have happend : ∀ {as bs : List PolicyFault}, as ++ bs ≠ [] ↔ as ≠ [] ∨ bs ≠ [] := by
    intro as bs
    cases as <;> simp
  rw [causes, happend, happend, or_assoc, hfault]
  refine or_congr ?_ (or_congr_right ?_)
  · split <;> simp [*]
  · split <;> simp [*]

end Causes

/-- Whether a record is another but for an effect that is not used. -/
inductive EffectReplaced (x : PolicyRecord) : PolicyRecord → Prop
  | unchanged : EffectReplaced x x
  | unused (text : String) (h : x.kind = "allow" ∨ x.kind = "deny") : EffectReplaced x { x with effect := text }

end PolicyRecord

namespace Policy

def withoutUnusedEffect (p : Policy) : Policy := if p.kind = .conditional then p else { p with effect := .blank }

section Unused

variable (mode : PatternMode) (r : Request)

theorem withoutUnusedEffect_parts (p : Policy) :
    p.withoutUnusedEffect = { p with effect := p.withoutUnusedEffect.effect } := by
  unfold withoutUnusedEffect
  split <;> rfl

theorem mayPrecede_withoutUnusedEffect (p q : Policy) :
    mayPrecede p.withoutUnusedEffect q.withoutUnusedEffect = mayPrecede p q := by
  rw [withoutUnusedEffect_parts p, withoutUnusedEffect_parts q]
  rfl

theorem isApplicable_withoutUnusedEffect (p : Policy) (resource action : String) :
    p.withoutUnusedEffect.isApplicable mode resource action = p.isApplicable mode resource action := by
  rw [withoutUnusedEffect_parts]
  rfl

variable [ZoneDatabase]

theorem decideFrom_withoutUnusedEffect (ps : List Policy) (d : Decision) :
    decideFrom mode r d (ps.map withoutUnusedEffect) = decideFrom mode r d ps := by
  induction ps generalizing d with
  | nil => rfl
  | cons p ps ih =>
    rw [List.map_cons]
    -- only a conditional policy has its effect taken up, and it keeps it
    cases hk : p.kind with
    | conditional =>
      have hp : p.withoutUnusedEffect = p := if_pos hk
      rw [hp]
      simp only [decideFrom, ih]
    | allow =>
      rw [withoutUnusedEffect_parts]
      simp only [decideFrom, hk, ih]
      rfl
    | deny =>
      rw [withoutUnusedEffect_parts]
      simp only [decideFrom, hk, ih]
      rfl

theorem decideInScope_withoutUnusedEffect (ps : List Policy) :
    decideInScope mode (ps.map withoutUnusedEffect) r = decideInScope mode ps r := by
  have happlicable : applicable mode (ps.map withoutUnusedEffect) r.resource r.action =
      (applicable mode ps r.resource r.action).map withoutUnusedEffect := by
    rw [applicable, applicable, List.filter_map]
    congr 2
    funext p
    exact isApplicable_withoutUnusedEffect mode p r.resource r.action
  rw [decideInScope, happlicable]
  exact decideFrom_withoutUnusedEffect mode r _ .unopposed

end Unused

end Policy

namespace PolicyRecord

theorem EffectReplaced.enabled {x y : PolicyRecord} (h : x.EffectReplaced y) : y.enabled = x.enabled := by
  cases h <;> rfl

theorem EffectReplaced.compile [ZoneDatabase] {x y : PolicyRecord} (h : x.EffectReplaced y) :
    y.compile.map Policy.withoutUnusedEffect = x.compile.map Policy.withoutUnusedEffect := by
  cases h with
  | unchanged => rfl
  | unused text h =>
    have hread : ∀ kind, PolicyKind.ofName? x.kind = some kind → kind ≠ .conditional := by
      rintro kind hk rfl
      have hname := PolicyKind.name_of_ofName? hk
      rcases h with h | h <;> rw [h] at hname <;> contradiction
    unfold PolicyRecord.compile toPolicy
    cases hk : PolicyKind.ofName? x.kind with
    | none => rfl
    | some kind =>
      cases Condition.decodeAll x.conditions with
      | error e => rfl
      | ok cs =>
        obtain ⟨e, he⟩ := readEffect_of_ne_conditional (hread kind hk) x.effect
        obtain ⟨e', he'⟩ := readEffect_of_ne_conditional (hread kind hk) text
        simp only [he, he', Except.map, Except.mapError, Policy.withoutUnusedEffect, hread kind hk, if_false]

end PolicyRecord

namespace Compiled

open PolicyRecord

variable [ZoneDatabase]

theorem results_of_effectReplaced {rs rs' : List PolicyRecord} (h : List.Forall₂ EffectReplaced rs rs') :
    (results rs').map (Except.map Policy.withoutUnusedEffect) =
      (results rs).map (Except.map Policy.withoutUnusedEffect) := by
  induction h with
  | nil => rfl
  | cons hx _ ih =>
    simp only [results] at ih ⊢
    rw [List.filter_cons, List.filter_cons, hx.enabled]
    split
    · simp only [List.map_cons, hx.compile, ih]
    · exact ih

theorem rejected_of_effectReplaced {rs rs' : List PolicyRecord} (h : List.Forall₂ EffectReplaced rs rs') :
    (ofRecords rs').rejected = (ofRecords rs).rejected := by
  have hfaults : ∀ es : List (Except Fault Policy),
      (es.map (Except.map Policy.withoutUnusedEffect)).filterMap fault? = es.filterMap fault? := by
    intro es
    rw [List.filterMap_map]
    congr 1
    funext e
    exact fault?_map _
  rw [rejected_ofRecords, rejected_ofRecords, ← hfaults, results_of_effectReplaced h, hfaults]

theorem policies_of_effectReplaced {rs rs' : List PolicyRecord} (h : List.Forall₂ EffectReplaced rs rs') :
    (ofRecords rs').policies.map Policy.withoutUnusedEffect =
      (ofRecords rs).policies.map Policy.withoutUnusedEffect := by
  have hpolicies : ∀ es : List (Except Fault Policy),
      (Policy.inOrder (es.filterMap Except.toOption)).map Policy.withoutUnusedEffect =
        Policy.inOrder ((es.map (Except.map Policy.withoutUnusedEffect)).filterMap Except.toOption) := by
    intro es
    rw [Policy.inOrder, List.map_mergeSort fun p _ q _ => (Policy.mayPrecede_withoutUnusedEffect p q).symm,
      List.map_filterMap, List.filterMap_map]
    congr 2
    funext e
    exact (toOption_map _).symm
  rw [ofRecords, ofRecords, hpolicies, hpolicies, results_of_effectReplaced h]

end Compiled

namespace PolicyRecord

theorem refusals_and_unused_effects [ZoneDatabase] :
    (∀ x : PolicyRecord, (∃ f, x.compile = .error f) ↔
      x.kind ∉ ["allow", "deny", "conditional"] ∨ (∃ e, Condition.decodeAll x.conditions = .error e) ∨
        x.kind = "conditional" ∧ ∃ e, Effect.decode x.effect = .error e) ∧
    (∀ (x : PolicyRecord) (f : Fault),
      x.compile = .error f ↔ ∃ c, x.causes.head? = some c ∧ f = .malformedPolicy x.id c.message) ∧
    ∀ rs rs' : List PolicyRecord, List.Forall₂ EffectReplaced rs rs' →
      (Compiled.ofRecords rs').rejected = (Compiled.ofRecords rs).rejected ∧
      ∀ (mode : PatternMode) (r : Request), Decision.ofRecords mode rs' r = Decision.ofRecords mode rs r := by
  refine ⟨fun x => exists_compile_eq_error_iff.trans causes_ne_nil_iff, fun x f => compile_eq_error_iff, ?_⟩
  intro rs rs' h
  refine ⟨Compiled.rejected_of_effectReplaced h, fun mode r => ?_⟩
  rw [Decision.ofRecords, Decision.ofRecords, ← Policy.decideInScope_withoutUnusedEffect mode r,
    Compiled.policies_of_effectReplaced h, Policy.decideInScope_withoutUnusedEffect]

open ZoneTable in
theorem denial_despite_unreadable_effect :
    let staff : PolicyRecord := { blank with name := "staff", kind := "allow" }
    let freeze : PolicyRecord := { staff with name := "freeze", kind := "deny" }
    let torn : PolicyRecord := { freeze with effect := "gone" }
    (∃ f, { torn with kind := "conditional" }.compile = .error f) ∧
      (Compiled.ofRecords [staff, torn]).rejected = [] ∧
      Decision.ofRecords .stub [staff, torn] .blank = .deniedBy "freeze" := by
  intro staff freeze torn
  have hgone : ∃ e, Effect.decode "gone" = .error e := ⟨_, rfl⟩
  have hreplaced : List.Forall₂ EffectReplaced [staff, freeze] [staff, torn] :=
    .cons .unchanged (.cons (.unused "gone" (.inr rfl)) .nil)
  have hunused := refusals_and_unused_effects.2.2 _ _ hreplaced
  have hrejected : (Compiled.ofRecords [staff, freeze]).rejected = [] := by decide +kernel
  have hdenied : Decision.ofRecords .stub [staff, freeze] .blank = .deniedBy "freeze" := by
    rw [Decision.ofRecords_of_pairwise (by decide)]
    rfl
  refine ⟨(refusals_and_unused_effects.1 _).2 (.inr (.inr ⟨rfl, hgone⟩)), ?_, ?_⟩
  · exact hunused.1.trans hrejected
  · exact (hunused.2 .stub .blank).trans hdenied

end PolicyRecord

end AccessPolicy
