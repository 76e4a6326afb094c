import AccessPolicy.Store
import AccessPolicy.Proofs.Decision.LastWord
import AccessPolicy.Proofs.Engine.Evaluation
import AccessPolicy.Proofs.Sorting
import AccessPolicy.Time.ZoneTable

namespace AccessPolicy

namespace PolicyRecord

def assemble (x : PolicyRecord) (kind : PolicyKind) (cs : List Condition) (e : Effect) : Policy :=
  ⟨x.id, x.tenant, x.name, x.description, kind, x.priority, cs, e, x.enabled, x.createdAt⟩

section Reading

variable [ZoneDatabase]

theorem compile_eq_ok_iff {x : PolicyRecord} {p : Policy} : x.compile = .ok p ↔
    ∃ kind cs e, PolicyKind.ofName? x.kind = some kind ∧ Condition.decodeAll x.conditions = .ok cs ∧
      readEffect kind x.effect = .ok e ∧ x.assemble kind cs e = p := by
  rw [compile_eq_ok]
  unfold toPolicy
  cases PolicyKind.ofName? x.kind with
  | none => simp
  | some kind =>
    cases Condition.decodeAll x.conditions with
    | error f => simp
    | ok cs =>
      cases he : readEffect kind x.effect with
      | error f => simp [Except.map, he]
      | ok e => simp [Except.map, he, assemble]

theorem readEffect_of_ne_conditional {kind : PolicyKind} (h : kind ≠ .conditional) (text : String) :
    ∃ e, readEffect kind text = .ok e := by
  unfold readEffect
  cases Effect.decode text with
  | ok e => exact ⟨e, rfl⟩
  | error f =>
    cases kind with
    | conditional => contradiction
    | allow => exact ⟨.blank, rfl⟩
    | deny => exact ⟨.blank, rfl⟩

end Reading

structure Forbids (mode : PatternMode) (r : Request) (x : PolicyRecord) : Prop where
  tenant : x.tenant = r.tenant
  enabled : x.enabled = true
  kind : x.kind = "deny"
  applies : ∃ cs, Condition.decodeAll x.conditions = .ok cs ∧
    (x.assemble .deny cs .blank).isApplicable mode r.resource r.action = true ∧
    (x.assemble .deny cs .blank).isMatchedBy mode r = true

def Outranks (x y : PolicyRecord) : Prop :=
  y.priority < x.priority ∨ x.priority = y.priority ∧ x.createdAt.compare y.createdAt = .lt

end PolicyRecord

namespace Policy

variable (mode : PatternMode) (r : Request)

def denies (p : Policy) : Bool :=
  p.isApplicable mode r.resource r.action && p.isMatchedBy mode r && p.kind == .deny

theorem find?_deny_matching (ps : List Policy) :
    (matching mode r (applicable mode ps r.resource r.action)).find? (·.kind == .deny) =
      (ps.filter (denies mode r)).head? := by
  rw [matching, applicable, List.find?_filter, List.find?_filter, List.head?_filter]
  congr 1
  funext p
  rw [Bool.eq_iff_iff]
  simp [denies, and_assoc]

theorem deniedBy_inj {a b : String} (h : Decision.deniedBy a = Decision.deniedBy b) : a = b :=
  (String.append_right_inj _).1 (congrArg Decision.reason h)

theorem denial_ne_outside (name : String) : "Denied by policy: " ++ name ≠ "Outside allowed time window" := by
  intro h
  simpa using congrArg String.toList h

variable [ZoneDatabase]

theorem verdict?_ne_denial (t : Instant) (p : Policy) (name : String) :
    verdict? t p ≠ some (false, "Denied by policy: " ++ name) := by
  intro h
  cases hk : p.kind with
  | deny => simp [verdict?, hk] at h
  | allow => simp [verdict?, hk] at h
  | conditional =>
    cases he : p.effect.excludes t with
    | false => simp [verdict?, hk, he] at h
    | true => exact denial_ne_outside name (by simpa [verdict?, hk, he] using h.symm)

theorem foldl_amend_ne_deniedBy (t : Instant) (ps : List Policy) (name : String) :
    ps.foldl (amend t) .unopposed ≠ .deniedBy name := by
  intro h
  have hv := verdict_amendments t ps
  rw [h] at hv
  cases hl : lastOf (verdict? t) ps with
  | none =>
    rw [hl] at hv
    exact Bool.false_ne_true (congrArg Prod.fst hv)
  | some v =>
    rw [hl] at hv
    have hm := List.mem_of_getLast? hl
    obtain ⟨p, _, hp⟩ := List.mem_filterMap.1 hm
    exact verdict?_ne_denial t p name (hp.trans (congrArg some hv.symm))

theorem decideInScope_eq_deniedBy_iff (ps : List Policy) (name : String) :
    decideInScope mode ps r = .deniedBy name ↔
      ∃ p, (ps.filter (denies mode r)).head? = some p ∧ p.name = name := by
  have hf := find?_deny_matching mode r ps
  unfold decideInScope decide
  cases h : (ps.filter (denies mode r)).head? with
  | none =>
    rw [h] at hf
    rw [decideFrom_of_no_deny mode r hf]
    simp [foldl_amend_ne_deniedBy]
  | some p =>
    rw [h] at hf
    rw [decideFrom_of_deny mode r hf]
    constructor
    · intro hp
      exact ⟨p, rfl, deniedBy_inj hp⟩
    · rintro ⟨q, hq, rfl⟩
      rw [Option.some.inj hq]

end Policy

namespace PolicyRecord

variable (mode : PatternMode) (r : Request)

theorem denies_iff {p : Policy} : p.denies mode r = true ↔
    p.isApplicable mode r.resource r.action = true ∧ p.isMatchedBy mode r = true ∧ p.kind = .deny := by
  simp [Policy.denies, and_assoc]

variable [ZoneDatabase]

def denial? (x : PolicyRecord) : Option Policy :=
  if x.tenant == r.tenant && x.enabled then x.compile.toOption.filter (Policy.denies mode r) else none

theorem denial?_eq_some_iff {x : PolicyRecord} {p : Policy} : x.denial? mode r = some p ↔
    x.tenant = r.tenant ∧ x.enabled = true ∧ x.compile = .ok p ∧ p.denies mode r = true := by
  unfold denial?
  cases x.compile with
  | error f => simp [Except.toOption]
  | ok q =>
    simp only [Except.toOption, Option.filter_some, Option.ite_none_right_eq_some, Bool.and_eq_true, beq_iff_eq,
      Option.some.injEq, Except.ok.injEq, and_assoc]
    constructor
    · rintro ⟨ht, he, hq, rfl⟩
      exact ⟨ht, he, rfl, hq⟩
    · rintro ⟨ht, he, rfl, hq⟩
      exact ⟨ht, he, hq, rfl⟩

theorem exists_denial?_iff {x : PolicyRecord} : (∃ p, x.denial? mode r = some p) ↔ x.Forbids mode r := by
  constructor
  · rintro ⟨p, hp⟩
    obtain ⟨ht, he, hc, hd⟩ := (denial?_eq_some_iff mode r).1 hp
    obtain ⟨kind, cs, e, hk, hcs, -, rfl⟩ := compile_eq_ok_iff.1 hc
    obtain ⟨happ, hmatch, hkind⟩ := (denies_iff mode r).1 hd
    have hkind : kind = .deny := hkind
    subst hkind
    exact ⟨ht, he, (PolicyKind.name_of_ofName? hk).symm, cs, hcs, happ, hmatch⟩
  · intro h
    obtain ⟨cs, hcs, happ, hmatch⟩ := h.applies
    obtain ⟨e, he⟩ := readEffect_of_ne_conditional (show PolicyKind.deny ≠ .conditional by decide) x.effect
    have hk : PolicyKind.ofName? x.kind = some .deny := by rw [h.kind, PolicyKind.ofName?]
    refine ⟨x.assemble .deny cs e, (denial?_eq_some_iff mode r).2 ⟨h.tenant, h.enabled, ?_, ?_⟩⟩
    · exact compile_eq_ok_iff.2 ⟨.deny, cs, e, hk, hcs, he, rfl⟩
    · exact (denies_iff mode r).2 ⟨happ, hmatch, rfl⟩

theorem denial?_fields {x : PolicyRecord} {p : Policy} (h : x.denial? mode r = some p) :
    p.name = x.name ∧ p.priority = x.priority ∧ p.createdAt = x.createdAt := by
  obtain ⟨-, -, hc, -⟩ := (denial?_eq_some_iff mode r).1 h
  obtain ⟨kind, cs, e, -, -, -, rfl⟩ := compile_eq_ok_iff.1 hc
  exact ⟨rfl, rfl, rfl⟩

theorem mayPrecede_denials {x y : PolicyRecord} {p q : Policy} (hx : x.denial? mode r = some p)
    (hy : y.denial? mode r = some q) : Policy.mayPrecede p q = false ↔ y.Outranks x := by
  obtain ⟨-, hpx, htx⟩ := denial?_fields mode r hx
  obtain ⟨-, hpy, hty⟩ := denial?_fields mode r hy
  rw [← Bool.not_eq_true, Policy.mayPrecede_iff, Outranks, hpx, hpy, htx, hty, ← Std.OrientedCmp.gt_iff_lt,
    ← Ordering.isLE_eq_false]
  by_cases heq : x.priority = y.priority
  · simp [heq]
  · have hne : x.priority < y.priority ∨ y.priority < x.priority := Int64.lt_or_lt_of_ne heq
    have hasymm : x.priority < y.priority → ¬ y.priority < x.priority := Int64.lt_asymm
    simp only [heq, Ne.symm heq, false_and, or_false]
    constructor
    · exact hne.resolve_right
    · exact hasymm

theorem filter_denies_policies (rs : List PolicyRecord) :
    (Compiled.ofRecords ((Store.ofRecords rs).enabled r.tenant)).policies.filter (Policy.denies mode r) =
      (rs.filterMap (denial? mode r)).mergeSort Policy.mayPrecede := by
  have hrs : ((Compiled.results ((Store.ofRecords rs).enabled r.tenant)).filterMap Except.toOption).filter
      (Policy.denies mode r) = rs.filterMap (denial? mode r) := by
    rw [Compiled.results, Store.enabled, Store.records_ofRecords, List.filter_filterMap, List.filterMap_map,
      List.filterMap_filter, List.filterMap_filter, List.filterMap_filter]
    congr 1
    funext x
    cases ht : x.tenant == r.tenant <;> cases he : x.enabled <;> simp [denial?, ht, he]
  rw [← hrs]
  exact Sorting.filter_mergeSort Policy.mayPrecede_trans Policy.mayPrecede_total _ _

/-- The first of the records that deny a request, by priority, age and place. -/
def FirstDenial (rs : List PolicyRecord) (x : PolicyRecord) : Prop :=
  ∃ before after, rs = before ++ x :: after ∧ x.Forbids mode r ∧
    (∀ y ∈ before, y.Forbids mode r → x.Outranks y) ∧
    ∀ y ∈ after, y.Forbids mode r → ¬ y.Outranks x

theorem head?_denials_iff (rs : List PolicyRecord) (name : String) :
    (∃ p, ((rs.filterMap (denial? mode r)).mergeSort Policy.mayPrecede).head? = some p ∧ p.name = name) ↔
      ∃ x, FirstDenial mode r rs x ∧ x.name = name := by
  constructor
  -- the place of the first policy among those that deny is the place of its record among the records
  · rintro ⟨p, hp, rfl⟩
    obtain ⟨ps, qs, hrs, hps, hqs⟩ :=
      (Sorting.head?_mergeSort_eq_some_iff Policy.mayPrecede_trans Policy.mayPrecede_total).1 hp
    obtain ⟨front, rest, rfl, rfl, hrest⟩ := List.filterMap_eq_append_iff.1 hrs
    obtain ⟨gap, x, after, rfl, hgap, hx, rfl⟩ := List.filterMap_eq_cons_iff.1 hrest
    refine ⟨x, ⟨front ++ gap, after, by simp, (exists_denial?_iff mode r).1 ⟨p, hx⟩, ?_, ?_⟩,
      (denial?_fields mode r hx).1.symm⟩
    · intro y hy hforbids
      obtain ⟨q, hq⟩ := (exists_denial?_iff mode r).2 hforbids
      rcases List.mem_append.1 hy with hy | hy
      · exact (mayPrecede_denials mode r hq hx).1 (hps q (List.mem_filterMap.2 ⟨y, hy, hq⟩))
      · exact absurd hq (by simp [hgap y hy])
    · intro y hy hforbids houtranks
      obtain ⟨q, hq⟩ := (exists_denial?_iff mode r).2 hforbids
      have hfalse := (mayPrecede_denials mode r hx hq).2 houtranks
      have htrue := hqs q (List.mem_filterMap.2 ⟨y, hy, hq⟩)
      exact Bool.false_ne_true (hfalse.symm.trans htrue)
  · rintro ⟨x, ⟨before, after, rfl, hforbids, hbefore, hafter⟩, rfl⟩
    obtain ⟨p, hx⟩ := (exists_denial?_iff mode r).2 hforbids
    refine ⟨p, ?_, (denial?_fields mode r hx).1⟩
    rw [List.filterMap_append, List.filterMap_cons_some hx]
    refine Sorting.head?_mergeSort_of_first Policy.mayPrecede_trans Policy.mayPrecede_total ?_ ?_
    · intro q hq
      obtain ⟨y, hy, hyq⟩ := List.mem_filterMap.1 hq
      exact (mayPrecede_denials mode r hyq hx).2 (hbefore y hy ((exists_denial?_iff mode r).1 ⟨q, hyq⟩))
    · intro q hq
      obtain ⟨y, hy, hyq⟩ := List.mem_filterMap.1 hq
      have hnot := hafter y hy ((exists_denial?_iff mode r).1 ⟨q, hyq⟩)
      rw [← mayPrecede_denials mode r hx hyq] at hnot
      exact eq_true_of_ne_false hnot

theorem exists_firstDenial_iff (rs : List PolicyRecord) :
    (∃ x, FirstDenial mode r rs x) ↔ ∃ x ∈ rs, x.Forbids mode r := by
  constructor
  · rintro ⟨x, before, after, rfl, hforbids, -⟩
    exact ⟨x, by simp, hforbids⟩
  · rintro ⟨x, hx, hforbids⟩
    obtain ⟨p, hp⟩ := (exists_denial?_iff mode r).2 hforbids
    have hmem : p ∈ (rs.filterMap (denial? mode r)).mergeSort Policy.mayPrecede :=
      List.mem_mergeSort.2 (List.mem_filterMap.2 ⟨x, hx, hp⟩)
    obtain ⟨q, hq⟩ := Option.isSome_iff_exists.1 (List.isSome_head?.2 (List.ne_nil_of_mem hmem))
    obtain ⟨y, hy, -⟩ := (head?_denials_iff mode r rs q.name).1 ⟨q, hq, rfl⟩
    exact ⟨y, hy⟩

end PolicyRecord

namespace Engine

theorem evaluate_denied_iff [ZoneDatabase] (e : Engine) (now : Nat) (took : Span) (rs : List PolicyRecord) (r : Request)
    (h : e.cache.lookup now r.tenant = none) :
    let result := (e.evaluate now took (.records ((Store.ofRecords rs).enabled r.tenant)) r).1.result
    (∃ d, result = .ok d) ∧
    ((∃ name, result = .ok (.deniedBy name)) ↔ ∃ x ∈ rs, x.Forbids e.mode r) ∧
    ∀ name, result = .ok (.deniedBy name) ↔ ∃ x, PolicyRecord.FirstDenial e.mode r rs x ∧ x.name = name := by
  intro result
  have hresult : result = .ok (Policy.decideInScope e.mode
      (Compiled.ofRecords ((Store.ofRecords rs).enabled r.tenant)).policies r) :=
    congrArg Evaluation.result (e.evaluate_of_miss now took r h _).1
  have hname : ∀ name, result = .ok (.deniedBy name) ↔
      ∃ x, PolicyRecord.FirstDenial e.mode r rs x ∧ x.name = name := by
    intro name
    rw [hresult, Except.ok.injEq, Policy.decideInScope_eq_deniedBy_iff, PolicyRecord.filter_denies_policies,
      PolicyRecord.head?_denials_iff]
  refine ⟨⟨_, hresult⟩, ?_, hname⟩
  rw [← PolicyRecord.exists_firstDenial_iff]
  constructor
  · rintro ⟨name, hdenied⟩
    obtain ⟨x, hx, -⟩ := (hname name).1 hdenied
    exact ⟨x, hx⟩
  · rintro ⟨x, hx⟩
    exact ⟨x.name, (hname x.name).2 ⟨x, hx, rfl⟩⟩

open ZoneTable in
theorem evaluate_denied_despite_allow :
    let e := Engine.ofSettings .standard false
    let allow : PolicyRecord := { PolicyRecord.blank with name := "admins", kind := "allow", priority := 9 }
    let deny : PolicyRecord := { PolicyRecord.blank with name := "freeze", kind := "deny", effect := "gone" }
    let rs := [allow, { deny with enabled := false }, { deny with conditions := "gone" }, deny]
    e.cache.lookup 0 0 = none ∧
      (e.evaluate 0 ⟨0⟩ (.records ((Store.ofRecords rs).enabled 0)) .blank).1.result = .ok (.deniedBy "freeze") := by
  intro e allow deny rs
  have hmiss : e.cache.lookup 0 0 = none := rfl
  have hgone : (Condition.decodeAll "gone").toOption = none := rfl
  have hforbids : deny.Forbids .stub .blank := ⟨rfl, rfl, rfl, [], rfl, rfl, rfl⟩
  refine ⟨hmiss, (e.evaluate_denied_iff 0 ⟨0⟩ rs .blank hmiss).2.2 "freeze" |>.2 ⟨deny, ?_, rfl⟩⟩
  refine ⟨[allow, { deny with enabled := false }, { deny with conditions := "gone" }], [], rfl, hforbids, ?_, by simp⟩
  intro y hy hy'
  simp only [List.mem_cons, List.not_mem_nil, or_false] at hy
  rcases hy with rfl | rfl | rfl
  · exact absurd hy'.kind (by decide)
  · exact absurd hy'.enabled (by decide)
  · obtain ⟨cs, hcs, -⟩ := hy'.applies
    have hcs : Condition.decodeAll "gone" = .ok cs := hcs
    rw [hcs] at hgone
    contradiction

end Engine

end AccessPolicy
