import AccessPolicy.Proofs.Decision.Denial

namespace AccessPolicy

theorem lastOf_append {α β : Type} (f : α → Option β) (as bs : List α) :
    lastOf f (as ++ bs) = (lastOf f bs).or (lastOf f as) := by
  simp [lastOf, List.getLast?_append]

theorem lastOf_cons {α β : Type} (f : α → Option β) (a : α) (as : List α) :
    lastOf f (a :: as) = (lastOf f as).or (f a) := by
  rw [← List.singleton_append, lastOf_append]
  cases h : f a <;> simp [lastOf, h]

variable [ZoneDatabase]

namespace Policy

def settle (t : Instant) (ps : List Policy) : Decision :=
  match ps.find? (·.kind == .deny) with
  | some p => .deniedBy p.name
  | none => ps.foldl (amend t) .unopposed

section Settle

variable {t : Instant} {ps : List Policy}

theorem settle_of_deny {p : Policy} (h : ps.find? (·.kind == .deny) = some p) : settle t ps = .deniedBy p.name := by
  rw [settle, h]

theorem settle_of_no_deny (h : ps.find? (·.kind == .deny) = none) :
    settle t ps = ps.foldl (amend t) .unopposed := by
  rw [settle, h]

theorem verdict_settle (h : ps.find? (·.kind == .deny) = none) :
    ((settle t ps).allow, (settle t ps).reason) =
      (lastOf (verdict? t) ps).getD (true, "No applicable policies found") := by
  rw [settle_of_no_deny h]
  exact verdict_amendments t ps

theorem triggered_settle (h : ps.find? (·.kind == .deny) = none) : (settle t ps).triggered = ps.map (·.name) := by
  rw [settle_of_no_deny h]
  exact triggered_amendments t ps .unopposed

theorem exists_settle_eq_deniedBy_iff :
    (∃ name, settle t ps = .deniedBy name) ↔ ∃ p, ps.find? (·.kind == .deny) = some p := by
  constructor
  · rintro ⟨name, hname⟩
    cases hp : ps.find? (·.kind == .deny) with
    | some p => exact ⟨p, rfl⟩
    | none => exact absurd ((settle_of_no_deny hp).symm.trans hname) (foldl_amend_ne_deniedBy t ps name)
  · rintro ⟨p, hp⟩
    exact ⟨p.name, settle_of_deny hp⟩

end Settle

theorem decide_eq_settle (mode : PatternMode) (ps : List Policy) (r : Request) :
    decide mode ps r = settle r.time.instant (matching mode r ps) := by
  cases h : (matching mode r ps).find? (·.kind == .deny) with
  | some p => rw [settle_of_deny h, decide, decideFrom_of_deny mode r h]
  | none => rw [settle_of_no_deny h, decide, decideFrom_of_no_deny mode r h]

end Policy

namespace PolicyRecord

variable (mode : PatternMode) (r : Request)

def inForce? (x : PolicyRecord) : Option Policy :=
  if x.enabled then x.compile.toOption.filter fun p =>
    p.isMatchedBy mode r && p.isApplicable mode r.resource r.action
  else none

variable {mode r}

theorem inForce?_of_disabled {x : PolicyRecord} (h : x.enabled = false) : x.inForce? mode r = none := by
  simp [inForce?, h]

theorem inForce?_of_error {x : PolicyRecord} {f : Fault} (h : x.compile = .error f) : x.inForce? mode r = none := by
  simp [inForce?, h, Except.toOption]

theorem compile_of_inForce? {x : PolicyRecord} {p : Policy} (h : x.inForce? mode r = some p) : x.compile = .ok p := by
  unfold inForce? at h
  split at h
  · cases hc : x.compile with
    | error f => simp [hc, Except.toOption] at h
    | ok q =>
      rw [hc, Except.toOption, Option.filter_eq_some_iff] at h
      rw [Option.some.inj h.1]
  · contradiction

theorem inForce?_parts {x : PolicyRecord} {p : Policy} (h : x.inForce? mode r = some p) :
    p.name = x.name ∧ p.kind.name = x.kind ∧ p.priority = x.priority ∧ p.createdAt = x.createdAt := by
  obtain ⟨kind, cs, e, hk, -, -, rfl⟩ := compile_eq_ok_iff.1 (compile_of_inForce? h)
  exact ⟨rfl, PolicyKind.name_of_ofName? hk, rfl, rfl⟩

theorem effect_of_inForce? {x : PolicyRecord} {p : Policy} (h : x.inForce? mode r = some p)
    (hk : p.kind = .conditional) : Effect.decode x.effect = .ok p.effect := by
  obtain ⟨kind, cs, e, -, -, he, rfl⟩ := compile_eq_ok_iff.1 (compile_of_inForce? h)
  have hk : kind = .conditional := hk
  subst hk
  unfold readEffect at he
  cases hd : Effect.decode x.effect with
  | error f => simp [hd] at he
  | ok e' => simpa [hd, assemble] using he

end PolicyRecord

namespace Decision

def ofRecords (mode : PatternMode) (rs : List PolicyRecord) (r : Request) : Decision :=
  Policy.decideInScope mode (Compiled.ofRecords rs).policies r

theorem ofRecords_of_pairwise {mode : PatternMode} {rs : List PolicyRecord} {r : Request}
    (h : ((Compiled.results rs).filterMap Except.toOption).Pairwise fun p q => Policy.mayPrecede p q = true) :
    ofRecords mode rs r = Policy.decideInScope mode ((Compiled.results rs).filterMap Except.toOption) r := by
  rw [ofRecords, Compiled.policies_of_pairwise h]

open Policy PolicyRecord in
theorem ofRecords_eq_settle (mode : PatternMode) (rs : List PolicyRecord) (r : Request) :
    ofRecords mode rs r = settle r.time.instant ((rs.filterMap (inForce? mode r)).mergeSort mayPrecede) := by
  have hrs : ((Compiled.results rs).filterMap Except.toOption).filter
      (fun p => p.isMatchedBy mode r && p.isApplicable mode r.resource r.action) =
        rs.filterMap (inForce? mode r) := by
    rw [Compiled.results, List.filter_filterMap, List.filterMap_map, List.filterMap_filter]
    rfl
  rw [ofRecords, decideInScope, decide_eq_settle, matching, applicable, List.filter_filter, ← hrs,
    ← Sorting.filter_mergeSort mayPrecede_trans mayPrecede_total]
  rfl

end Decision

end AccessPolicy
