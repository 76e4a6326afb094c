import AccessPolicy.Proofs.Decision.Settlement
import AccessPolicy.Time.ZoneTable

namespace AccessPolicy

theorem Effect.excludes_of_no_window [ZoneDatabase] {e : Effect} (h : e.window = none) (t : Instant) :
    e.excludes t = false := by
  rw [excludes, h]
  rfl

namespace Policy

variable [ZoneDatabase] {t : Instant} {before after : List Policy} {p : Policy}

theorem settle_insert_deny (hp : p.kind = .deny) :
    settle t (before ++ p :: after) = settle t (before ++ after) ∨
      settle t (before ++ p :: after) = .deniedBy p.name := by
  cases hb : before.find? (·.kind == .deny) with
  | some q =>
    have hwith : (before ++ p :: after).find? (·.kind == .deny) = some q := by simp [List.find?_append, hb]
    have hwithout : (before ++ after).find? (·.kind == .deny) = some q := by simp [List.find?_append, hb]
    exact .inl ((settle_of_deny hwith).trans (settle_of_deny hwithout).symm)
  | none =>
    have hwith : (before ++ p :: after).find? (·.kind == .deny) = some p := by simp [List.find?_append, hb, hp]
    exact .inr (settle_of_deny hwith)

omit [ZoneDatabase] in
theorem find?_deny_insert (hp : p.kind ≠ .deny) :
    (before ++ p :: after).find? (·.kind == .deny) = (before ++ after).find? (·.kind == .deny) := by
  simp [List.find?_append, hp]

theorem settle_insert_of_denied (hp : p.kind ≠ .deny) {name : String}
    (h : settle t (before ++ after) = .deniedBy name) :
    settle t (before ++ p :: after) = settle t (before ++ after) := by
  obtain ⟨q, hq⟩ := exists_settle_eq_deniedBy_iff.1 ⟨name, h⟩
  rw [settle_of_deny hq, settle_of_deny ((find?_deny_insert hp).trans hq)]

theorem verdict_settle_insert (hp : p.kind ≠ .deny) (hv : p.verdict? t = none) :
    ((settle t (before ++ p :: after)).allow, (settle t (before ++ p :: after)).reason) =
      ((settle t (before ++ after)).allow, (settle t (before ++ after)).reason) := by
  cases h : (before ++ after).find? (·.kind == .deny) with
  | some q => rw [settle_of_deny h, settle_of_deny ((find?_deny_insert hp).trans h)]
  | none =>
    rw [verdict_settle h, verdict_settle ((find?_deny_insert hp).trans h), lastOf_append, lastOf_append, lastOf_cons,
      hv, Option.or_none]

theorem allow_settle_insert (hp : p.kind = .allow) (h : (settle t (before ++ after)).allow = true) :
    (settle t (before ++ p :: after)).allow = true := by
  have hne : p.kind ≠ .deny := by simp [hp]
  cases hd : (before ++ after).find? (·.kind == .deny) with
  | some q =>
    rw [settle_of_deny hd] at h
    contradiction
  | none =>
    have hwithout := congrArg Prod.fst (verdict_settle (t := t) hd)
    have hwith := congrArg Prod.fst (verdict_settle (t := t) ((find?_deny_insert (p := p) hne).trans hd))
    have hverdict : p.verdict? t = some (true, "Allowed by policy: " ++ p.name) := by simp [verdict?, hp]
    rw [lastOf_append] at hwithout
    rw [lastOf_append, lastOf_cons, hverdict] at hwith
    -- what is said after the allowance stands as before, and what is said before it no longer counts
    cases hl : lastOf (verdict? t) after with
    | some v =>
      rw [hl] at hwithout hwith
      exact hwith.trans (hwithout.symm.trans h)
    | none =>
      rw [hl] at hwith
      exact hwith

end Policy

namespace Decision

section Records

variable [ZoneDatabase] (mode : PatternMode) (r : Request) (before after : List PolicyRecord) (x : PolicyRecord)

theorem ofRecords_insert_of_not_inForce (h : x.inForce? mode r = none) :
    ofRecords mode (before ++ x :: after) r = ofRecords mode (before ++ after) r := by
  rw [ofRecords_eq_settle, ofRecords_eq_settle, List.filterMap_append, List.filterMap_append,
    List.filterMap_cons_none h]

theorem exists_settle_insert {p : Policy} (h : x.inForce? mode r = some p) : ∃ ps qs,
    ofRecords mode (before ++ after) r = Policy.settle r.time.instant (ps ++ qs) ∧
      ofRecords mode (before ++ x :: after) r = Policy.settle r.time.instant (ps ++ p :: qs) := by
  obtain ⟨ps, qs, hwithout, hwith⟩ :=
    Sorting.exists_mergeSort_append_cons Policy.mayPrecede_trans Policy.mayPrecede_total p
      (before.filterMap (PolicyRecord.inForce? mode r)) (after.filterMap (PolicyRecord.inForce? mode r))
  refine ⟨ps, qs, ?_, ?_⟩
  · rw [ofRecords_eq_settle, List.filterMap_append, hwithout]
  · rw [ofRecords_eq_settle, List.filterMap_append, List.filterMap_cons_some h, hwith]

theorem ofRecords_insert_deny (h : x.kind = "deny") :
    ofRecords mode (before ++ x :: after) r = ofRecords mode (before ++ after) r ∨
      ofRecords mode (before ++ x :: after) r = .deniedBy x.name := by
  cases hx : x.inForce? mode r with
  | none => exact .inl (ofRecords_insert_of_not_inForce mode r before after x hx)
  | some p =>
    obtain ⟨hname, hkind, -, -⟩ := PolicyRecord.inForce?_parts hx
    obtain ⟨ps, qs, hwithout, hwith⟩ := exists_settle_insert mode r before after x hx
    have hp : p.kind = .deny := PolicyKind.name_inj (hkind.trans h)
    rw [hwithout, hwith, ← hname]
    exact Policy.settle_insert_deny hp

theorem ofRecords_insert_allow (h : x.kind = "allow") :
    ((ofRecords mode (before ++ after) r).allow = true → (ofRecords mode (before ++ x :: after) r).allow = true) ∧
      ∀ name, ofRecords mode (before ++ after) r = .deniedBy name →
        ofRecords mode (before ++ x :: after) r = ofRecords mode (before ++ after) r := by
  cases hx : x.inForce? mode r with
  | none =>
    rw [ofRecords_insert_of_not_inForce mode r before after x hx]
    exact ⟨id, fun _ _ => rfl⟩
  | some p =>
    obtain ⟨-, hkind, -, -⟩ := PolicyRecord.inForce?_parts hx
    obtain ⟨ps, qs, hwithout, hwith⟩ := exists_settle_insert mode r before after x hx
    have hp : p.kind = .allow := PolicyKind.name_inj (hkind.trans h)
    rw [hwithout, hwith]
    exact ⟨Policy.allow_settle_insert hp, fun name => Policy.settle_insert_of_denied (by simp [hp])⟩

theorem ofRecords_insert_conditional (h : x.kind = "conditional")
    (hwindow : ∀ e, Effect.decode x.effect = .ok e → e.window = none) :
    ((ofRecords mode (before ++ x :: after) r).allow, (ofRecords mode (before ++ x :: after) r).reason) =
      ((ofRecords mode (before ++ after) r).allow, (ofRecords mode (before ++ after) r).reason) := by
  cases hx : x.inForce? mode r with
  | none => rw [ofRecords_insert_of_not_inForce mode r before after x hx]
  | some p =>
    obtain ⟨-, hkind, -, -⟩ := PolicyRecord.inForce?_parts hx
    obtain ⟨ps, qs, hwithout, hwith⟩ := exists_settle_insert mode r before after x hx
    have hp : p.kind = .conditional := PolicyKind.name_inj (hkind.trans h)
    have hopen := Effect.excludes_of_no_window (hwindow p.effect (PolicyRecord.effect_of_inForce? hx hp)) r.time.instant
    have hverdict : p.verdict? r.time.instant = none := by simp [Policy.verdict?, hp, hopen]
    rw [hwithout, hwith]
    exact Policy.verdict_settle_insert (by simp [hp]) hverdict

theorem ofRecords_insert (mode : PatternMode) (r : Request) (before after : List PolicyRecord) (x : PolicyRecord) :
    let d := ofRecords mode (before ++ after) r
    let d' := ofRecords mode (before ++ x :: after) r
    (x.kind = "deny" → (d' = d ∨ d' = .deniedBy x.name) ∧ (d.allow = false → d'.allow = false)) ∧
    (x.kind = "allow" → (d.allow = true → d'.allow = true) ∧ ∀ name, d = .deniedBy name → d' = d) ∧
    (x.kind = "conditional" → (∀ e, Effect.decode x.effect = .ok e → e.window = none) →
      d'.allow = d.allow ∧ d'.reason = d.reason) ∧
    (x.enabled = false ∨ (∃ f, x.compile = .error f) → d' = d) := by
  intro d d'
  refine ⟨fun hk => ?_, ofRecords_insert_allow mode r before after x, fun hk hwindow => ?_, fun hx => ?_⟩
  · have hd := ofRecords_insert_deny mode r before after x hk
    refine ⟨hd, fun hdenied => ?_⟩
    rcases hd with hd | hd
    · exact (congrArg allow hd).trans hdenied
    · exact congrArg allow hd
  · exact Prod.mk.inj (ofRecords_insert_conditional mode r before after x hk hwindow)
  · refine ofRecords_insert_of_not_inForce mode r before after x ?_
    rcases hx with hoff | ⟨f, hf⟩
    · exact PolicyRecord.inForce?_of_disabled hoff
    · exact PolicyRecord.inForce?_of_error hf

end Records

open ZoneTable in
theorem ofRecords_insert_of_each_kind :
    let staff : PolicyRecord := { PolicyRecord.blank with name := "staff", kind := "allow" }
    let freeze : PolicyRecord := { PolicyRecord.blank with name := "freeze", kind := "deny", priority := -9 }
    let meter : PolicyRecord := { PolicyRecord.blank with name := "meter", kind := "conditional" }
    let d := ofRecords .stub [staff] .blank
    d.allow = true ∧
      (freeze.kind = "deny" ∧ ofRecords .stub [staff, freeze] .blank = .deniedBy "freeze") ∧
      (staff.kind = "allow" ∧ ofRecords .stub [staff, freeze] .blank = ofRecords .stub [freeze] .blank) ∧
      (meter.kind = "conditional" ∧ (∀ e, Effect.decode meter.effect = .ok e → e.window = none) ∧
        (ofRecords .stub [staff, meter] .blank).reason = d.reason) ∧
      ofRecords .stub [staff, { freeze with enabled := false }] .blank = d := by
  intro staff freeze meter d
  have hallow : d.allow = true := by
    have hd : d = _ := ofRecords_of_pairwise (by decide)
    rw [hd]
    rfl
  have hdenied : ofRecords .stub [freeze] .blank = .deniedBy "freeze" := by
    rw [ofRecords_of_pairwise (by decide)]
    rfl
  have hopen : ∀ e, Effect.decode meter.effect = .ok e → e.window = none := by
    intro e he
    rw [← Except.ok.inj he]
    rfl
  have hfreeze := ((ofRecords_insert .stub .blank [staff] [] freeze).1 rfl).1
  have hstaff := ((ofRecords_insert .stub .blank [] [freeze] staff).2.1 rfl).2 "freeze" hdenied
  have hmeter := (ofRecords_insert .stub .blank [staff] [] meter).2.2.1 rfl hopen
  have hoff := (ofRecords_insert .stub .blank [staff] [] { freeze with enabled := false }).2.2.2 (.inl rfl)
  refine ⟨hallow, ⟨rfl, hfreeze.resolve_left fun h => ?_⟩, ⟨rfl, hstaff⟩, ⟨rfl, hopen, hmeter.2⟩, hoff⟩
  have hstill : (ofRecords .stub [staff, freeze] .blank).allow = true := (congrArg allow h).trans hallow
  rw [ofRecords_of_pairwise (by decide)] at hstill
  contradiction

end Decision

end AccessPolicy
