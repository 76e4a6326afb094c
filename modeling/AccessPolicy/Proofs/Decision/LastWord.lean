import AccessPolicy.Policy.Decide
import AccessPolicy.Proofs.Decision.Surfacing

namespace AccessPolicy

namespace Policy

variable (mode : PatternMode) (r : Request)

def matching (ps : List Policy) : List Policy := ps.filter (·.isMatchedBy mode r)

section Matching

variable {mode r} {p : Policy} (ps : List Policy)

theorem matching_cons_of_matched (h : p.isMatchedBy mode r = true) :
    matching mode r (p :: ps) = p :: matching mode r ps := List.filter_cons_of_pos h

theorem matching_cons_of_not_matched (h : p.isMatchedBy mode r = false) :
    matching mode r (p :: ps) = matching mode r ps := List.filter_cons_of_neg (by simp [h])

end Matching

variable [ZoneDatabase]

def verdict? (t : Instant) (p : Policy) : Option (Bool × String) :=
  match p.kind with
  | .deny => none
  | .allow => some (true, "Allowed by policy: " ++ p.name)
  | .conditional => if p.effect.excludes t then some (false, "Outside allowed time window") else none

def hints? (t : Instant) (p : Policy) : Option Effect :=
  match p.kind with
  | .conditional => p.effect.surfaced? t
  | _ => none

def amend (t : Instant) (d : Decision) (p : Policy) : Decision :=
  let d := match p.kind with
    | .deny => d
    | .allow => { d with allow := true, reason := "Allowed by policy: " ++ p.name }
    | .conditional => d.apply p.effect t
  { d with triggered := d.triggered ++ [p.name] }

section Step

variable {mode r} {p : Policy} (ps : List Policy) (d : Decision)

theorem decideFrom_cons_of_not_matched (h : p.isMatchedBy mode r = false) :
    decideFrom mode r d (p :: ps) = decideFrom mode r d ps := by
  simp [decideFrom, h]

theorem decideFrom_cons_of_deny (h : p.isMatchedBy mode r = true) (hk : p.kind = .deny) :
    decideFrom mode r d (p :: ps) = .deniedBy p.name := by
  simp [decideFrom, h, hk]

theorem decideFrom_cons_of_ne_deny (h : p.isMatchedBy mode r = true) (hk : p.kind ≠ .deny) :
    decideFrom mode r d (p :: ps) = decideFrom mode r (amend r.time.instant d p) ps := by
  cases hp : p.kind with
  | deny => exact absurd hp hk
  | allow => simp [decideFrom, h, hp, amend]
  | conditional => simp [decideFrom, h, hp, amend]

end Step

theorem decideFrom_of_deny {ps : List Policy} {p : Policy}
    (h : (matching mode r ps).find? (·.kind == .deny) = some p) (d : Decision) :
    decideFrom mode r d ps = .deniedBy p.name := by
  induction ps generalizing d with
  | nil => simp [matching] at h
  | cons q ps ih =>
    cases hq : q.isMatchedBy mode r with
    | false =>
      rw [matching_cons_of_not_matched ps hq] at h
      rw [decideFrom_cons_of_not_matched ps d hq, ih h]
    | true =>
      rw [matching_cons_of_matched ps hq] at h
      by_cases hk : q.kind = .deny
      · rw [List.find?_cons_of_pos (by simp [hk])] at h
        rw [decideFrom_cons_of_deny ps d hq hk, Option.some.inj h]
      · rw [List.find?_cons_of_neg (by simp [hk])] at h
        rw [decideFrom_cons_of_ne_deny ps d hq hk, ih h]

theorem decideFrom_of_no_deny {ps : List Policy}
    (h : (matching mode r ps).find? (·.kind == .deny) = none) (d : Decision) :
    decideFrom mode r d ps = (matching mode r ps).foldl (amend r.time.instant) d := by
  induction ps generalizing d with
  | nil => rfl
  | cons q ps ih =>
    cases hq : q.isMatchedBy mode r with
    | false =>
      rw [matching_cons_of_not_matched ps hq] at h ⊢
      rw [decideFrom_cons_of_not_matched ps d hq, ih h]
    | true =>
      rw [matching_cons_of_matched ps hq] at h ⊢
      by_cases hk : q.kind = .deny
      · rw [List.find?_cons_of_pos (by simp [hk])] at h
        contradiction
      · rw [List.find?_cons_of_neg (by simp [hk])] at h
        rw [decideFrom_cons_of_ne_deny ps d hq hk, ih h, List.foldl_cons]

section Amend

variable (t : Instant) (d : Decision) (p : Policy)

theorem triggered_amend : (amend t d p).triggered = d.triggered ++ [p.name] := by
  cases hk : p.kind with
  | deny => simp [amend, hk]
  | allow => simp [amend, hk]
  | conditional => simp [amend, hk, Decision.triggered_apply]

theorem verdict_amend : some ((amend t d p).allow, (amend t d p).reason) =
    (p.verdict? t).or (some (d.allow, d.reason)) := by
  cases hk : p.kind with
  | deny => simp [amend, verdict?, hk]
  | allow => simp [amend, verdict?, hk]
  | conditional =>
    have h := Decision.verdict_apply d p.effect t
    cases he : p.effect.excludes t with
    | true => simpa [amend, verdict?, hk, he] using h
    | false => simpa [amend, verdict?, hk, he] using h

theorem hint_amend {β : Type} {part : Decision → Option β} {hint : Effect → Option β}
    (hkeep : ∀ (d : Decision) b s l, part { d with allow := b, reason := s, triggered := l } = part d)
    (happly : ∀ (d : Decision) e, part (d.apply e t) = ((e.surfaced? t).bind hint).or (part d)) :
    part (amend t d p) = ((p.hints? t).bind hint).or (part d) := by
  cases hk : p.kind with
  | deny => simp [amend, hints?, hk, hkeep d d.allow d.reason]
  | allow => simp [amend, hints?, hk, hkeep]
  | conditional =>
    have h := hkeep (d.apply p.effect t) (d.apply p.effect t).allow (d.apply p.effect t).reason
    simp [amend, hints?, hk, h, happly]

end Amend

section Amendments

variable (t : Instant) (ps : List Policy)

theorem triggered_amendments (d : Decision) : (ps.foldl (amend t) d).triggered = d.triggered ++ ps.map (·.name) := by
  induction ps generalizing d with
  | nil => simp
  | cons p ps ih =>
    rw [List.foldl_cons, ih, triggered_amend, List.map_cons, List.append_assoc, List.singleton_append]

theorem verdict_amendments :
    ((ps.foldl (amend t) .unopposed).allow, (ps.foldl (amend t) .unopposed).reason) =
      (lastOf (verdict? t) ps).getD (true, "No applicable policies found") := by
  have h := foldl_eq_lastOf (fun d : Decision => some (d.allow, d.reason)) (verdict_amend t) ps Decision.unopposed
  cases hl : lastOf (verdict? t) ps with
  | none =>
    rw [hl] at h
    exact Option.some.inj h
  | some v =>
    rw [hl] at h
    exact Option.some.inj h

theorem hint_amendments {β : Type} (part : Decision → Option β) {hint : Effect → Option β}
    (hkeep : ∀ (d : Decision) b s l, part { d with allow := b, reason := s, triggered := l } = part d)
    (happly : ∀ (d : Decision) e, part (d.apply e t) = ((e.surfaced? t).bind hint).or (part d))
    (hnone : part .unopposed = none) :
    part (ps.foldl (amend t) .unopposed) = lastOf (fun p => (p.hints? t).bind hint) ps := by
  rw [foldl_eq_lastOf part (fun d p => hint_amend t d p hkeep happly), hnone, Option.or_none]

end Amendments

theorem decide_closed_form (ps : List Policy) :
    let M := matching mode r ps
    let t := r.time.instant
    let d := decide mode ps r
    (∀ p, M.find? (·.kind == .deny) = some p →
      d = ⟨false, "Denied by policy: " ++ p.name, [], .empty, none, none, none⟩) ∧
    (M.find? (·.kind == .deny) = none →
      d.triggered = M.map (·.name) ∧
      (d.allow, d.reason) = (lastOf (verdict? t) M).getD (true, "No applicable policies found") ∧
      d.quota = lastOf (fun p => (p.hints? t).bind (·.quota)) M ∧
      d.rateLimit = lastOf (fun p => (p.hints? t).bind (·.rateLimit)) M ∧
      d.window = lastOf (fun p => (p.hints? t).bind (·.window)) M ∧
      ∀ key, d.metadata.get? key = lastOf (fun p => (p.hints? t).bind fun e => e.metadata.bind (·.get? key)) M) := by
  intro M t d
  refine ⟨fun p hp => decideFrom_of_deny mode r hp _, fun hn => ?_⟩
  have hd : d = M.foldl (amend t) .unopposed := decideFrom_of_no_deny mode r hn _
  rw [hd]
  refine ⟨?_, ?_, ?_, ?_, ?_, ?_⟩
  · exact triggered_amendments t M .unopposed
  · exact verdict_amendments t M
  · exact hint_amendments t M Decision.quota (fun _ _ _ _ => rfl) (Decision.quota_apply · · t) rfl
  · exact hint_amendments t M Decision.rateLimit (fun _ _ _ _ => rfl) (Decision.rateLimit_apply · · t) rfl
  · exact hint_amendments t M Decision.window (fun _ _ _ _ => rfl) (Decision.window_apply · · t) rfl
  · intro key
    have h (d : Decision) (e : Effect) := Decision.metadata_apply d e t key
    exact hint_amendments t M (fun d => d.metadata.get? key) (fun _ _ _ _ => rfl) h rfl

end Policy

end AccessPolicy
