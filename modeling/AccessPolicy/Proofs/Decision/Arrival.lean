import AccessPolicy.Proofs.Decision.Settlement
import AccessPolicy.Proofs.Policy.Ordering
import AccessPolicy.Time.ZoneTable

namespace AccessPolicy

theorem eq_of_perm_of_tied {α : Type} {as bs : List α} (h : as.Perm bs) (htied : 1 < as.length → as = bs) :
    as = bs := by
  cases as with
  | nil => exact h.nil_eq
  | cons a as =>
    cases as with
    | nil => exact List.singleton_perm.1 h
    | cons b as => exact htied (by simp)

namespace Policy

variable [ZoneDatabase] {t : Instant} {ps qs : List Policy}

omit [ZoneDatabase] in
theorem find?_deny_eq_none_of_perm (h : ps.Perm qs) (hnone : ps.find? (·.kind == .deny) = none) :
    qs.find? (·.kind == .deny) = none :=
  List.find?_eq_none.2 fun p hp => List.find?_eq_none.1 hnone p (h.mem_iff.2 hp)

theorem exists_deniedBy_of_perm (h : ps.Perm qs) (hdenied : ∃ name, settle t ps = .deniedBy name) :
    ∃ name, settle t qs = .deniedBy name := by
  obtain ⟨p, hp⟩ := exists_settle_eq_deniedBy_iff.1 hdenied
  cases hq : qs.find? (·.kind == .deny) with
  | some q => exact ⟨q.name, settle_of_deny hq⟩
  | none =>
    have hnone := find?_deny_eq_none_of_perm h.symm hq
    exact absurd (hp.symm.trans hnone) (by simp)

theorem triggered_perm (h : ps.Perm qs) : (settle t ps).triggered.Perm (settle t qs).triggered := by
  cases hp : ps.find? (·.kind == .deny) with
  | none =>
    rw [triggered_settle hp, triggered_settle (find?_deny_eq_none_of_perm h hp)]
    exact h.map _
  | some p =>
    obtain ⟨name, hname⟩ := exists_deniedBy_of_perm (t := t) h ⟨p.name, settle_of_deny hp⟩
    rw [settle_of_deny hp, hname]
    exact .nil

end Policy

namespace PolicyRecord

variable [ZoneDatabase] (mode : PatternMode) (r : Request)

/-- The records in force that no order of evaluation is laid down for. -/
def peers (priority : Int64) (createdAt : Instant) (rs : List PolicyRecord) : List PolicyRecord :=
  rs.filter fun x => (x.inForce? mode r).isSome && (x.priority == priority && x.createdAt == createdAt)

variable {mode r}

theorem ties_eq_of_inForce? {x : PolicyRecord} {p q : Policy} (hq : x.inForce? mode r = some q) :
    Sorting.ties Policy.mayPrecede p q = (x.priority == p.priority && x.createdAt == p.createdAt) := by
  obtain ⟨-, -, hpriority, hcreated⟩ := inForce?_parts hq
  rw [Bool.eq_iff_iff, Policy.ties_mayPrecede_iff, Bool.and_eq_true, beq_iff_eq, beq_iff_eq, ← hpriority, ← hcreated]
  exact ⟨fun h => ⟨h.1.symm, h.2.symm⟩, fun h => ⟨h.1.symm, h.2.symm⟩⟩

theorem filter_ties_inForce? (rs : List PolicyRecord) (p : Policy) :
    (rs.filterMap (inForce? mode r)).filter (Sorting.ties Policy.mayPrecede p) =
      (peers mode r p.priority p.createdAt rs).filterMap (inForce? mode r) := by
  rw [peers, List.filter_filterMap, List.filterMap_filter]
  congr 1
  funext x
  cases hx : x.inForce? mode r with
  | none => rfl
  | some q =>
    rw [Option.filter_some, ties_eq_of_inForce? hx]
    rfl

end PolicyRecord

namespace Decision

open Policy PolicyRecord

section Permutations

variable [ZoneDatabase] (mode : PatternMode) (r : Request) {rs rs' : List PolicyRecord}

theorem ofRecords_eq_of_peers_eq (h : ∀ priority createdAt,
    peers mode r priority createdAt rs = peers mode r priority createdAt rs') :
    ofRecords mode rs r = ofRecords mode rs' r := by
  rw [ofRecords_eq_settle, ofRecords_eq_settle]
  congr 1
  refine Sorting.mergeSort_eq_of_filter_ties_eq mayPrecede_trans mayPrecede_total fun p => ?_
  rw [filter_ties_inForce?, filter_ties_inForce?, h]

theorem ofRecords_perm (h : rs.Perm rs') :
    ((∃ name, ofRecords mode rs r = .deniedBy name) ↔ ∃ name, ofRecords mode rs' r = .deniedBy name) ∧
    (ofRecords mode rs r).triggered.Perm (ofRecords mode rs' r).triggered ∧
    ((∀ priority createdAt, 1 < (peers mode r priority createdAt rs).length →
        peers mode r priority createdAt rs = peers mode r priority createdAt rs') →
      ofRecords mode rs r = ofRecords mode rs' r) := by
  have hperm : ((rs.filterMap (inForce? mode r)).mergeSort mayPrecede).Perm
      ((rs'.filterMap (inForce? mode r)).mergeSort mayPrecede) :=
    (List.mergeSort_perm ..).trans ((h.filterMap _).trans (List.mergeSort_perm ..).symm)
  refine ⟨?_, ?_, fun htied => ofRecords_eq_of_peers_eq mode r fun priority createdAt => ?_⟩
  · rw [ofRecords_eq_settle, ofRecords_eq_settle]
    exact ⟨exists_deniedBy_of_perm hperm, exists_deniedBy_of_perm hperm.symm⟩
  · rw [ofRecords_eq_settle, ofRecords_eq_settle]
    exact triggered_perm hperm
  · exact eq_of_perm_of_tied (h.filter _) (htied priority createdAt)

end Permutations

open ZoneTable in
theorem ofRecords_perm_of_late_urgent :
    let staff : PolicyRecord := { PolicyRecord.blank with name := "staff", kind := "allow" }
    let guests : PolicyRecord := { staff with name := "guests" }
    let urgent : PolicyRecord := { staff with name := "urgent", priority := 9 }
    [urgent, staff, guests].Perm [staff, guests, urgent] ∧
      (∀ priority createdAt, 1 < (peers .stub .blank priority createdAt [urgent, staff, guests]).length →
        peers .stub .blank priority createdAt [urgent, staff, guests] =
          peers .stub .blank priority createdAt [staff, guests, urgent]) ∧
      ofRecords .stub [urgent, staff, guests] .blank = ofRecords .stub [staff, guests, urgent] .blank := by
  intro staff guests urgent
  have hperm : [urgent, staff, guests].Perm [staff, guests, urgent] := by decide +kernel
  have htied : ∀ priority createdAt, 1 < (peers .stub .blank priority createdAt [urgent, staff, guests]).length →
      peers .stub .blank priority createdAt [urgent, staff, guests] =
        peers .stub .blank priority createdAt [staff, guests, urgent] := by
    intro priority createdAt _
    have hurgent : urgent.priority = 9 := rfl
    have hstaff : staff.priority = 0 := rfl
    have hguests : guests.priority = 0 := rfl
    by_cases h : (9 : Int64) = priority
    · subst h
      simp [peers, hstaff, hguests, List.filter_cons]
    · simp [peers, hurgent, h, List.filter_cons]
  exact ⟨hperm, htied, (ofRecords_perm .stub .blank hperm).2.2 htied⟩

open ZoneTable in
theorem allow_depends_on_arrival :
    let night : PolicyRecord := { PolicyRecord.blank with
      name := "night", kind := "conditional", effect := "[false,\"\",null,null,[\"22:00\",\"06:00\"]]" }
    let staff : PolicyRecord := { PolicyRecord.blank with name := "staff", kind := "allow" }
    let noon : Request := { Request.blank with time := ⟨⟨43200, 0⟩, 0⟩ }
    [night, staff].Perm [staff, night] ∧
      (ofRecords .stub [night, staff] noon).allow = true ∧ (ofRecords .stub [staff, night] noon).allow = false := by
  intro night staff noon
  refine ⟨by decide +kernel, ?_, ?_⟩
  · rw [ofRecords_of_pairwise (by decide +kernel)]
    decide +kernel
  · rw [ofRecords_of_pairwise (by decide +kernel)]
    decide +kernel

end Decision

end AccessPolicy
