import AccessPolicy.Policy.Compile
import AccessPolicy.Proofs.Fallible
import AccessPolicy.Proofs.Sorting

namespace AccessPolicy

namespace Policy

def hasKey (priority : Int64) (createdAt : Instant) (p : Policy) : Bool :=
  p.priority == priority && p.createdAt == createdAt

/-- Whether policies, as they came, have been put in the order in which they are looked at: the same policies, by
falling priority and then by rising age, those of one priority and age as they came. -/
structure EvaluationOrder (ps qs : List Policy) : Prop where
  perm : qs.Perm ps
  ordered : qs.Pairwise fun p q => q.priority.toInt < p.priority.toInt ∨
    p.priority.toInt = q.priority.toInt ∧ p.createdAt.compare q.createdAt ≠ .gt
  stable : ∀ priority createdAt, qs.filter (hasKey priority createdAt) = ps.filter (hasKey priority createdAt)

theorem mayPrecede_iff_toInt (p q : Policy) : mayPrecede p q = true ↔ q.priority.toInt < p.priority.toInt ∨
    p.priority.toInt = q.priority.toInt ∧ p.createdAt.compare q.createdAt ≠ .gt := by
  rw [mayPrecede_iff, Int64.lt_iff_toInt_lt, ← Int64.toInt_inj, Ordering.isLE_iff_ne_gt]

theorem ties_mayPrecede_iff (p q : Policy) : Sorting.ties mayPrecede p q = true ↔
    p.priority = q.priority ∧ p.createdAt = q.createdAt := by
  rw [Sorting.ties, Bool.and_eq_true, mayPrecede_iff, mayPrecede_iff, ← Instant.compare_eq_iff_eq]
  constructor
  · rintro ⟨hpq | ⟨hpq, htpq⟩, hqp | ⟨hqp, htqp⟩⟩
    · exact absurd hqp (Int64.lt_asymm hpq)
    · exact absurd (hqp ▸ hpq) Int64.lt_irrefl
    · exact absurd (hpq ▸ hqp) Int64.lt_irrefl
    · exact ⟨hpq, Std.OrientedCmp.isLE_antisymm htpq htqp⟩
  · rintro ⟨hp, ht⟩
    have ht' := Std.OrientedCmp.eq_symm ht
    exact ⟨.inr ⟨hp, by rw [ht]; rfl⟩, .inr ⟨hp.symm, by rw [ht']; rfl⟩⟩

theorem ties_eq_hasKey (p : Policy) : Sorting.ties mayPrecede p = hasKey p.priority p.createdAt := by
  funext q
  rw [Bool.eq_iff_iff, ties_mayPrecede_iff, hasKey, Bool.and_eq_true, beq_iff_eq, beq_iff_eq]
  exact and_congr eq_comm eq_comm

theorem inOrder_evaluationOrder (ps : List Policy) : EvaluationOrder ps (inOrder ps) := by
  refine ⟨ps.mergeSort_perm mayPrecede, ?_, fun priority createdAt => ?_⟩
  · exact (List.pairwise_mergeSort mayPrecede_trans mayPrecede_total ps).imp fun h => (mayPrecede_iff_toInt _ _).1 h
  · have hkey := ties_eq_hasKey { (default : Policy) with priority := priority, createdAt := createdAt }
    exact hkey ▸ Sorting.filter_ties_mergeSort mayPrecede_trans mayPrecede_total _ ps

theorem EvaluationOrder.eq_inOrder {ps qs : List Policy} (h : EvaluationOrder ps qs) : qs = inOrder ps := by
  have hinOrder := inOrder_evaluationOrder ps
  have hsorted : ∀ {rs : List Policy}, EvaluationOrder ps rs → rs.Pairwise fun p q => mayPrecede p q = true :=
    fun hrs => hrs.ordered.imp fun h => (mayPrecede_iff_toInt _ _).2 h
  -- sorted lists are equal if they agree on the members that tie, and these are the ones of one key
  refine Sorting.eq_of_pairwise_of_filter_ties_eq mayPrecede_total (hsorted h) (hsorted hinOrder) fun p => ?_
  rw [ties_eq_hasKey, h.stable, hinOrder.stable]

theorem eq_inOrder_iff {ps qs : List Policy} : inOrder ps = qs ↔ EvaluationOrder ps qs := by
  constructor
  · rintro rfl
    exact inOrder_evaluationOrder ps
  · intro h
    exact h.eq_inOrder.symm

end Policy

theorem Compiled.perm_split (es : List (Except Fault Policy)) :
    ((es.filterMap Except.toOption).map Except.ok ++ (es.filterMap fault?).map Except.error).Perm es := by
  induction es with
  | nil => exact .nil
  | cons e es ih =>
    cases e with
    | ok p => exact ih.cons _
    | error f => exact List.perm_middle.trans (ih.cons _)

variable [ZoneDatabase]

namespace PolicyRecord

def isSound (x : PolicyRecord) : Bool := x.enabled && x.compile.isOk

theorem isSound_eq_false_iff {x : PolicyRecord} :
    x.isSound = false ↔ x.enabled = false ∨ ∃ f, x.compile = .error f := by
  unfold isSound
  cases x.compile <;> simp [Except.isOk, Except.toBool]

end PolicyRecord

namespace Compiled

open PolicyRecord

theorem rejected_ofRecords (rs : List PolicyRecord) :
    (ofRecords rs).rejected = (results rs).filterMap fault? := by
  refine congrArg (List.filterMap · (results rs)) (funext fun e => ?_)
  cases e <;> rfl

theorem perm_results (rs : List PolicyRecord) :
    ((ofRecords rs).policies.map Except.ok ++ (ofRecords rs).rejected.map Except.error).Perm (results rs) := by
  have hsorted : (ofRecords rs).policies.Perm ((results rs).filterMap Except.toOption) :=
    List.mergeSort_perm _ Policy.mayPrecede
  rw [rejected_ofRecords]
  exact ((hsorted.map Except.ok).append_right _).trans (perm_split (results rs))

theorem results_filter_isSound (rs : List PolicyRecord) :
    (results (rs.filter isSound)).filterMap Except.toOption = (results rs).filterMap Except.toOption := by
  rw [results, results, List.filter_filter, List.filterMap_map, List.filterMap_map, List.filterMap_filter,
    List.filterMap_filter]
  congr 1
  funext x
  unfold isSound
  cases x.enabled <;> cases hc : x.compile <;> simp [hc, Except.isOk, Except.toBool, Except.toOption]

theorem policies_eq_of_filter_eq {rs rs' : List PolicyRecord} (h : rs'.filter isSound = rs.filter isSound) :
    (ofRecords rs').policies = (ofRecords rs).policies := by
  rw [ofRecords, ofRecords, ← results_filter_isSound rs', h, results_filter_isSound]

theorem policies_insert (before extra after : List PolicyRecord) (h : ∀ x ∈ extra, x.isSound = false) :
    (ofRecords (before ++ extra ++ after)).policies = (ofRecords (before ++ after)).policies := by
  have hextra : extra.filter isSound = [] := List.filter_eq_nil_iff.2 fun x hx => by simp [h x hx]
  refine policies_eq_of_filter_eq ?_
  rw [List.filter_append, List.filter_append, List.filter_append, hextra, List.append_nil]

theorem ofRecords_sorts_and_splits (rs : List PolicyRecord) :
    let outcomes := (rs.filter (·.enabled)).map compile
    (∀ ps, (ofRecords rs).policies = ps ↔ Policy.EvaluationOrder (outcomes.filterMap Except.toOption) ps) ∧
    (ofRecords rs).rejected = outcomes.filterMap fault? ∧
    ((ofRecords rs).policies.map Except.ok ++ (ofRecords rs).rejected.map Except.error).Perm outcomes ∧
    (∀ before extra after, before ++ after = rs →
      (∀ x ∈ extra, x.enabled = false ∨ ∃ f, x.compile = .error f) →
      (ofRecords (before ++ extra ++ after)).policies = (ofRecords rs).policies) ∧
    ∀ rs', rs'.filter isSound = rs.filter isSound → (ofRecords rs').policies = (ofRecords rs).policies := by
  intro outcomes
  refine ⟨fun ps => Policy.eq_inOrder_iff, rejected_ofRecords rs, perm_results rs, ?_, ?_⟩
  · rintro before extra after rfl hextra
    exact policies_insert before extra after fun x hx => isSound_eq_false_iff.2 (hextra x hx)
  · exact fun rs' h => policies_eq_of_filter_eq h

end Compiled

end AccessPolicy
