import AccessPolicy.Policy.Record

namespace AccessPolicy

namespace Policy

def mayPrecede (p q : Policy) : Bool :=
  q.priority < p.priority || (p.priority == q.priority && p.createdAt.compare q.createdAt != .gt)

theorem mayPrecede_iff (p q : Policy) : mayPrecede p q = true ↔
    q.priority < p.priority ∨ p.priority = q.priority ∧ (p.createdAt.compare q.createdAt).isLE = true := by
  simp [mayPrecede, Ordering.isLE_iff_ne_gt]

theorem mayPrecede_total (p q : Policy) : (mayPrecede p q || mayPrecede q p) = true := by
  rw [Bool.or_eq_true, mayPrecede_iff, mayPrecede_iff]
  have ht : (p.createdAt.compare q.createdAt).isLE = true ∨ (q.createdAt.compare p.createdAt).isLE = true := by
    rw [← Std.OrientedCmp.isGE_iff_isLE (a := p.createdAt)]
    cases p.createdAt.compare q.createdAt <;> simp
  by_cases h : p.priority = q.priority
  · exact ht.imp (fun ht => .inr ⟨h, ht⟩) (fun ht => .inr ⟨h.symm, ht⟩)
  · exact (Int64.lt_or_lt_of_ne h).symm.imp .inl .inl

theorem mayPrecede_trans (p q s : Policy) (hpq : mayPrecede p q = true) (hqs : mayPrecede q s = true) :
    mayPrecede p s = true := by
  rw [mayPrecede_iff] at *
  rcases hpq with hpq | ⟨hpq, htpq⟩ <;> rcases hqs with hqs | ⟨hqs, htqs⟩
  · exact .inl (Int64.lt_trans hqs hpq)
  · exact .inl (hqs ▸ hpq)
  · exact .inl (hpq ▸ hqs)
  · exact .inr ⟨hpq.trans hqs, Std.TransCmp.isLE_trans htpq htqs⟩

def inOrder (ps : List Policy) : List Policy := ps.mergeSort mayPrecede

end Policy

structure Compiled where
  policies : List Policy
  rejected : List Fault

namespace Compiled

variable [ZoneDatabase]

def results (rs : List PolicyRecord) : List (Except Fault Policy) :=
  (rs.filter (·.enabled)).map PolicyRecord.compile

def ofRecords (rs : List PolicyRecord) : Compiled where
  policies := Policy.inOrder ((results rs).filterMap Except.toOption)
  rejected := (results rs).filterMap fun
    | .ok _ => none
    | .error f => some f

theorem policies_of_pairwise {rs : List PolicyRecord}
    (h : ((results rs).filterMap Except.toOption).Pairwise fun p q => Policy.mayPrecede p q = true) :
    (ofRecords rs).policies = (results rs).filterMap Except.toOption := List.mergeSort_of_pairwise h

end Compiled

end AccessPolicy
