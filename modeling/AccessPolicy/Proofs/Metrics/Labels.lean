import AccessPolicy.Metrics.Labels
import AccessPolicy.Table

namespace AccessPolicy.Metrics

namespace Labels

theorem mayPrecede_iff (a b : String × String) : mayPrecede a b = true ↔ a.1 < b.1 ∨ a.1 = b.1 ∧ a.2 ≤ b.2 := by
  simp [mayPrecede]

theorem mayPrecede_total (a b : String × String) : (mayPrecede a b || mayPrecede b a) = true := by
  rw [Bool.or_eq_true, mayPrecede_iff, mayPrecede_iff]
  by_cases hlt : a.1 < b.1
  · exact .inl (.inl hlt)
  by_cases hgt : b.1 < a.1
  · exact .inr (.inl hgt)
  have hname : a.1 = b.1 := String.le_antisymm (String.not_lt.1 hgt) (String.not_lt.1 hlt)
  exact (String.le_total a.2 b.2).imp (fun h => .inr ⟨hname, h⟩) fun h => .inr ⟨hname.symm, h⟩

theorem mayPrecede_trans (a b c : String × String) (hab : mayPrecede a b = true) (hbc : mayPrecede b c = true) :
    mayPrecede a c = true := by
  rw [mayPrecede_iff] at hab hbc ⊢
  rcases hab with hab | ⟨hab, hvalue⟩
  · rcases hbc with hbc | ⟨hbc, -⟩
    · exact .inl (String.lt_trans hab hbc)
    · exact .inl (hbc ▸ hab)
  · rcases hbc with hbc | ⟨hbc, hvalue'⟩
    · exact .inl (hab ▸ hbc)
    · exact .inr ⟨hab.trans hbc, String.le_trans hvalue hvalue'⟩

theorem eq_of_mayPrecede {a b : String × String} (hab : mayPrecede a b = true) (hba : mayPrecede b a = true) :
    a = b := by
  rw [mayPrecede_iff] at hab hba
  rcases hab with hab | ⟨hname, hvalue⟩
  · rcases hba with hba | ⟨hba, -⟩
    · exact absurd hba (String.lt_asymm hab)
    · exact absurd hab (hba ▸ String.lt_irrefl _)
  · rcases hba with hba | ⟨-, hvalue'⟩
    · exact absurd hba (hname ▸ String.lt_irrefl _)
    · exact Prod.ext hname (String.le_antisymm hvalue hvalue')

theorem sorted_perm (ls : Labels) : ls.sorted.Perm ls := ls.mergeSort_perm mayPrecede

theorem sorted_pairwise (ls : Labels) : ls.sorted.Pairwise fun a b => mayPrecede a b = true :=
  List.pairwise_mergeSort mayPrecede_trans mayPrecede_total ls

theorem sorted_eq_iff_perm {ls ks : Labels} : ls.sorted = ks.sorted ↔ ls.Perm ks := by
  constructor
  · intro h
    exact ls.sorted_perm.symm.trans (h ▸ ks.sorted_perm)
  · intro h
    have hperm : ls.sorted.Perm ks.sorted := ls.sorted_perm.trans (h.trans ks.sorted_perm.symm)
    exact hperm.eq_of_pairwise (fun _ _ _ _ => eq_of_mayPrecede) ls.sorted_pairwise ks.sorted_pairwise

theorem sorted_sorted (ls : Labels) : ls.sorted.sorted = ls.sorted := sorted_eq_iff_perm.2 ls.sorted_perm

end Labels

structure Indexes {α : Type} (t : Table Labels α) (used : List Labels) : Prop where
  nodup : t.keys.Nodup
  mem_keys_iff : ∀ ks, ks ∈ t.keys ↔ ∃ ls ∈ used, ls.sorted = ks

namespace Indexes

variable {α : Type} {t : Table Labels α} {used : List Labels}

theorem empty : Indexes ([] : Table Labels α) [] := ⟨.nil, by simp [Table.keys]⟩

theorem set (h : Indexes t used) (ls : Labels) (a : α) : Indexes (t.set ls.sorted a) (used ++ [ls]) where
  nodup := Table.nodup_keys_set ls.sorted a h.nodup
  mem_keys_iff := fun ks => by
    rw [Table.mem_keys_set, h.mem_keys_iff]
    constructor
    · rintro (rfl | ⟨ls', hused, rfl⟩)
      · exact ⟨ls, List.mem_append_right used (List.mem_singleton.2 rfl), rfl⟩
      · exact ⟨ls', List.mem_append_left _ hused, rfl⟩
    · rintro ⟨ls', hused, rfl⟩
      rcases List.mem_append.1 hused with hused | hlast
      · exact .inr ⟨ls', hused, rfl⟩
      · exact .inl (congrArg Labels.sorted (List.mem_singleton.1 hlast))

theorem foldl {σ ι : Type} (table : σ → Table Labels α) {step : σ → ι → σ} {labels : ι → Labels}
    (hstep : ∀ s i, ∃ a, table (step s i) = (table s).set (labels i).sorted a) {s : σ} (h : Indexes (table s) used)
    (is : List ι) : Indexes (table (is.foldl step s)) (used ++ is.map labels) := by
  induction is generalizing s used with
  | nil => exact (List.append_nil used).symm ▸ h
  | cons i is ih =>
    obtain ⟨a, hset⟩ := hstep s i
    have hnext : Indexes (table (step s i)) (used ++ [labels i]) := hset ▸ h.set (labels i) a
    simpa using ih hnext

theorem of_perm {s : Table Labels α} (h : Indexes t used) (hperm : s.Perm t) : Indexes s used where
  nodup := (hperm.map Prod.fst).nodup_iff.2 h.nodup
  mem_keys_iff := fun ks => (hperm.map Prod.fst).mem_iff.trans (h.mem_keys_iff ks)

theorem sorted_eq (h : Indexes t used) {ks : Labels} (hks : ks ∈ t.keys) : ks.sorted = ks := by
  obtain ⟨ls, -, rfl⟩ := (h.mem_keys_iff ks).1 hks
  exact ls.sorted_sorted

theorem pairwise_not_perm (h : Indexes t used) : t.keys.Pairwise fun ls ks => ¬ ls.Perm ks := by
  refine h.nodup.imp_of_mem fun {ls ks} hls hks hne hperm => hne ?_
  rw [← h.sorted_eq hls, ← h.sorted_eq hks]
  exact Labels.sorted_eq_iff_perm.2 hperm

theorem exists_perm_iff (h : Indexes t used) (ls : Labels) : (∃ ks ∈ t.keys, ls.Perm ks) ↔ ∃ ks ∈ used, ls.Perm ks := by
  constructor
  · rintro ⟨ks, hks, hperm⟩
    obtain ⟨ls', hused, rfl⟩ := (h.mem_keys_iff ks).1 hks
    exact ⟨ls', hused, hperm.trans ls'.sorted_perm⟩
  · rintro ⟨ks, hused, hperm⟩
    exact ⟨ks.sorted, (h.mem_keys_iff _).2 ⟨ks, hused, rfl⟩, hperm.trans ks.sorted_perm.symm⟩

theorem get?_of_mem (h : Indexes t used) {ks : Labels} {a : α} (hmem : (ks, a) ∈ t) : t.get? ks.sorted = some a := by
  rw [h.sorted_eq (List.mem_map_of_mem hmem)]
  exact Table.get?_eq_some_of_mem h.nodup hmem

theorem forall_mem_keys (h : Indexes t used) {p : String × String → Prop} (hused : ∀ ls ∈ used, ∀ l ∈ ls, p l) :
    ∀ ks ∈ t.keys, ∀ l ∈ ks, p l := by
  intro ks hks l hl
  obtain ⟨ls, hls, rfl⟩ := (h.mem_keys_iff ks).1 hks
  exact hused ls hls l (ls.sorted_perm.mem_iff.1 hl)

end Indexes

end AccessPolicy.Metrics
