import Mathlib.Data.List.Basic

namespace AccessPolicy.Sorting

variable {α : Type} {le : α → α → Bool}

/-- Whether of two members neither must come before the other. -/
def ties (le : α → α → Bool) (a b : α) : Bool := le a b && le b a

section Ties

variable (total : ∀ a b, (le a b || le b a) = true)

include total

theorem le_self (a : α) : le a a = true := by simpa using total a a

theorem ties_self (a : α) : ties le a a = true := by rw [ties, le_self total a, Bool.and_true]

theorem mem_of_filter_ties_eq {as bs : List α} {a : α} (h : as.filter (ties le a) = bs.filter (ties le a))
    (ha : a ∈ as) : a ∈ bs := by
  have hties : a ∈ as.filter (ties le a) := List.mem_filter.2 ⟨ha, ties_self total a⟩
  exact (List.mem_filter.1 (h ▸ hties)).1

theorem le_of_mem_cons {a b : α} {bs : List α} (hbs : (b :: bs).Pairwise fun b c => le b c = true)
    (ha : a ∈ b :: bs) : le b a = true := by
  rcases List.mem_cons.1 ha with rfl | ha
  · exact le_self total a
  · exact (List.pairwise_cons.1 hbs).1 a ha

theorem eq_of_pairwise_of_filter_ties_eq {as bs : List α} (has : as.Pairwise fun a b => le a b = true)
    (hbs : bs.Pairwise fun a b => le a b = true) (h : ∀ a, as.filter (ties le a) = bs.filter (ties le a)) :
    as = bs := by
  induction as generalizing bs with
  | nil =>
    cases bs with
    | nil => rfl
    | cons b bs => exact absurd (mem_of_filter_ties_eq total (h b).symm List.mem_cons_self) List.not_mem_nil
  | cons a as ih =>
    cases bs with
    | nil => exact absurd (mem_of_filter_ties_eq total (h a) List.mem_cons_self) List.not_mem_nil
    | cons b bs =>
      -- each head may precede the other, so they tie, and the members that tie with them come in one order
      have hba : le b a = true := le_of_mem_cons total hbs (mem_of_filter_ties_eq total (h a) List.mem_cons_self)
      have hab : le a b = true := le_of_mem_cons total has (mem_of_filter_ties_eq total (h b).symm List.mem_cons_self)
      have hheads := h a
      rw [List.filter_cons_of_pos (ties_self total a), List.filter_cons_of_pos (by simp [ties, hab, hba])] at hheads
      obtain rfl : a = b := (List.cons.inj hheads).1
      refine congrArg (a :: ·) (ih has.of_cons hbs.of_cons fun c => ?_)
      have hc := h c
      cases hca : ties le c a with
      | false => simpa [hca] using hc
      | true => simpa [hca] using hc

end Ties

section Order

variable (trans : ∀ a b c, le a b = true → le b c = true → le a c = true)
  (total : ∀ a b, (le a b || le b a) = true)

include trans total

theorem filter_ties_mergeSort (a : α) (as : List α) :
    (as.mergeSort le).filter (ties le a) = as.filter (ties le a) := by
  have hsorted : (as.filter (ties le a)).Pairwise fun b c => le b c = true := by
    refine List.pairwise_of_forall_mem_list fun b hb c hc => ?_
    have hba := (Bool.and_eq_true_iff.1 (List.mem_filter.1 hb).2).2
    have hac := (Bool.and_eq_true_iff.1 (List.mem_filter.1 hc).2).1
    exact trans b a c hba hac
  have hsub := (List.sublist_mergeSort trans total hsorted List.filter_sublist).filter (ties le a)
  rw [List.filter_filter] at hsub
  simp only [Bool.and_self] at hsub
  exact (hsub.eq_of_length ((List.mergeSort_perm as le).filter _).length_eq.symm).symm

theorem mergeSort_eq_of_filter_ties_eq {as bs : List α} (h : ∀ a, as.filter (ties le a) = bs.filter (ties le a)) :
    as.mergeSort le = bs.mergeSort le := by
  refine eq_of_pairwise_of_filter_ties_eq total (List.pairwise_mergeSort trans total as)
    (List.pairwise_mergeSort trans total bs) fun a => ?_
  rw [filter_ties_mergeSort trans total, filter_ties_mergeSort trans total, h]

theorem filter_mergeSort (q : α → Bool) (as : List α) : (as.mergeSort le).filter q = (as.filter q).mergeSort le := by
  refine eq_of_pairwise_of_filter_ties_eq total ((List.pairwise_mergeSort trans total as).filter q)
    (List.pairwise_mergeSort trans total _) fun a => ?_
  rw [filter_ties_mergeSort trans total, List.filter_filter, List.filter_filter]
  simp only [Bool.and_comm _ (q _)]
  rw [← List.filter_filter, filter_ties_mergeSort trans total, List.filter_filter]

theorem mergeSort_cons_eq (a : α) (as : List α) : (a :: as).mergeSort le =
    (as.mergeSort le).takeWhile (!le a ·) ++ a :: (as.mergeSort le).dropWhile (!le a ·) := by
  obtain ⟨l, r, hwith, hwithout, hl⟩ := List.mergeSort_cons trans total a as
  have hsorted := hwith ▸ List.pairwise_mergeSort trans total (a :: as)
  have hr : ∀ c ∈ r, le a c = true := (List.pairwise_cons.1 (List.pairwise_append.1 hsorted).2.1).1
  have hstop : r.takeWhile (!le a ·) = [] ∧ r.dropWhile (!le a ·) = r := by
    cases r with
    | nil => exact ⟨rfl, rfl⟩
    | cons c r => simp [hr c List.mem_cons_self]
  rw [hwith, hwithout, List.takeWhile_append_of_pos hl, List.dropWhile_append_of_pos hl, hstop.1, hstop.2,
    List.append_nil]

omit total in
theorem exists_splice_eq (a b : α) (l r : List α) (hr : ∀ c ∈ r, le b c = true) : ∃ l' r',
    (l ++ r).takeWhile (!le a ·) ++ a :: (l ++ r).dropWhile (!le a ·) = l' ++ r' ∧
      (l ++ b :: r).takeWhile (!le a ·) ++ a :: (l ++ b :: r).dropWhile (!le a ·) = l' ++ b :: r' := by
  induction l with
  | nil =>
    cases hab : le a b with
    | false => exact ⟨[], r.takeWhile (!le a ·) ++ a :: r.dropWhile (!le a ·), by simp, by simp [hab]⟩
    | true =>
      cases r with
      | nil => exact ⟨[a], [], by simp, by simp [hab]⟩
      | cons c r =>
        have hac : le a c = true := trans a b c hab (hr c List.mem_cons_self)
        exact ⟨[a], c :: r, by simp [hac], by simp [hab]⟩
  | cons c l ih =>
    cases hac : le a c with
    | true => exact ⟨a :: c :: l, r, by simp [hac], by simp [hac]⟩
    | false =>
      obtain ⟨l', r', hwithout, hwith⟩ := ih
      exact ⟨c :: l', r', by simp [hac, hwithout], by simp [hac, hwith]⟩

/-- Wherever a member is added to a list, it is added somewhere to the sorted list, and the rest stays in place. -/
theorem exists_mergeSort_append_cons (b : α) (l r : List α) :
    ∃ l' r', (l ++ r).mergeSort le = l' ++ r' ∧ (l ++ b :: r).mergeSort le = l' ++ b :: r' := by
  induction l with
  | nil =>
    obtain ⟨l', r', hwith, hwithout, -⟩ := List.mergeSort_cons trans total b r
    exact ⟨l', r', hwithout, hwith⟩
  | cons a l ih =>
    obtain ⟨l', r', hwithout, hwith⟩ := ih
    have hsorted := hwith ▸ List.pairwise_mergeSort trans total (l ++ b :: r)
    have hr : ∀ c ∈ r', le b c = true := (List.pairwise_cons.1 (List.pairwise_append.1 hsorted).2.1).1
    rw [List.cons_append, List.cons_append, mergeSort_cons_eq trans total, mergeSort_cons_eq trans total, hwithout,
      hwith]
    exact exists_splice_eq trans a b l' r' hr

theorem exists_of_head?_mergeSort {as : List α} {a : α} (h : (as.mergeSort le).head? = some a) :
    ∃ l r, as = l ++ a :: r ∧ (∀ b ∈ l, le b a = false) ∧ ∀ b ∈ r, le a b = true := by
  induction as generalizing a with
  | nil => simp at h
  | cons c as ih =>
    obtain ⟨front, rest, hwith, hwithout, hfront⟩ := List.mergeSort_cons trans total c as
    rw [hwith] at h
    cases front with
    | nil =>
      obtain rfl : c = a := by simpa using h
      have hsorted := hwith ▸ List.pairwise_mergeSort trans total (c :: as)
      refine ⟨[], as, rfl, by simp, fun b hb => (List.pairwise_cons.1 hsorted).1 b ?_⟩
      exact (hwithout ▸ List.mem_mergeSort).2 hb
    | cons d front =>
      obtain rfl : d = a := by simpa using h
      obtain ⟨l, r, has, hl, hr⟩ := ih (by rw [hwithout]; rfl)
      refine ⟨c :: l, r, by rw [has]; rfl, ?_, hr⟩
      intro b hb
      rcases List.mem_cons.1 hb with rfl | hb
      · simpa using hfront d List.mem_cons_self
      · exact hl b hb

theorem head?_mergeSort_of_first {l r : List α} {a : α} (hl : ∀ b ∈ l, le b a = false) (hr : ∀ b ∈ r, le a b = true) :
    ((l ++ a :: r).mergeSort le).head? = some a := by
  induction l with
  | nil =>
    have hall : ∀ b ∈ r.mergeSort le, le a b = true := fun b hb => hr b (List.mem_mergeSort.1 hb)
    rw [List.nil_append, mergeSort_cons_eq trans total]
    cases hs : r.mergeSort le with
    | nil => rfl
    | cons b bs => simp [hall b (hs ▸ List.mem_cons_self)]
  | cons b l ih =>
    have hba : le b a = false := hl b List.mem_cons_self
    obtain ⟨bs, hs⟩ := List.head?_eq_some_iff.1 (ih fun c hc => hl c (List.mem_cons_of_mem _ hc))
    rw [List.cons_append, mergeSort_cons_eq trans total, hs]
    simp [hba]

theorem head?_mergeSort_eq_some_iff {as : List α} {a : α} : (as.mergeSort le).head? = some a ↔
    ∃ l r, as = l ++ a :: r ∧ (∀ b ∈ l, le b a = false) ∧ ∀ b ∈ r, le a b = true := by
  constructor
  · exact exists_of_head?_mergeSort trans total
  · rintro ⟨l, r, rfl, hl, hr⟩
    exact head?_mergeSort_of_first trans total hl hr

end Order

end AccessPolicy.Sorting
