import AccessPolicy.Time.Calendar
import Mathlib.Algebra.BigOperators.Group.List.Basic
import Mathlib.Tactic.Ring

namespace AccessPolicy.Date

theorem daysBeforeYear_succ (y : Int) :
    daysBeforeYear (y + 1) = daysBeforeYear y + if isLeapYear y then 366 else 365 := by
  simp only [daysBeforeYear, isLeapYear, Bool.and_eq_true, Bool.or_eq_true, beq_iff_eq, bne_iff_ne]
  split <;> omega

theorem daysBeforeYear_mono {y z : Int} (h : y ≤ z) : daysBeforeYear y ≤ daysBeforeYear z := by
  unfold daysBeforeYear
  omega

theorem daysBeforeYear_yearOf (n : Int) : daysBeforeYear (yearOf n) ≤ n ∧ n < daysBeforeYear (yearOf n + 1) := by
  unfold yearOf
  simp only
  split
  · unfold daysBeforeYear at *
    omega
  · split <;>
    · unfold daysBeforeYear at *
      omega

theorem yearOf_eq {n y : Int} (hlow : daysBeforeYear y ≤ n) (hhigh : n < daysBeforeYear (y + 1)) : yearOf n = y := by
  obtain ⟨hlow', hhigh'⟩ := daysBeforeYear_yearOf n
  rcases Int.lt_trichotomy (yearOf n) y with hlt | heq | hgt
  · have hmono := daysBeforeYear_mono (Int.add_one_le_of_lt hlt)
    omega
  · exact heq
  · have hmono := daysBeforeYear_mono (Int.add_one_le_of_lt hgt)
    omega

theorem sum_monthLengths (leap : Bool) : (monthLengths leap).sum = if leap then 366 else 365 := by
  cases leap <;> rfl

theorem exists_walkMonths {ls : List Nat} {n : Nat} (m : Nat) (h : n < ls.sum) :
    ∃ k d, walkMonths m n ls = (m + k, d) ∧ 1 ≤ d ∧ (∃ l, ls[k]? = some l ∧ d ≤ l) ∧ (ls.take k).sum + d = n + 1 := by
  induction ls generalizing m n with
  | nil => simp at h
  | cons l ls ih =>
    rw [walkMonths]
    by_cases hn : n < l
    · exact ⟨0, n + 1, if_pos hn, by omega, ⟨l, rfl, by omega⟩, by simp⟩
    · rw [List.sum_cons] at h
      obtain ⟨k, d, hwalk, hpos, hl, hsum⟩ := ih (n := n - l) (m + 1) (by omega)
      refine ⟨k + 1, d, ?_, hpos, by simpa using hl, ?_⟩
      · rw [if_neg hn, hwalk, Nat.add_assoc, Nat.add_comm 1 k]
      · rw [List.take_succ_cons, List.sum_cons]
        omega

theorem take_sum_add_le {ls : List Nat} {k l : Nat} (h : ls[k]? = some l) : (ls.take k).sum + l ≤ ls.sum := by
  induction ls generalizing k with
  | nil => simp at h
  | cons m ls ih =>
    cases k with
    | zero => simp_all
    | succ k =>
      have hk := ih (by simpa using h)
      rw [List.take_succ_cons, List.sum_cons, List.sum_cons]
      omega

def earlier (d : Date) : Nat := ((monthLengths (isLeapYear d.year)).take (d.month - 1)).sum

theorem toDay_eq (d : Date) : d.toDay = daysBeforeYear d.year - daysBefore1970 + d.earlier + d.day - 1 := by
  rw [toDay, earlier, List.sum_eq_foldl]

theorem ofDay_cases (n : Int) : ∃ k d l, ofDay n = ⟨yearOf (n + daysBefore1970), k + 1, d⟩ ∧ 1 ≤ d ∧
    (monthLengths (isLeapYear (yearOf (n + daysBefore1970))))[k]? = some l ∧ d ≤ l ∧
    ((monthLengths (isLeapYear (yearOf (n + daysBefore1970)))).take k).sum + (d : Int) =
      n + daysBefore1970 - daysBeforeYear (yearOf (n + daysBefore1970)) + 1 := by
  obtain ⟨hlow, hhigh⟩ := daysBeforeYear_yearOf (n + daysBefore1970)
  have hlength := sum_monthLengths (isLeapYear (yearOf (n + daysBefore1970)))
  rw [daysBeforeYear_succ] at hhigh
  have hday : (n + daysBefore1970 - daysBeforeYear (yearOf (n + daysBefore1970))).toNat <
      (monthLengths (isLeapYear (yearOf (n + daysBefore1970)))).sum := by
    rw [hlength]
    split at hhigh <;> simp_all <;> omega
  obtain ⟨k, d, hwalk, hpos, ⟨l, hl, hd⟩, hsum⟩ := exists_walkMonths 1 hday
  refine ⟨k, d, l, ?_, hpos, hl, hd, by omega⟩
  rw [ofDay, hwalk, Nat.add_comm]

theorem toDay_ofDay (n : Int) : (ofDay n).toDay = n := by
  obtain ⟨k, d, l, hof, -, -, -, hsum⟩ := ofDay_cases n
  rw [toDay_eq, earlier, hof]
  simp only [Nat.add_sub_cancel]
  omega

theorem isValid_ofDay (n : Int) : (ofDay n).isValid = true := by
  obtain ⟨k, d, l, hof, hpos, hl, hd, -⟩ := ofDay_cases n
  simp [isValid, hof, hpos, hl, hd]

theorem year_ofDay_toDay {d : Date} (h : d.isValid = true) : (ofDay d.toDay).year = d.year := by
  simp only [isValid, Bool.and_eq_true, decide_eq_true_eq] at h
  obtain ⟨⟨-, hday⟩, hlast⟩ := h
  cases hl : (monthLengths (isLeapYear d.year))[d.month - 1]? with
  | none =>
    rw [hl, Option.getD_none] at hlast
    omega
  | some l =>
    rw [hl, Option.getD_some] at hlast
    have hsum := take_sum_add_le hl
    have hyear := daysBeforeYear_succ d.year
    rw [sum_monthLengths, ← earlier] at hsum
    refine yearOf_eq ?_ ?_
    · rw [toDay_eq]
      omega
    · rw [toDay_eq, hyear]
      split at hsum <;> simp_all <;> omega

end AccessPolicy.Date
