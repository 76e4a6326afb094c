import AccessPolicy.Binary64.Basic
import Mathlib.Tactic.Ring

namespace AccessPolicy

section Quotients

variable (n d c : Nat)

theorem roundHalfEven_one : roundHalfEven n 1 = n := by
  simp [roundHalfEven, Nat.mod_one]

theorem roundHalfEven_mul_right (hc : 0 < c) : roundHalfEven (n * c) (d * c) = roundHalfEven n d := by
  have hlow : 2 * (n % d * c) < d * c ↔ 2 * (n % d) < d := by
    rw [← Nat.mul_assoc]
    exact Nat.mul_lt_mul_right hc
  have hhigh : d * c < 2 * (n % d * c) ↔ d < 2 * (n % d) := by
    rw [← Nat.mul_assoc]
    exact Nat.mul_lt_mul_right hc
  simp only [roundHalfEven, Nat.mul_div_mul_right n d hc, Nat.mul_mod_mul_right, hlow, hhigh]

theorem div_le_roundHalfEven : n / d ≤ roundHalfEven n d := by
  simp only [roundHalfEven]
  split
  · exact Nat.le_refl _
  · split <;> omega

theorem roundHalfEven_le : roundHalfEven n d ≤ n / d + 1 := by
  simp only [roundHalfEven]
  split
  · exact Nat.le_succ _
  · split <;> omega

end Quotients

def surplusDigits (n : Nat) : Nat := n.log2 - 52

/-- The whole number of at most 53 significant binary digits that is nearest to `n`, a half going to the even one. -/
def nearestWhole (n : Nat) : Nat := roundHalfEven n (2 ^ surplusDigits n) * 2 ^ surplusDigits n

section Significands

variable {n : Nat}

theorem surplusDigits_of_lt (h : n < 2 ^ 53) : surplusDigits n = 0 := by
  rcases Nat.eq_zero_or_pos n with rfl | hpos
  · rfl
  · have hlog : n.log2 < 53 := (Nat.log2_lt (by omega)).2 h
    rw [surplusDigits]
    omega

theorem log2_of_le (h : 2 ^ 52 ≤ n) : n.log2 = surplusDigits n + 52 := by
  have hlog : 52 ≤ n.log2 := (Nat.le_log2 (by omega)).2 h
  rw [surplusDigits]
  omega

theorem le_div_surplus (h : 2 ^ 52 ≤ n) : 2 ^ 52 ≤ n / 2 ^ surplusDigits n := by
  rw [Nat.le_div_iff_mul_le (Nat.two_pow_pos _), ← Nat.pow_add, Nat.add_comm, ← log2_of_le h]
  exact Nat.log2_self_le (by omega)

theorem div_surplus_lt : n / 2 ^ surplusDigits n < 2 ^ 53 := by
  rw [Nat.div_lt_iff_lt_mul (Nat.two_pow_pos _), ← Nat.pow_add]
  exact Nat.lt_of_lt_of_le Nat.lt_log2_self (Nat.pow_le_pow_right (by omega) (by rw [surplusDigits]; omega))

theorem nearestWhole_of_dvd (h : 2 ^ surplusDigits n ∣ n) : nearestWhole n = n := by
  obtain ⟨q, hq⟩ := h
  have hround : roundHalfEven n (2 ^ surplusDigits n) = q := by
    calc roundHalfEven n (2 ^ surplusDigits n)
        = roundHalfEven (q * 2 ^ surplusDigits n) (1 * 2 ^ surplusDigits n) := by
          rw [Nat.mul_comm q, ← hq, Nat.one_mul]
      _ = q := by rw [roundHalfEven_mul_right _ _ _ (Nat.two_pow_pos _), roundHalfEven_one]
  rw [nearestWhole, hround, Nat.mul_comm, ← hq]

theorem nearestWhole_of_lt (h : n < 2 ^ 53) : nearestWhole n = n := by
  refine nearestWhole_of_dvd ?_
  rw [surplusDigits_of_lt h]
  exact Nat.one_dvd n

theorem le_nearestWhole (h : 2 ^ 53 ≤ n) : 2 ^ 53 ≤ nearestWhole n := by
  have hlog : 53 ≤ n.log2 := (Nat.le_log2 (by omega)).2 h
  have hsurplus : 1 ≤ surplusDigits n := by
    rw [surplusDigits]
    omega
  calc 2 ^ 53 = 2 ^ 52 * 2 ^ 1 := by norm_num
    _ ≤ roundHalfEven n (2 ^ surplusDigits n) * 2 ^ surplusDigits n :=
        Nat.mul_le_mul ((le_div_surplus (by omega)).trans (div_le_roundHalfEven ..))
          (Nat.pow_le_pow_right (by omega) hsurplus)

theorem eq_of_nearestWhole_eq {m : Nat} (h : nearestWhole m = nearestWhole n) (hsmall : m < 2 ^ 53 ∨ n < 2 ^ 53) :
    m = n := by
  by_cases hm : m < 2 ^ 53
  · by_cases hn : n < 2 ^ 53
    · rwa [nearestWhole_of_lt hm, nearestWhole_of_lt hn] at h
    · have hlarge := le_nearestWhole (Nat.le_of_not_lt hn)
      rw [← h, nearestWhole_of_lt hm] at hlarge
      omega
  · have hn : n < 2 ^ 53 := hsmall.resolve_left hm
    have hlarge := le_nearestWhole (Nat.le_of_not_lt hm)
    rw [h, nearestWhole_of_lt hn] at hlarge
    omega

theorem log2_shiftLeft (h : n ≠ 0) (k : Nat) : (n <<< k).log2 = n.log2 + k := by
  have hpos := Nat.two_pow_pos k
  rw [Nat.shiftLeft_eq]
  refine (Nat.log2_eq_iff (Nat.mul_ne_zero h (Nat.ne_of_gt hpos))).2 ⟨?_, ?_⟩
  · rw [Nat.pow_add]
    exact Nat.mul_le_mul_right _ (Nat.log2_self_le h)
  · rw [Nat.add_right_comm, Nat.pow_add]
    exact Nat.mul_lt_mul_of_pos_right Nat.lt_log2_self hpos

theorem nearestWhole_shiftLeft (n k : Nat) : nearestWhole (n <<< k) = nearestWhole n <<< k := by
  rcases Nat.eq_zero_or_pos n with rfl | hpos
  · simp [nearestWhole, roundHalfEven]
  have hlog := log2_shiftLeft (Nat.ne_of_gt hpos) k
  by_cases hsmall : n < 2 ^ 53
  · have hlow : n.log2 < 53 := (Nat.log2_lt (Nat.ne_of_gt hpos)).2 hsmall
    have hsurplus : surplusDigits (n <<< k) ≤ k := by
      rw [surplusDigits, hlog]
      omega
    rw [nearestWhole_of_lt hsmall]
    refine nearestWhole_of_dvd ?_
    rw [Nat.shiftLeft_eq] at hsurplus ⊢
    exact Nat.dvd_mul_left_of_dvd (Nat.pow_dvd_pow 2 hsurplus) n
  · have hsurplus : surplusDigits (n <<< k) = surplusDigits n + k := by
      have hn := log2_of_le (n := n) (by omega)
      rw [surplusDigits, hlog]
      omega
    rw [nearestWhole, hsurplus, nearestWhole, Nat.pow_add, Nat.shiftLeft_eq, Nat.shiftLeft_eq,
      roundHalfEven_mul_right _ _ _ (Nat.two_pow_pos k), Nat.mul_assoc]

end Significands

namespace Magnitude

section Units

variable {m m' : Magnitude}

theorem units_eq (m : Magnitude) : m.units = m.significand * 2 ^ m.scale := by
  rw [units, Nat.shiftLeft_eq]

theorem significand_eq (m : Magnitude) : m.significand = m.rank - m.scale * 2 ^ 52 := by
  unfold significand
  omega

theorem scale_eq (m : Magnitude) : m.scale = m.rank / 2 ^ 52 - 1 := by
  have hunit : (1 <<< 52 : Nat) = 2 ^ 52 := by decide
  rw [scale, hunit]

theorem significand_lt (m : Magnitude) : m.significand < 2 ^ 53 := by
  rw [significand_eq, scale_eq]
  omega

theorem le_significand (h : 0 < m.scale) : 2 ^ 52 ≤ m.significand := by
  rw [scale_eq] at h
  rw [significand_eq, scale_eq]
  omega

theorem units_lt_units (h : m.rank < m'.rank) : m.units < m'.units := by
  have hscale : m.scale ≤ m'.scale := by
    rw [scale_eq, scale_eq]
    omega
  rw [units_eq, units_eq]
  rcases Nat.lt_or_eq_of_le hscale with hlt | heq
  · calc m.significand * 2 ^ m.scale < 2 ^ 53 * 2 ^ m.scale :=
          Nat.mul_lt_mul_of_pos_right m.significand_lt (Nat.two_pow_pos _)
      _ = 2 ^ 52 * 2 ^ (m.scale + 1) := by ring
      _ ≤ m'.significand * 2 ^ m'.scale :=
          Nat.mul_le_mul (le_significand (by omega)) (Nat.pow_le_pow_right (by omega) (Nat.succ_le_of_lt hlt))
  · rw [heq]
    refine Nat.mul_lt_mul_of_pos_right ?_ (Nat.two_pow_pos _)
    rw [significand_eq, significand_eq, heq]
    rw [scale_eq] at heq
    have hscale' := scale_eq m'
    omega

theorem eq_of_rank_eq (h : m.rank = m'.rank) : m = m' := by
  cases m
  cases m'
  cases h
  rfl

theorem units_injective (h : m.units = m'.units) : m = m' := by
  rcases Nat.lt_trichotomy m.rank m'.rank with hlt | heq | hgt
  · exact absurd h (Nat.ne_of_lt (units_lt_units hlt))
  · exact eq_of_rank_eq heq
  · exact absurd h (Nat.ne_of_gt (units_lt_units hgt))

theorem units_ofRank {s q : Nat} (hs : s ≤ 2045) (hq : q ≤ 2 ^ 53) (hnormal : s = 0 ∨ 2 ^ 52 ≤ q) :
    (ofRank (s * 2 ^ 52 + q)).units = q * 2 ^ s := by
  have hrank : (ofRank (s * 2 ^ 52 + q)).rank = s * 2 ^ 52 + q := by
    have hle : s * 2 ^ 52 + q ≤ 2047 <<< 52 := by
      rw [Nat.shiftLeft_eq]
      omega
    exact Nat.min_eq_left hle
  rw [units_eq, significand_eq, scale_eq, hrank]
  by_cases hcarry : q = 2 ^ 53
  -- a significand that is rounded up to 54 digits is the least of the next scale
  · have hscale : (s * 2 ^ 52 + q) / 2 ^ 52 - 1 = s + 1 := by omega
    have hsignificand : s * 2 ^ 52 + q - (s + 1) * 2 ^ 52 = 2 ^ 52 := by omega
    rw [hscale, hsignificand, hcarry]
    ring
  · have hscale : (s * 2 ^ 52 + q) / 2 ^ 52 - 1 = s := by omega
    rw [hscale, Nat.add_sub_cancel_left]

end Units

theorem units_ofUnits_one {n : Nat} (h : n.log2 ≤ 2097) : (ofUnits n 1).units = nearestWhole n := by
  have hs : surplusDigits n ≤ 2045 := by
    rw [surplusDigits]
    omega
  have hrank : ofUnits n 1 = ofRank (surplusDigits n * 2 ^ 52 + roundHalfEven n (2 ^ surplusDigits n)) := by
    simp only [ofUnits, Nat.div_one, Nat.shiftLeft_eq, Nat.one_mul, surplusDigits]
  rw [hrank, nearestWhole]
  refine units_ofRank hs ?_ ?_
  · have hlt := div_surplus_lt (n := n)
    have hle := roundHalfEven_le n (2 ^ surplusDigits n)
    omega
  · by_cases hsmall : n < 2 ^ 53
    · exact .inl (surplusDigits_of_lt hsmall)
    · exact .inr ((le_div_surplus (by omega)).trans (div_le_roundHalfEven ..))

theorem units_ofNat {n : Nat} (h : n.log2 ≤ 1023) : (ofNat n).units = nearestWhole n <<< 1074 := by
  have hlog : (n <<< 1074).log2 ≤ 2097 := by
    rcases Nat.eq_zero_or_pos n with rfl | hpos
    · rw [Nat.zero_shiftLeft]
      decide
    · rw [log2_shiftLeft (Nat.ne_of_gt hpos)]
      omega
  rw [ofNat, units_ofUnits_one hlog, nearestWhole_shiftLeft]

theorem ofNat_eq_iff {m n : Nat} (hm : m.log2 ≤ 1023) (hn : n.log2 ≤ 1023) :
    ofNat m = ofNat n ↔ nearestWhole m = nearestWhole n := by
  constructor
  · intro h
    have hunits := congrArg units h
    rw [units_ofNat hm, units_ofNat hn, Nat.shiftLeft_eq, Nat.shiftLeft_eq] at hunits
    exact Nat.eq_of_mul_eq_mul_right (Nat.two_pow_pos _) hunits
  · intro h
    refine units_injective ?_
    rw [units_ofNat hm, units_ofNat hn, h]

end Magnitude

end AccessPolicy
