import AccessPolicy.Json.Numeral
import AccessPolicy.Proofs.Binary64.Rounding

namespace AccessPolicy

namespace Magnitude

def Within (k : Nat) (m : Magnitude) : Prop := m.rank ≤ (k + 2) * 2 ^ 52

variable {k n d : Nat} {m p : Magnitude}

theorem Within.isFinite (h : m.Within k) (hk : k ≤ 2044) : m.isFinite = true := by
  have hlast : (2047 <<< 52 : Nat) = 2047 * 2 ^ 52 := Nat.shiftLeft_eq 2047 52
  rw [Within] at h
  rw [Magnitude.isFinite, hlast, decide_eq_true_eq]
  omega

theorem Within.units_lt (h : m.Within k) : m.units < 2 ^ (k + 1 + 53) := by
  have hscale : m.scale ≤ k + 1 := by
    rw [Within] at h
    rw [scale_eq]
    omega
  rw [units_eq, Nat.add_comm, Nat.pow_add]
  exact Nat.mul_lt_mul_of_lt_of_le m.significand_lt (Nat.pow_le_pow_right (by omega) hscale) (Nat.two_pow_pos _)

theorem within_ofUnits (h : n / d < 2 ^ (k + 53)) : (ofUnits n d).Within k := by
  have hs : (n / d).log2 - 52 ≤ k := by
    rcases Nat.eq_zero_or_pos (n / d) with hzero | hpos
    · rw [hzero]
      exact Nat.zero_le k
    · have hlog : (n / d).log2 < k + 53 := (Nat.log2_lt (Nat.ne_of_gt hpos)).2 h
      omega
  have hquotient : n / (d * 2 ^ surplusDigits (n / d)) < 2 ^ 53 := by
    rw [← Nat.div_div_eq_div_mul]
    exact div_surplus_lt
  have hround := roundHalfEven_le n (d * 2 ^ surplusDigits (n / d))
  have hrank : (ofUnits n d).rank ≤
      surplusDigits (n / d) * 2 ^ 52 + roundHalfEven n (d * 2 ^ surplusDigits (n / d)) := by
    rw [← Nat.shiftLeft_eq _ 52, ← Nat.shiftLeft_eq d]
    exact Nat.min_le_left _ _
  rw [Within]
  rw [← surplusDigits] at hs
  omega

theorem shiftLeft_lt {a b e : Nat} (h : n < 2 ^ a) (hb : a + e = b) : n <<< e < 2 ^ b := by
  rw [← hb, Nat.shiftLeft_eq, Nat.pow_add]
  exact Nat.mul_lt_mul_of_pos_right h (Nat.two_pow_pos e)

theorem shiftLeft_le {a : Nat} (h : a ≤ n) (e : Nat) : a <<< e ≤ n <<< e := by
  rw [Nat.shiftLeft_eq, Nat.shiftLeft_eq]
  exact Nat.mul_le_mul_right _ h

theorem shiftLeft_div_le {e u : Nat} (h : 1 <<< e ≤ u) : n <<< e / u ≤ n := by
  rw [Nat.shiftLeft_eq, Nat.one_mul] at h
  rw [Nat.shiftLeft_eq]
  exact Nat.div_le_of_le_mul (Nat.mul_comm n u ▸ Nat.mul_le_mul_left n h)

theorem within_ofNat (h : n < UInt64.size) : (ofNat n).Within 1085 := by
  refine within_ofUnits ?_
  rw [Nat.div_one]
  exact shiftLeft_lt (a := 64) h rfl

theorem Within.div (h : m.Within k) (hp : 1 <<< 1074 ≤ p.units) : (m.div p).Within (k + 1) :=
  within_ofUnits (Nat.lt_of_le_of_lt (shiftLeft_div_le hp) h.units_lt)

theorem one_le_nearestWhole (h : 0 < n) : 1 ≤ nearestWhole n := by
  by_cases hsmall : n < 2 ^ 53
  · rwa [nearestWhole_of_lt hsmall]
  · have hlarge := le_nearestWhole (Nat.le_of_not_lt hsmall)
    omega

theorem le_units_ofNat (hpos : 0 < n) (h : n.log2 ≤ 1023) : 1 <<< 1074 ≤ (ofNat n).units := by
  rw [units_ofNat h]
  exact shiftLeft_le (one_le_nearestWhole hpos) _

end Magnitude

namespace Json

open Magnitude

namespace Numeral

theorem le_units_powerOfTen {k : Nat} (hk : k ≤ 308) : 1 <<< 1074 ≤ (powerOfTen k).units := by
  have hpos : 0 < Nat.pow 10 k := Nat.pow_pos (by decide)
  obtain ⟨j, b, hj, hb, htop⟩ : ∃ j b, k ≤ j ∧ b ≤ 1024 ∧ Nat.pow 10 j < 2 ^ b :=
    ⟨308, 1024, hk, Nat.le_refl _, by decide +kernel⟩
  have hle : Nat.pow 10 k ≤ Nat.pow 10 j := Nat.pow_le_pow_right (by decide) hj
  refine le_units_ofNat hpos ?_
  have hlog : (Nat.pow 10 k).log2 < b := (Nat.log2_lt (Nat.ne_of_gt hpos)).2 (Nat.lt_of_le_of_lt hle htop)
  omega

theorem isFinite_scaled? {s : Nat} (hs : s < UInt64.size) {e : Int} {m : Magnitude} (h : scaled? s e = some m) :
    m.isFinite = true := by
  unfold scaled? at h
  simp only at h
  split at h
  · cases h
    rfl
  split at h
  · contradiction
  split at h
  · split at h
    · cases h
      assumption
    · contradiction
  split at h
  · cases h
    exact ((within_ofNat hs).div (le_units_powerOfTen (by omega))).isFinite (by decide)
  split at h
  · cases h
    have hfirst := (within_ofNat hs).div (le_units_powerOfTen (Nat.le_refl 308))
    exact (hfirst.div (le_units_powerOfTen (by omega))).isFinite (by decide)
  · cases h
    rfl

theorem fill_lt {s : Nat} (hs : s < UInt64.size) (ds : List Char) : (fill s ds).1 < UInt64.size := by
  induction ds generalizing s with
  | nil => exact hs
  | cons d ds ih =>
    rw [fill]
    split
    · exact ih ‹_›
    · exact hs

theorem isFinite_number? {n : Numeral} {x : Number} (h : n.number? = some x) : x.toBinary64.isFinite = true := by
  have hwhole : (fill 0 n.whole).1 < UInt64.size := fill_lt (by decide) _
  have hfinite {k : Nat} (hk : k < UInt64.size) : (Magnitude.ofNat k).isFinite = true :=
    (within_ofNat hk).isFinite (by decide)
  unfold number? at h
  simp only at h
  split at h
  · split at h
    · split at h
      · cases h
        exact hfinite hwhole
      · cases h
        rename_i hsmall
        refine hfinite ?_
        simpa using hwhole
    · cases h
      exact hfinite hwhole
  · obtain ⟨m, hm, rfl⟩ := Option.map_eq_some_iff.1 h
    exact isFinite_scaled? (fill_lt hwhole _) hm

end Numeral

end Json

end AccessPolicy
