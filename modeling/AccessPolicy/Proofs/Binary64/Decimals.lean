import AccessPolicy.Binary64.Decimal
import AccessPolicy.Proofs.Binary64.Rounding

namespace AccessPolicy

namespace Magnitude

theorem ofUnits_mul_right (n d : Nat) {c : Nat} (hc : 0 < c) : ofUnits (n * c) (d * c) = ofUnits n d := by
  have hshift (s : Nat) : (d * c) <<< s = d <<< s * c := by
    rw [Nat.shiftLeft_eq, Nat.shiftLeft_eq, Nat.mul_right_comm]
  simp only [ofUnits, Nat.mul_div_mul_right n d hc, hshift, roundHalfEven_mul_right _ _ _ hc]

theorem ofUnits_eq_of_mul_eq {n d n' d' : Nat} (hd : 0 < d) (hd' : 0 < d') (h : n * d' = n' * d) :
    ofUnits n d = ofUnits n' d' := by
  rw [← ofUnits_mul_right n d hd', ← ofUnits_mul_right n' d' hd, h, Nat.mul_comm d]

variable {m : Magnitude}

theorem scale_le_of_isFinite (h : m.isFinite = true) : m.scale ≤ 2045 := by
  have hlast : (2047 <<< 52 : Nat) = 2047 * 2 ^ 52 := Nat.shiftLeft_eq 2047 52
  rw [isFinite, hlast, decide_eq_true_eq] at h
  rw [scale_eq]
  omega

theorem units_lt (m : Magnitude) : m.units < 2 ^ (m.scale + 53) := by
  rw [units_eq, Nat.add_comm, Nat.pow_add]
  exact Nat.mul_lt_mul_of_pos_right m.significand_lt (Nat.two_pow_pos _)

theorem log2_units_lt (m : Magnitude) : m.units.log2 < m.scale + 53 := by
  rcases Nat.eq_zero_or_pos m.units with hzero | hpos
  · rw [hzero, Nat.log2_zero]
    omega
  · exact (Nat.log2_lt (Nat.ne_of_gt hpos)).2 m.units_lt

theorem ofUnits_units (h : m.isFinite = true) : ofUnits m.units 1 = m := by
  have hscale := scale_le_of_isFinite h
  have hlog := m.log2_units_lt
  have hdvd : 2 ^ surplusDigits m.units ∣ m.units := by
    have hsurplus : surplusDigits m.units ≤ m.scale := by
      rw [surplusDigits]
      omega
    exact (Nat.pow_dvd_pow 2 hsurplus).trans (m.units_eq ▸ Nat.dvd_mul_left _ _)
  refine units_injective ?_
  rw [units_ofUnits_one (by omega), nearestWhole_of_dvd hdvd]

end Magnitude

namespace Decimal

def top (d : Decimal) : Int := d.digits.length + d.exponent

theorem toMagnitude_eq {d : Decimal} (hzero : d.coefficient ≠ 0) : d.toMagnitude =
    if 10000 < d.top then .infinity
    else if d.top < -10000 then .zero
    else .ofUnits ((d.coefficient * 10 ^ d.exponent.toNat) <<< 1074) (10 ^ (-d.exponent).toNat) := by
  rw [toMagnitude, if_neg hzero]
  congr 2
  by_cases hexponent : d.exponent < 0
  · have hnone : d.exponent.toNat = 0 := by omega
    rw [if_pos hexponent, hnone, Nat.pow_zero, Nat.mul_one]
    rfl
  · have hnone : (-d.exponent).toNat = 0 := by omega
    rw [if_neg hexponent, hnone, Nat.pow_zero]
    rfl

theorem toDigits_mul_pow {n : Nat} (hn : 0 < n) (k : Nat) :
    Nat.toDigits 10 (n * 10 ^ k) = Nat.toDigits 10 n ++ List.replicate k '0' := by
  induction k with
  | zero => simp
  | succ k ih =>
    have hpos : 0 < n * 10 ^ k := Nat.mul_pos hn (Nat.pow_pos (by decide))
    calc Nat.toDigits 10 (n * 10 ^ (k + 1)) = Nat.toDigits 10 (10 * (n * 10 ^ k) + 0) := by
          rw [Nat.pow_succ, Nat.add_zero, ← Nat.mul_assoc, Nat.mul_comm]
      _ = Nat.toDigits 10 (n * 10 ^ k) ++ Nat.toDigits 10 0 :=
          (Nat.toDigits_append_toDigits (by decide) hpos (by decide)).symm
      _ = Nat.toDigits 10 n ++ List.replicate (k + 1) '0' := by
          rw [ih, List.append_assoc, List.replicate_succ']
          rfl

theorem shiftLeft_mul (n c k : Nat) : (n * c) <<< k = n <<< k * c := by
  rw [Nat.shiftLeft_eq, Nat.shiftLeft_eq, Nat.mul_right_comm]

theorem toMagnitude_mul_pow (n k : Nat) (e : Int) :
    (⟨n * 10 ^ k, e⟩ : Decimal).toMagnitude = (⟨n, e + k⟩ : Decimal).toMagnitude := by
  rcases Nat.eq_zero_or_pos n with rfl | hn
  · rw [Nat.zero_mul, toMagnitude, toMagnitude, if_pos rfl, if_pos rfl]
  have hpos : 0 < n * 10 ^ k := Nat.mul_pos hn (Nat.pow_pos (by decide))
  have htop : top ⟨n * 10 ^ k, e⟩ = top ⟨n, e + k⟩ := by
    rw [top, top, digits, digits, toDigits_mul_pow hn, List.length_append, List.length_replicate]
    push_cast
    omega
  have hexponents : k + (e.toNat + (-(e + k)).toNat) = (e + k).toNat + (-e).toNat := by omega
  have hunits : Magnitude.ofUnits ((n * 10 ^ k * 10 ^ e.toNat) <<< 1074) (10 ^ (-e).toNat) =
      .ofUnits ((n * 10 ^ (e + k).toNat) <<< 1074) (10 ^ (-(e + k)).toNat) := by
    refine Magnitude.ofUnits_eq_of_mul_eq (Nat.pow_pos (by decide)) (Nat.pow_pos (by decide)) ?_
    rw [shiftLeft_mul, shiftLeft_mul, shiftLeft_mul, Nat.mul_assoc, Nat.mul_assoc, Nat.mul_assoc, ← Nat.pow_add,
      ← Nat.pow_add, ← Nat.pow_add, hexponents]
  rw [toMagnitude_eq (Nat.ne_of_gt hpos), toMagnitude_eq (Nat.ne_of_gt hn), htop, hunits]

end Decimal

namespace Magnitude

variable {m : Magnitude}

theorem ofUnits_mul_five_pow (n k : Nat) : ofUnits ((n * 5 ^ k * 10 ^ 0) <<< k) (10 ^ k) = ofUnits n 1 := by
  refine ofUnits_eq_of_mul_eq (Nat.pow_pos (by decide)) Nat.one_pos ?_
  rw [Nat.pow_zero, Nat.mul_one, Nat.mul_one, Nat.shiftLeft_eq, Nat.mul_assoc, ← Nat.mul_pow]

theorem mul_five_pow_lt {n a b : Nat} (h : n < 2 ^ a) (hb : b ≤ a) : n * 5 ^ b < 10 ^ a := by
  calc n * 5 ^ b < 2 ^ a * 5 ^ b := Nat.mul_lt_mul_of_pos_right h (Nat.pow_pos (by decide))
    _ ≤ 2 ^ a * 5 ^ a := Nat.mul_le_mul_left _ (Nat.pow_le_pow_right (by decide) hb)
    _ = 10 ^ a := by rw [← Nat.mul_pow]

theorem exactDecimal_eq (m : Magnitude) {k : Nat} (hk : k = 1074) :
    m.exactDecimal = ⟨m.units * 5 ^ k, -(k : Int)⟩ := by
  have hexact : m.exactDecimal = ⟨m.units * Nat.pow 5 1074, -1074⟩ := by
    unfold exactDecimal
    exact Eq.refl _
  have hexponent : (-1074 : Int) = -(k : Int) := by omega
  rw [hexponent] at hexact
  -- as a variable the power is left as it is written
  generalize 1074 = j at hexact hk
  subst hk
  exact hexact

theorem toMagnitude_exactDecimal (h : m.isFinite = true) : m.exactDecimal.toMagnitude = m := by
  obtain ⟨k, hk⟩ : ∃ k : Nat, k = 1074 := ⟨_, rfl⟩
  by_cases hzero : m.units = 0
  · have hm : m = .zero := units_injective (hzero.trans (by decide))
    rw [hm]
    decide +kernel
  have hcoefficient : m.units * 5 ^ k ≠ 0 := Nat.mul_ne_zero hzero (Nat.ne_of_gt (Nat.pow_pos (by decide)))
  have hlength : (Nat.toDigits 10 (m.units * 5 ^ k)).length ≤ 2 * k := by
    have hscale := scale_le_of_isFinite h
    rw [Nat.length_toDigits_le_iff (by decide) (by omega)]
    have hunits : m.units < 2 ^ (2 * k) :=
      Nat.lt_of_lt_of_le m.units_lt (Nat.pow_le_pow_right (by decide) (by omega))
    exact mul_five_pow_lt hunits (by omega)
  have htop : ¬ 10000 < Decimal.top ⟨m.units * 5 ^ k, -k⟩ ∧ ¬ Decimal.top ⟨m.units * 5 ^ k, -k⟩ < -10000 := by
    simp only [Decimal.top, Decimal.digits]
    omega
  have hexponents : (-(k : Int)).toNat = 0 ∧ (-(-(k : Int))).toNat = k := by omega
  rw [exactDecimal_eq m hk, Decimal.toMagnitude_eq hcoefficient, if_neg htop.1, if_neg htop.2, hexponents.1,
    hexponents.2, ← hk]
  exact (ofUnits_mul_five_pow m.units k).trans (ofUnits_units h)

theorem toMagnitude_shortest (h : m.isFinite = true) (tie : Tie) : (m.shortest tie).toMagnitude = m := by
  unfold shortest
  cases hfound : (List.range 17).findSome? fun n => m.readingBack? tie (n + 1) with
  | none => exact toMagnitude_exactDecimal h
  | some d =>
    obtain ⟨n, -, hn⟩ := List.exists_of_findSome?_eq_some hfound
    simpa using List.find?_some hn

end Magnitude

end AccessPolicy
