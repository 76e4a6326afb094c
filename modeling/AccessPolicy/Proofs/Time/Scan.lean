import AccessPolicy.Proofs.Fallible
import AccessPolicy.Time.Scan
import Mathlib.Tactic.Ring

namespace AccessPolicy

namespace Text

variable {ds : List Char}

theorem ofDigits_eq (ds : List Char) : ofDigits ds = Nat.ofDigitChars 10 ds 0 := rfl

theorem digitValue_lt {c : Char} (h : c.isDigit = true) : digitValue c < 10 := by
  have hhigh : c.toNat ≤ 57 := (Char.isDigit_iff_toNat.1 h).2
  rw [digitValue]
  omega

theorem ofDigitChars_lt (h : ∀ c ∈ ds, c.isDigit = true) (k : Nat) :
    Nat.ofDigitChars 10 ds k < (k + 1) * 10 ^ ds.length := by
  induction ds generalizing k with
  | nil => simp
  | cons d ds ih =>
    have hd : digitValue d < 10 := digitValue_lt (h d List.mem_cons_self)
    calc Nat.ofDigitChars 10 (d :: ds) k
        = Nat.ofDigitChars 10 ds (10 * k + digitValue d) := rfl
      _ < (10 * k + digitValue d + 1) * 10 ^ ds.length := ih (fun c hc => h c (List.mem_cons_of_mem _ hc)) _
      _ ≤ ((k + 1) * 10) * 10 ^ ds.length := Nat.mul_le_mul_right _ (by omega)
      _ = (k + 1) * 10 ^ (d :: ds).length := by
          rw [List.length_cons, Nat.pow_succ, Nat.mul_assoc, Nat.mul_comm 10]

theorem ofDigits_append (ds es : List Char) : ofDigits (ds ++ es) = ofDigits ds * 10 ^ es.length + ofDigits es := by
  rw [ofDigits_eq, Nat.ofDigitChars_append, Nat.ofDigitChars_eq_ofDigitChars_zero, Nat.mul_comm]
  rfl

theorem ofDigits_cons (d : Char) (ds : List Char) :
    ofDigits (d :: ds) = digitValue d * 10 ^ ds.length + ofDigits ds := by
  simpa [ofDigits] using ofDigits_append [d] ds

theorem ofDigits_lt (h : ∀ c ∈ ds, c.isDigit = true) : ofDigits ds < 10 ^ ds.length := by
  have hlt := ofDigitChars_lt h 0
  rwa [Nat.zero_add, Nat.one_mul] at hlt

theorem ofDigits_take_eq_div {k j : Nat} (h : ∀ c ∈ ds, c.isDigit = true) (hlength : ds.length = k + j) :
    ofDigits (ds.take k) = ofDigits ds / 10 ^ j := by
  have hdrop : (ds.drop k).length = j := by
    rw [List.length_drop]
    omega
  have hlast := ofDigits_lt fun c hc => h c (List.mem_of_mem_drop (i := k) hc)
  have hsplit := ofDigits_append (ds.take k) (ds.drop k)
  rw [List.take_append_drop, hdrop] at hsplit
  rw [hdrop] at hlast
  rw [hsplit, Nat.add_comm, Nat.add_mul_div_right _ _ (Nat.pow_pos (by decide)), Nat.div_eq_of_lt hlast, Nat.zero_add]

theorem ofDigits_take {n k j : Nat} (h : ∀ c ∈ ds, c.isDigit = true) (hlength : ds.length = k + j)
    (hn : ofDigits ds = n) (hmultiple : n % 10 ^ j = 0) : ofDigits (ds.take k) * 10 ^ j = n := by
  rw [ofDigits_take_eq_div h hlength, hn, Nat.div_mul_cancel (Nat.dvd_of_mod_eq_zero hmultiple)]

end Text

namespace Time

open Text (ofDigits skipBlanks isBlank)

variable {ds : List Char} (rest : List Char)

theorem isBlank_of_isDigit {c : Char} (h : c.isDigit = true) : isBlank c = false := by
  have hlow : 48 ≤ c.toNat := (Char.isDigit_iff_toNat.1 h).1
  have hhigh : c.toNat ≤ 57 := (Char.isDigit_iff_toNat.1 h).2
  simp only [isBlank, Bool.or_eq_false_iff, Bool.and_eq_false_iff, decide_eq_false_iff_not, beq_eq_false_iff_ne]
  omega

theorem skipBlanks_cons {c : Char} (h : isBlank c = false) (cs : List Char) : skipBlanks (c :: cs) = c :: cs :=
  List.dropWhile_cons_of_neg (by simp [h])

theorem digits_append {limit : Nat} (hne : ds ≠ []) (hdigits : ∀ c ∈ ds, c.isDigit = true)
    (hlength : ds.length = limit ∨ ds.length ≤ limit ∧ ∀ c ∈ rest.head?, c.isDigit = false) :
    digits limit (ds ++ rest) = .ok (ds, rest) := by
  have htake : ((ds ++ rest).takeWhile Char.isDigit).take limit = ds := by
    rw [List.takeWhile_append_of_pos hdigits]
    rcases hlength with rfl | ⟨hle, hhead⟩
    · exact List.take_left
    · have hrest : rest.takeWhile Char.isDigit = [] := by
        cases rest with
        | nil => rfl
        | cons c r => simp [hhead c rfl]
      rw [hrest, List.append_nil, List.take_of_length_le hle]
  obtain ⟨d, ds, rfl⟩ := List.exists_cons_of_ne_nil hne
  rw [digits, htake]
  simp

theorem isDigit_twoDigits {n : Nat} (h : n < 100) : ∀ c ∈ twoDigits n, c.isDigit = true := by
  have hall : ∀ n < 100, (twoDigits n).all Char.isDigit = true := by decide
  exact List.all_eq_true.1 (hall n h)

theorem ofDigits_twoDigits {n : Nat} (h : n < 100) : ofDigits (twoDigits n) = n := by
  revert n
  decide

theorem digits_of_ok {cs rest : List Char} {limit : Nat} (h : Time.digits limit cs = .ok (ds, rest)) :
    cs = ds ++ rest ∧ ds ≠ [] ∧ ds.length ≤ limit ∧ ∀ c ∈ ds, c.isDigit = true := by
  simp only [Time.digits] at h
  split at h
  · contradiction
  split at h
  · contradiction
  rename_i hne
  obtain ⟨rfl, rfl⟩ := Prod.mk.inj (Except.ok.inj h)
  have hhead : (cs.takeWhile Char.isDigit).take limit <+: cs := (List.take_prefix _ _).trans (List.takeWhile_prefix _)
  refine ⟨(List.prefix_iff_eq_append.1 hhead).symm, by simpa using hne, List.length_take_le _ _, fun c hc => ?_⟩
  exact List.all_eq_true.1 List.all_takeWhile c (List.mem_of_mem_take hc)

section Field

variable {cs rest : List Char} {low high n : Nat}

structure Figures (n : Nat) (ds : List Char) : Prop where
  ne_nil : ds ≠ []
  length : ds.length ≤ 2
  digits : ∀ c ∈ ds, c.isDigit = true
  value : ofDigits ds = n

theorem figures_twoDigits (h : n < 100) : Figures n (twoDigits n) :=
  ⟨List.cons_ne_nil _ _, Nat.le_refl 2, isDigit_twoDigits h, ofDigits_twoDigits h⟩

theorem figures_of_field (h : field low high cs = .ok (n, rest)) :
    ∃ ds, skipBlanks cs = ds ++ rest ∧ Figures n ds ∧ n ≤ high := by
  obtain ⟨⟨ds, rest'⟩, hdigits, h⟩ := exists_of_bind_ok h
  simp only at h
  split at h
  · contradiction
  · rename_i hrange
    obtain ⟨rfl, rfl⟩ := Prod.mk.inj (Except.ok.inj h)
    obtain ⟨hsplit, hne, hlength, hall⟩ := digits_of_ok hdigits
    exact ⟨ds, hsplit, ⟨hne, hlength, hall, rfl⟩, by omega⟩

theorem field_of_figures (rest : List Char) (h : Figures n ds) (hlow : low ≤ n) (hhigh : n ≤ high)
    (hrest : ds.length = 2 ∨ ∀ c ∈ rest.head?, c.isDigit = false) : field low high (ds ++ rest) = .ok (n, rest) := by
  have hskip : skipBlanks (ds ++ rest) = ds ++ rest := by
    obtain ⟨d, ds, rfl⟩ := List.exists_cons_of_ne_nil h.ne_nil
    exact skipBlanks_cons (isBlank_of_isDigit (h.digits d List.mem_cons_self)) _
  rw [field, hskip, digits_append rest h.ne_nil h.digits (hrest.imp_right fun hhead => ⟨h.length, hhead⟩)]
  simp only [bind, Except.bind, h.value]
  rw [if_neg (by omega)]

theorem field_append_of_blank {bs : List Char} (h : ∀ b ∈ bs, isBlank b = true) :
    field low high (bs ++ cs) = field low high cs := by
  rw [field, field, skipBlanks, List.dropWhile_append_of_pos h]
  rfl

theorem mark_of_ok {c : Char} (h : mark c cs = .ok rest) : cs = c :: rest := by
  cases cs with
  | nil => contradiction
  | cons d cs =>
    rw [mark] at h
    split at h
    · rename_i hd
      rw [hd, Except.ok.inj h]
    · contradiction

end Field

theorem field_twoDigits {low high n : Nat} (hlow : low ≤ n) (hhigh : n ≤ high) (hn : n < 100) :
    field low high (twoDigits n ++ rest) = .ok (n, rest) :=
  field_of_figures rest (figures_twoDigits hn) hlow hhigh (.inl rfl)

theorem mark_cons (c : Char) : mark c (c :: rest) = .ok rest := if_pos rfl

end Time

end AccessPolicy
