import AccessPolicy.Proofs.Binary64.Decimals
import AccessPolicy.Proofs.Time.Scan
import AccessPolicy.Proofs.Value.Rereading
import AccessPolicy.Proofs.Value.Sameness

namespace AccessPolicy

open Json (takeWhile_isDigit dropWhile_isDigit isDigit_toDigits toList_toString)
open Text (ofDigits)

theorem Magnitude.eq_infinity_of_not_isFinite {m : Magnitude} (h : m.isFinite = false) : m = .infinity := by
  have hrank : m.rank = 2047 <<< 52 := by
    have hle := m.rank_le
    rw [isFinite, decide_eq_false_iff_not] at h
    omega
  exact eq_of_rank_eq hrank

namespace Decimal

theorem exists_digits_eq (d : Decimal) : ∃ k, d.digits = d.figures.1 ++ List.replicate k '0' := by
  have hzeros : ∀ c ∈ d.digits.reverse.takeWhile (· == '0'), c = '0' := fun c hc => by
    simpa using List.mem_takeWhile_imp hc
  refine ⟨(d.digits.reverse.takeWhile (· == '0')).length, ?_⟩
  calc d.digits = (d.digits.reverse.takeWhile (· == '0') ++ d.digits.reverse.dropWhile (· == '0')).reverse := by
        rw [List.takeWhile_append_dropWhile, List.reverse_reverse]
    _ = d.figures.1 ++ (d.digits.reverse.takeWhile (· == '0')).reverse := List.reverse_append
    _ = d.figures.1 ++ List.replicate (d.digits.reverse.takeWhile (· == '0')).length '0' := by
        rw [List.eq_replicate_of_mem hzeros, List.reverse_replicate, List.length_replicate]

theorem toMagnitude_figures {d : Decimal} {ds : List Char} {point : Int} (h : d.figures = (ds, point)) :
    (⟨ofDigits ds, point - ds.length⟩ : Decimal).toMagnitude = d.toMagnitude := by
  obtain ⟨k, hdigits⟩ := d.exists_digits_eq
  rw [h] at hdigits
  have hpoint : point = d.digits.length + d.exponent := (congrArg Prod.snd h).symm
  have hcoefficient : ofDigits ds * 10 ^ k = d.coefficient := by
    calc ofDigits ds * 10 ^ k = ofDigits (ds ++ List.replicate k '0') := by
          rw [Text.ofDigits_eq (ds ++ _), Nat.ofDigitChars_append, Nat.ofDigitChars_replicate_zero, Nat.mul_comm]
          rfl
      _ = d.coefficient := by
          rw [← hdigits]
          exact Nat.ofDigitChars_toDigits (by decide) (by decide)
  have hexponent : point - ds.length = d.exponent + k := by
    rw [hpoint, hdigits, List.length_append, List.length_replicate]
    push_cast
    omega
  rw [hexponent, ← toMagnitude_mul_pow, hcoefficient]

end Decimal

namespace Layout

theorem ofDigits_zeros_append (n : Nat) (ds : List Char) : ofDigits (zeros n ++ ds) = ofDigits ds := by
  rw [Text.ofDigits_eq, zeros, Nat.ofDigitChars_append, Nat.ofDigitChars_replicate_zero, Nat.mul_zero]
  rfl

theorem ofDigits_append_zeros (n : Nat) (ds : List Char) : ofDigits (ds ++ zeros n) = ofDigits ds * 10 ^ n := by
  rw [Text.ofDigits_eq, zeros, Nat.ofDigitChars_append, Nat.ofDigitChars_replicate_zero, Nat.mul_comm]
  rfl

theorem exists_inPlace_eq_cons {c : Char} {cs : List Char} (hc : c.isDigit = true) (point : Int) :
    ∃ d ds, inPlace [] (c :: cs) point = d :: ds ∧ d.isDigit = true := by
  unfold inPlace
  split
  · exact ⟨'0', _, rfl, rfl⟩
  split
  · exact ⟨c, _, rfl, hc⟩
  · obtain ⟨k, hk⟩ : ∃ k, point.toNat = k + 1 := ⟨point.toNat - 1, by omega⟩
    rw [hk]
    exact ⟨c, _, rfl, hc⟩

end Layout

namespace Binary64

open Layout (zeros inPlace isDigit_zeros)

section Reading

variable {whole fraction : List Char} (hwhole : whole ≠ []) (hdigits : ∀ c ∈ whole, c.isDigit = true)

include hwhole hdigits

theorem unsigned?_digits : unsigned? whole = some ⟨ofDigits whole, 0⟩ := by
  have htake : (whole ++ []).takeWhile Char.isDigit = whole := takeWhile_isDigit (by simp) hdigits
  have hdrop : (whole ++ []).dropWhile Char.isDigit = [] := dropWhile_isDigit (by simp) hdigits
  rw [List.append_nil] at htake hdrop
  simp [unsigned?, htake, hdrop, hwhole]

theorem unsigned?_point (hfraction : ∀ c ∈ fraction, c.isDigit = true) :
    unsigned? (whole ++ '.' :: fraction) = some ⟨ofDigits (whole ++ fraction), -fraction.length⟩ := by
  have hpoint : ∀ c ∈ ('.' :: fraction).head?, c.isDigit = false := by simp
  have htake : (fraction ++ []).takeWhile Char.isDigit = fraction := takeWhile_isDigit (by simp) hfraction
  have hdrop : (fraction ++ []).dropWhile Char.isDigit = [] := dropWhile_isDigit (by simp) hfraction
  rw [List.append_nil] at htake hdrop
  simp [unsigned?, takeWhile_isDigit hpoint hdigits, dropWhile_isDigit hpoint hdigits, htake, hdrop, hwhole]

end Reading

theorem exists_unsigned?_inPlace {ds : List Char} (hne : ds ≠ []) (hdigits : ∀ c ∈ ds, c.isDigit = true) (point : Int) :
    ∃ d, unsigned? (inPlace [] ds point) = some d ∧
      d.toMagnitude = (⟨ofDigits ds, point - ds.length⟩ : Decimal).toMagnitude := by
  unfold inPlace
  -- the point stands before all digits, after all of them, or among them
  by_cases hpoint : point ≤ 0
  · have hzeros : ∀ c ∈ zeros (-point).toNat ++ ds, c.isDigit = true := fun c hc =>
      (List.mem_append.1 hc).elim (isDigit_zeros _ c) (hdigits c)
    have hlength : -((zeros (-point).toNat ++ ds).length : Int) = point - ds.length := by
      rw [List.length_append, zeros, List.length_replicate]
      push_cast
      omega
    have hvalue : ofDigits (['0'] ++ (zeros (-point).toNat ++ ds)) = ofDigits ds :=
      (Layout.ofDigits_zeros_append 1 _).trans (Layout.ofDigits_zeros_append _ ds)
    have hread := unsigned?_point (List.cons_ne_nil '0' []) (isDigit_zeros 1) hzeros
    rw [if_pos hpoint]
    refine ⟨_, hread, ?_⟩
    rw [hlength, hvalue]
  rw [if_neg hpoint]
  by_cases hlong : ds.length ≤ point.toNat
  · have hwhole : ∀ c ∈ ds ++ zeros (point.toNat - ds.length), c.isDigit = true := fun c hc =>
      (List.mem_append.1 hc).elim (hdigits c) (isDigit_zeros _ c)
    have hexponent : (0 : Int) + (point.toNat - ds.length : Nat) = point - ds.length := by omega
    rw [if_pos hlong, List.append_nil]
    refine ⟨_, unsigned?_digits (by simp [hne]) hwhole, ?_⟩
    rw [Layout.ofDigits_append_zeros, Decimal.toMagnitude_mul_pow, hexponent]
  · have hfirst : ds.take point.toNat ≠ [] := by
      rw [Ne, List.take_eq_nil_iff]
      exact fun h => h.elim (by omega) hne
    have hlength : -((ds.drop point.toNat).length : Int) = point - ds.length := by
      rw [List.length_drop]
      omega
    rw [if_neg hlong]
    refine ⟨_, unsigned?_point hfirst (fun c hc => hdigits c (List.mem_of_mem_take hc))
      (fun c hc => hdigits c (List.mem_of_mem_drop hc)), ?_⟩
    rw [hlength, List.take_append_drop]

theorem toLower_of_isDigit {c : Char} (h : c.isDigit = true) : c.toLower = c := by
  simp only [Char.isDigit, Bool.and_eq_true, decide_eq_true_eq, UInt32.le_iff_toNat_le] at h
  have hhigh : c.val.toNat ≤ 57 := h.2
  unfold Char.toLower
  rw [dif_neg]
  rintro ⟨hlow, -⟩
  have hlow : 65 ≤ c.val.toNat := hlow
  omega

theorem ofText?_of_digit (negative : Bool) {c : Char} (hc : c.isDigit = true) (cs : List Char) :
    ofText? (String.ofList (Layout.sign negative ++ c :: cs)) =
      (unsigned? (c :: cs)).map (ofDecimal negative) := by
  have hsign : c ≠ '-' ∧ c ≠ '+' := ⟨Json.ne_of_isDigit hc rfl, Json.ne_of_isDigit hc rfl⟩
  have hword (w : Char) (ws : List Char) (hw : w.isDigit = false) :
      String.ofList ((c :: cs).map Char.toLower) ≠ String.ofList (w :: ws) := by
    intro h
    have hhead := congrArg String.toList h
    rw [String.toList_ofList, String.toList_ofList, List.map_cons, toLower_of_isDigit hc] at hhead
    exact Json.ne_of_isDigit hc hw (List.cons.inj hhead).1
  have hnan : (String.ofList ((c :: cs).map Char.toLower) == "nan") = false := beq_false_of_ne (hword 'n' _ rfl)
  have hinf : (String.ofList ((c :: cs).map Char.toLower) == "inf") = false := beq_false_of_ne (hword 'i' _ rfl)
  have hinfinity : (String.ofList ((c :: cs).map Char.toLower) == "infinity") = false :=
    beq_false_of_ne (hword 'i' _ rfl)
  cases negative with
  | true =>
    simp only [ofText?, Layout.sign, String.toList_ofList, if_true, List.cons_append, List.nil_append, hnan, hinf,
      hinfinity, Bool.or_self, Bool.false_eq_true, if_false]
  | false =>
    simp only [ofText?, Layout.sign, String.toList_ofList, Bool.false_eq_true, if_false, List.nil_append]
    split
    · exact absurd (List.cons.inj ‹_›).1 hsign.1
    · exact absurd (List.cons.inj ‹_›).1 hsign.2
    · simp only [hnan, hinf, hinfinity, Bool.or_self, Bool.false_eq_true, if_false]

theorem toMagnitude_whole {n : Nat} (h : n < 2 ^ 53) : (⟨n, 0⟩ : Decimal).toMagnitude = .ofNat n := by
  by_cases hzero : n = 0
  · rw [hzero]
    decide +kernel
  have hlength : (Nat.toDigits 10 n).length ≤ 16 := by
    rw [Nat.length_toDigits_le_iff (by decide) (by decide)]
    omega
  have htop : ¬ 10000 < Decimal.top ⟨n, 0⟩ ∧ ¬ Decimal.top ⟨n, 0⟩ < -10000 := by
    simp only [Decimal.top, Decimal.digits]
    omega
  rw [Decimal.toMagnitude_eq hzero, if_neg htop.1, if_neg htop.2, Int.toNat_zero, Int.neg_zero, Int.toNat_zero,
    Nat.pow_zero, Nat.mul_one, Magnitude.ofNat]

theorem ofText?_integer {i : Int} (h : i.natAbs < 2 ^ 53) :
    ofText? (String.ofList (toString i).toList) = some (ofInt i) := by
  obtain ⟨c, cs, hdigits, -⟩ := Json.toDigits_leading i.natAbs
  have hdigit := isDigit_toDigits i.natAbs
  have hvalue : ofDigits (Nat.toDigits 10 i.natAbs) = i.natAbs := Nat.ofDigitChars_toDigits (by decide) (by decide)
  have hsign : (if i < 0 then ['-'] else []) = Layout.sign (decide (i < 0)) := by
    by_cases hi : i < 0 <;> simp [Layout.sign, hi]
  have hread := ofText?_of_digit (decide (i < 0)) (hdigit c (hdigits ▸ List.mem_cons_self)) cs
  rw [← hdigits] at hread
  rw [toList_toString, hsign, hread, unsigned?_digits Nat.toDigits_ne_nil hdigit, hvalue, Option.map_some, ofDecimal,
    toMagnitude_whole h, ofInt]

theorem ofText?_finite (negative : Bool) {m : Magnitude} (hm : m ≠ .zero) (hfinite : m.isFinite = true) :
    ofText? (String.ofList (Layout.sign negative ++ displayLayout.magnitude m)) = some (.signed negative m) := by
  obtain ⟨c, cs, hfigures, -, hdigits⟩ := Decimal.exists_figures (m.coefficient_shortest hm .up)
  obtain ⟨⟨ds, point⟩, hpair⟩ : ∃ pair, (m.shortest .up).figures = pair := ⟨_, rfl⟩
  obtain rfl : ds = c :: cs := by rw [← hfigures, hpair]
  have htext : displayLayout.magnitude m = inPlace [] (c :: cs) point := by
    simp [Layout.magnitude, displayLayout, hpair]
  obtain ⟨e, es, hhead, he⟩ : ∃ e es, inPlace [] (c :: cs) point = e :: es ∧ e.isDigit = true :=
    Layout.exists_inPlace_eq_cons (hdigits c List.mem_cons_self) point
  obtain ⟨d, hread, hvalue⟩ := exists_unsigned?_inPlace (List.cons_ne_nil c cs) hdigits point
  rw [htext, hhead, ofText?_of_digit negative he, ← hhead, hread, Option.map_some, ofDecimal, hvalue,
    Decimal.toMagnitude_figures hpair, Magnitude.toMagnitude_shortest hfinite]

theorem ofText?_displayText (x : Binary64) :
    ∃ y, ofText? (String.ofList x.displayText) = some y ∧ y.place = x.place := by
  cases hinteger : x.integer? with
  | some i =>
    obtain ⟨hsame, hsize⟩ := same_ofInt hinteger
    have htext : x.displayText = (toString i).toList := by simp [displayText, hinteger]
    exact ⟨ofInt i, by rw [htext, ofText?_integer hsize], place_eq_of_same hsame⟩
  | none =>
    cases x with
    | nan => exact ⟨.nan, by decide +kernel, rfl⟩
    | signed negative m =>
      refine ⟨.signed negative m, ?_, rfl⟩
      cases hfinite : m.isFinite with
      | true =>
        have htext : (signed negative m).displayText = Layout.sign negative ++ displayLayout.magnitude m := by
          simp [displayText, hinteger, hfinite]
        rw [htext, ofText?_finite negative (ne_zero_of_integer? hinteger) hfinite]
      | false =>
        obtain rfl : m = .infinity := Magnitude.eq_infinity_of_not_isFinite hfinite
        cases negative <;> decide +kernel

theorem place_eq_of_displayText_eq {x y : Binary64} (h : x.displayText = y.displayText) : x.place = y.place := by
  obtain ⟨x', hx, hxplace⟩ := x.ofText?_displayText
  obtain ⟨y', hy, hyplace⟩ := y.ofText?_displayText
  rw [h, hy] at hx
  rw [← hxplace, ← hyplace, Option.some.inj hx]

end Binary64

end AccessPolicy
