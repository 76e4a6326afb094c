import AccessPolicy.Proofs.Documents.Inputs
import Mathlib.Data.String.Basic

namespace AccessPolicy

section Lexicographic

variable {α β : Type} [LinearOrder α] [LinearOrder β]

theorem then_eq_compare {a b : α} {x y : β} {o : Ordering} (hlt : a < b → x < y) (hgt : b < a → y < x)
    (heq : a = b → o = compare x y) : (compare a b).then o = compare x y := by
  cases hab : compare a b with
  | lt => exact (compare_lt_iff_lt.2 (hlt (compare_lt_iff_lt.1 hab))).symm
  | eq => exact heq (compare_eq_iff_eq.1 hab)
  | gt => exact (compare_gt_iff_gt.2 (hgt (compare_gt_iff_gt.1 hab))).symm

theorem compare_eq_compare {a b : α} {x y : β} (hlt : a < b → x < y) (hgt : b < a → y < x) (heq : a = b → x = y) :
    compare a b = compare x y := by
  have hcompare := then_eq_compare (o := .eq) hlt hgt fun h => (compare_eq_iff_eq.2 (heq h)).symm
  rwa [Ordering.then_eq] at hcompare

end Lexicographic

namespace Text

variable {a b : List Char} (c d : List Char)

theorem compare_eq_lt_of_lt (h : a < b) : compare a b = .lt := by
  induction a generalizing b with
  | nil =>
    cases b with
    | nil => exact absurd h (List.lt_irrefl [])
    | cons y ys => rfl
  | cons x xs ih =>
    cases b with
    | nil => exact absurd h (List.not_lt_nil _)
    | cons y ys =>
      rw [List.compare_cons_cons, Ordering.then_eq_lt]
      rcases List.cons_lt_cons_iff.1 h with hlt | ⟨rfl, hlt⟩
      · exact .inl (compare_lt_iff_lt.2 hlt)
      · exact .inr ⟨compare_eq_iff_eq.2 rfl, ih hlt⟩

theorem compare_ofList (a b : List Char) : compare (String.ofList a) (String.ofList b) = compare a b := by
  have hlt {a b : List Char} (h : String.ofList a < String.ofList b) : compare a b = .lt := by
    rw [String.lt_iff_toList_lt, String.toList_ofList, String.toList_ofList] at h
    exact compare_eq_lt_of_lt h
  rcases lt_trichotomy (String.ofList a) (String.ofList b) with h | h | h
  · rw [hlt h, compare_lt_iff_lt.2 h]
  · obtain rfl := String.ofList_injective h
    rw [Std.compare_self, Std.compare_self]
  · rw [Std.OrientedOrd.eq_swap (a := a), hlt h, compare_gt_iff_gt.2 h]
    rfl

theorem compare_append (h : a.length = b.length) : compare (a ++ c) (b ++ d) = (compare a b).then (compare c d) := by
  induction a generalizing b with
  | nil =>
    obtain rfl := List.length_eq_zero_iff.1 h.symm
    rfl
  | cons x xs ih =>
    cases b with
    | nil => exact absurd h (Nat.succ_ne_zero _)
    | cons y ys =>
      rw [List.cons_append, List.cons_append, List.compare_cons_cons, List.compare_cons_cons,
        ih (Nat.succ.inj h), Ordering.then_assoc]

theorem compare_cons (x : Char) : compare (x :: c) (x :: d) = compare c d := by
  rw [List.compare_cons_cons, Std.compare_self]
  rfl

theorem compare_digitValue {x y : Char} (hx : x.isDigit = true) (hy : y.isDigit = true) :
    compare x y = compare (digitValue x) (digitValue y) := by
  have hlt {x y : Char} (hx : x.isDigit = true) (h : x < y) : digitValue x < digitValue y := by
    have hlow : 48 ≤ x.toNat := (Char.isDigit_iff_toNat.1 hx).1
    have hcodes : x.toNat < y.toNat := h
    unfold digitValue
    omega
  exact compare_eq_compare (hlt hx) (hlt hy) (congrArg digitValue)

theorem ofDigits_cons_lt {d e : Char} {ds es : List Char} (hds : ∀ c ∈ ds, c.isDigit = true)
    (hlength : ds.length = es.length) (h : digitValue d < digitValue e) : ofDigits (d :: ds) < ofDigits (e :: es) := by
  rw [ofDigits_cons, ofDigits_cons, ← hlength]
  calc digitValue d * 10 ^ ds.length + ofDigits ds
      < digitValue d * 10 ^ ds.length + 10 ^ ds.length := Nat.add_lt_add_left (ofDigits_lt hds) _
    _ = (digitValue d + 1) * 10 ^ ds.length := (Nat.succ_mul _ _).symm
    _ ≤ digitValue e * 10 ^ ds.length := Nat.mul_le_mul_right _ h
    _ ≤ digitValue e * 10 ^ ds.length + ofDigits es := Nat.le_add_right _ _

theorem compare_digits {ds es : List Char} (hds : ∀ c ∈ ds, c.isDigit = true) (hes : ∀ c ∈ es, c.isDigit = true)
    (hlength : ds.length = es.length) : compare ds es = compare (ofDigits ds) (ofDigits es) := by
  induction ds generalizing es with
  | nil =>
    obtain rfl := List.length_eq_zero_iff.1 hlength.symm
    rfl
  | cons d ds ih =>
    cases es with
    | nil => exact absurd hlength (Nat.succ_ne_zero _)
    | cons e es =>
      obtain ⟨hd, hds⟩ := List.forall_mem_cons.1 hds
      obtain ⟨he, hes⟩ := List.forall_mem_cons.1 hes
      have hlength : ds.length = es.length := Nat.succ.inj hlength
      rw [List.compare_cons_cons, compare_digitValue hd he, ih hds hes hlength]
      refine then_eq_compare (ofDigits_cons_lt hds hlength) (ofDigits_cons_lt hes hlength.symm) fun hhead => ?_
      rw [ofDigits_cons, ofDigits_cons, hhead, hlength]
      exact compare_eq_compare (Nat.add_lt_add_left · _) (Nat.add_lt_add_left · _) (congrArg _)

theorem compare_digits_append {ds es : List Char} (hds : ∀ c ∈ ds, c.isDigit = true)
    (hes : ∀ c ∈ es, c.isDigit = true) (hlength : ds.length = es.length) :
    compare (ds ++ c) (es ++ d) = (compare (ofDigits ds) (ofDigits es)).then (compare c d) := by
  rw [compare_append c d hlength, compare_digits hds hes hlength]

end Text

namespace Date

def compare (d e : Date) : Ordering :=
  (Ord.compare d.year e.year).then ((Ord.compare d.month e.month).then (Ord.compare d.day e.day))

theorem lt_of_yearOf_lt {m n : Int} (h : yearOf m < yearOf n) : m < n :=
  calc m < daysBeforeYear (yearOf m + 1) := (daysBeforeYear_yearOf m).2
    _ ≤ daysBeforeYear (yearOf n) := daysBeforeYear_mono h
    _ ≤ n := (daysBeforeYear_yearOf n).1

theorem take_sum_add_le_take_sum {ls : List Nat} {j k l : Nat} (h : ls[j]? = some l) (hjk : j < k) :
    (ls.take j).sum + l ≤ (ls.take k).sum := by
  have htake : (ls.take k)[j]? = some l := by rw [List.getElem?_take_of_lt hjk, h]
  have hsum := take_sum_add_le htake
  rwa [List.take_take, Nat.min_eq_left (Nat.le_of_lt hjk)] at hsum

theorem compare_ofDay (m n : Int) : (ofDay m).compare (ofDay n) = Ord.compare m n := by
  obtain ⟨j, d, l, hm, hpos, hl, hd, hsum⟩ := ofDay_cases m
  obtain ⟨k, e, l', hn, hpos', hl', he, hsum'⟩ := ofDay_cases n
  have hyear := lt_of_yearOf_lt (m := m + daysBefore1970) (n := n + daysBefore1970)
  have hyear' := lt_of_yearOf_lt (m := n + daysBefore1970) (n := m + daysBefore1970)
  rw [hm, hn]
  simp only [compare]
  generalize yearOf (m + daysBefore1970) = y at *
  generalize yearOf (n + daysBefore1970) = z at *
  refine then_eq_compare (fun h => ?_) (fun h => ?_) fun h => ?_
  · exact Int.lt_of_add_lt_add_right (hyear h)
  · exact Int.lt_of_add_lt_add_right (hyear' h)
  · obtain rfl : y = z := h
    -- a day of an earlier month comes before the first day of every later one
    refine then_eq_compare (fun h => ?_) (fun h => ?_) fun h => ?_
    · have hmonths := take_sum_add_le_take_sum hl (Nat.lt_of_succ_lt_succ h)
      omega
    · have hmonths := take_sum_add_le_take_sum hl' (Nat.lt_of_succ_lt_succ h)
      omega
    · obtain rfl := Nat.succ.inj h
      exact compare_eq_compare (by omega) (by omega) (by omega)

end Date

namespace Timestamp

open Text Time

section Fraction

variable {m n : Nat} {sign : Char} (zone : List Char)

def places (n : Nat) : Nat := if n = 0 then 0 else if n % 1000000 = 0 then 3 else if n % 1000 = 0 then 6 else 9

theorem fractionChars_eq (hn : n < 1000000000) : fractionChars n =
    if n = 0 then [] else '.' :: (padded 9 (Nat.toDigits 10 n)).take (places n) := by
  have hlength := length_padded (w := 9) (by decide) hn
  simp only [fractionChars, places]
  split
  · rfl
  · split
    · rfl
    · split
      · rfl
      · rw [List.take_of_length_le (Nat.le_of_eq hlength)]

theorem places_le (n : Nat) : places n ≤ 9 := by
  unfold places
  split_ifs <;> decide

theorem mod_places (n : Nat) : n % 10 ^ (9 - places n) = 0 := by
  unfold places
  split_ifs <;> simp_all [Nat.mod_one]

theorem mod_ne_zero_of_places_lt (hn : n < 1000000000) (h : places m < places n) : n % 10 ^ (9 - places m) ≠ 0 := by
  unfold places at *
  split_ifs at * <;> simp_all [Nat.mod_eq_of_lt]

theorem ofDigits_take_padded (hn : n < 1000000000) {k : Nat} (hk : k ≤ 9) :
    ofDigits ((padded 9 (Nat.toDigits 10 n)).take k) = n / 10 ^ (9 - k) := by
  have hlength := length_padded (w := 9) (by decide) hn
  rw [ofDigits_take_eq_div (j := 9 - k) (isDigit_padded 9 n) (by omega), ofDigits_padded]

theorem compare_take_padded_append (hm : m < 1000000000) (hn : n < 1000000000) {k : Nat} (hk : k ≤ 9)
    (cs ds : List Char) :
    compare ((padded 9 (Nat.toDigits 10 m)).take k ++ cs) ((padded 9 (Nat.toDigits 10 n)).take k ++ ds) =
      (compare (m / 10 ^ (9 - k)) (n / 10 ^ (9 - k))).then (compare cs ds) := by
  have hdigits (n : Nat) : ∀ c ∈ (padded 9 (Nat.toDigits 10 n)).take k, c.isDigit = true :=
    fun c hc => isDigit_padded 9 n c (List.mem_of_mem_take hc)
  rw [compare_digits_append cs ds (hdigits m) (hdigits n), ofDigits_take_padded hm hk, ofDigits_take_padded hn hk]
  rw [List.length_take, List.length_take, length_padded (w := 9) (by decide) hm, length_padded (w := 9) (by decide) hn]

theorem compare_div_eq_compare {q : Nat} (hm : m % q = 0) (hn : n % q = 0) : compare (m / q) (n / q) = compare m n := by
  refine compare_eq_compare Nat.lt_of_div_lt_div Nat.lt_of_div_lt_div fun h => ?_
  rw [← Nat.div_add_mod m q, ← Nat.div_add_mod n q, hm, hn, h]

theorem compare_div_then_lt {q : Nat} (hm : m % q = 0) (hn : n % q ≠ 0) :
    (compare (m / q) (n / q)).then .lt = compare m n := by
  refine then_eq_compare Nat.lt_of_div_lt_div Nat.lt_of_div_lt_div fun h => (compare_lt_iff_lt.2 ?_).symm
  calc m = q * (m / q) + m % q := (Nat.div_add_mod m q).symm
    _ = q * (n / q) := by rw [hm, h, Nat.add_zero]
    _ < q * (n / q) + n % q := Nat.lt_add_of_pos_right (Nat.pos_of_ne_zero hn)
    _ = n := Nat.div_add_mod n q

theorem lt_of_isDigit {c : Char} (hsign : sign < '.') (hc : c.isDigit = true) : sign < c :=
  calc sign < '.' := hsign
    _ < '0' := by decide
    _ ≤ c := (Char.isDigit_iff_toNat.1 hc).1

theorem exists_take_padded (hn : n < 1000000000) {j k : Nat} (hjk : j < k) (hk : k ≤ 9) :
    ∃ c cs, c.isDigit = true ∧
      (padded 9 (Nat.toDigits 10 n)).take k = (padded 9 (Nat.toDigits 10 n)).take j ++ c :: cs := by
  have hlength := length_padded (w := 9) (by decide) hn
  have hdigits := isDigit_padded 9 n
  generalize padded 9 (Nat.toDigits 10 n) = ds at *
  have hj : j < ds.length := by omega
  obtain ⟨i, rfl⟩ := Nat.exists_eq_add_of_lt hjk
  refine ⟨ds[j], (ds.drop (j + 1)).take i, hdigits _ (List.getElem_mem hj), ?_⟩
  rw [Nat.add_assoc, List.take_add, List.drop_eq_getElem_cons hj, List.take_succ_cons]

theorem compare_fraction_of_places_lt (hm : m < 1000000000) (hn : n < 1000000000) (hsign : sign < '.')
    (h : places m < places n) :
    compare (fractionChars m ++ sign :: zone) (fractionChars n ++ sign :: zone) = compare m n := by
  have hn0 : n ≠ 0 := by
    rintro rfl
    exact absurd h (Nat.not_lt_zero _)
  rw [fractionChars_eq hm, fractionChars_eq hn, if_neg hn0]
  by_cases hm0 : m = 0
  · subst hm0
    rw [if_pos rfl, List.nil_append, List.cons_append, List.compare_cons_cons, compare_lt_iff_lt.2 hsign]
    exact (compare_lt_iff_lt.2 (Nat.pos_of_ne_zero hn0)).symm
  · obtain ⟨c, cs, hc, hlonger⟩ := exists_take_padded hn h (places_le n)
    rw [if_neg hm0, hlonger, List.cons_append, List.cons_append, compare_cons, List.append_assoc,
      compare_take_padded_append hm hn (places_le m), List.cons_append, List.compare_cons_cons,
      compare_lt_iff_lt.2 (lt_of_isDigit hsign hc)]
    exact compare_div_then_lt (mod_places m) (mod_ne_zero_of_places_lt hn h)

theorem compare_fraction_of_places_eq (hm : m < 1000000000) (hn : n < 1000000000) (h : places m = places n) :
    compare (fractionChars m ++ zone) (fractionChars n ++ zone) = compare m n := by
  have hzero (n : Nat) : places n = 0 ↔ n = 0 := by
    unfold places
    split_ifs <;> simp_all
  rw [fractionChars_eq hm, fractionChars_eq hn]
  by_cases hn0 : n = 0
  · have hm0 : m = 0 := (hzero m).1 (h.trans ((hzero n).2 hn0))
    rw [hm0, hn0, Std.compare_self, Std.compare_self]
  · have hm0 : m ≠ 0 := fun hm0 => hn0 ((hzero n).1 (h.symm.trans ((hzero m).2 hm0)))
    rw [if_neg hm0, if_neg hn0, List.cons_append, List.cons_append, compare_cons, h,
      compare_take_padded_append hm hn (places_le n), Std.compare_self, Ordering.then_eq]
    exact compare_div_eq_compare (h ▸ mod_places m) (mod_places n)

theorem compare_fraction (hm : m < 1000000000) (hn : n < 1000000000) (hsign : sign < '.') :
    compare (fractionChars m ++ sign :: zone) (fractionChars n ++ sign :: zone) = compare m n := by
  rcases Nat.lt_trichotomy (places m) (places n) with h | h | h
  · exact compare_fraction_of_places_lt zone hm hn hsign h
  · exact compare_fraction_of_places_eq (sign :: zone) hm hn h
  · rw [Std.OrientedOrd.eq_swap, compare_fraction_of_places_lt zone hn hm hsign h, ← Std.OrientedOrd.eq_swap]

end Fraction

section Parts

theorem compare_yearChars_append {y z : Int} (hy : 0 ≤ y ∧ y ≤ 9999) (hz : 0 ≤ z ∧ z ≤ 9999) (cs ds : List Char) :
    compare (yearChars y ++ cs) (yearChars z ++ ds) = (compare y z).then (compare cs ds) := by
  have hchars {y : Int} (hy : 0 ≤ y ∧ y ≤ 9999) : yearChars y = padded 4 (Nat.toDigits 10 y.natAbs) := by
    rw [yearChars, if_neg (Int.not_lt.2 hy.1), if_neg (Int.not_lt.2 hy.2)]
  have hlength {y : Int} (hy : 0 ≤ y ∧ y ≤ 9999) : (padded 4 (Nat.toDigits 10 y.natAbs)).length = 4 :=
    length_padded (w := 4) (by decide) (by omega)
  rw [hchars hy, hchars hz, compare_digits_append cs ds (isDigit_padded 4 _) (isDigit_padded 4 _)
    ((hlength hy).trans (hlength hz).symm), ofDigits_padded, ofDigits_padded]
  congr 1
  exact compare_eq_compare (by omega) (by omega) (by omega)

theorem compare_twoDigits_append {m n : Nat} (hm : m < 100) (hn : n < 100) (cs ds : List Char) :
    compare (twoDigits m ++ cs) (twoDigits n ++ ds) = (compare m n).then (compare cs ds) := by
  rw [compare_digits_append cs ds (isDigit_twoDigits hm) (isDigit_twoDigits hn) rfl, ofDigits_twoDigits hm,
    ofDigits_twoDigits hn]

end Parts

variable {t u : Timestamp}

theorem compare_minute (t u : Timestamp) :
    (t.date.compare u.date).then ((compare t.hour u.hour).then (compare t.minute u.minute)) =
      compare (t.localSecond / 60) (u.localSecond / 60) := by
  rw [date, date, Date.compare_ofDay, hour, hour, minute, minute]
  refine then_eq_compare (by omega) (by omega) fun hday => ?_
  exact then_eq_compare (by omega) (by omega) fun hhour => compare_eq_compare (by omega) (by omega) (by omega)

def elapsed (t : Timestamp) : Nat := t.second * 1000000000 + t.instant.nanos

theorem compare_elapsed (t u : Timestamp) :
    (compare t.shownSecond u.shownSecond).then
      (compare (t.instant.nanos.val % 1000000000) (u.instant.nanos.val % 1000000000)) =
        compare t.elapsed u.elapsed := by
  simp only [shownSecond, elapsed]
  refine then_eq_compare (by omega) (by omega) fun hsecond => ?_
  exact compare_eq_compare (by omega) (by omega) (by omega)

theorem shownSecond_lt (t : Timestamp) : t.shownSecond < 61 := by
  have hsecond := t.second_lt
  have hnanos := t.instant.nanos.isLt
  rw [shownSecond]
  omega

theorem compare_text (hoffset : t.offset = u.offset) (ht : 0 ≤ t.date.year ∧ t.date.year ≤ 9999)
    (hu : 0 ≤ u.date.year ∧ u.date.year ≤ 9999) :
    compare t.text u.text =
      (compare (t.localSecond / 60) (u.localSecond / 60)).then (compare t.elapsed u.elapsed) := by
  have hparts := month_date t
  have hparts' := month_date u
  have hhour := t.hour_lt
  have hhour' := u.hour_lt
  have hminute := t.minute_lt
  have hminute' := u.minute_lt
  have hsecond := t.shownSecond_lt
  have hsecond' := u.shownSecond_lt
  have hfraction (n : Nat) : n % 1000000000 < 1000000000 := Nat.mod_lt n (by decide)
  have hsign : (if u.offset < 0 then '-' else '+') < '.' := by
    split <;> decide
  -- part by part from the year to the second, then the fraction together with the offset that ends it
  rw [text, text, compare_ofList, localChars_append, localChars_append, compare_yearChars_append ht hu, compare_cons,
    compare_twoDigits_append (by omega) (by omega), compare_cons, compare_twoDigits_append (by omega) (by omega),
    compare_cons, compare_twoDigits_append (by omega) (by omega), compare_cons,
    compare_twoDigits_append (by omega) (by omega), compare_cons, compare_twoDigits_append (by omega) (by omega),
    hoffset, offsetChars, List.cons_append, compare_fraction _ (hfraction _) (hfraction _) hsign,
    ← compare_minute, ← compare_elapsed, Date.compare]
  simp only [Ordering.then_assoc]

/-- Whether a time in a leap second is shown as no earlier than a time in the second after it. Local clocks end their
minutes with the leap second, if they are whole minutes ahead; others show it within a minute, as its next second. -/
def RunsInto (t u : Timestamp) : Prop :=
  t.second ≠ 59 ∧ u.instant.second = t.instant.second + 1 ∧ 1000000000 + u.instant.nanos.val ≤ t.instant.nanos

theorem compare_text_eq_lt_iff (hoffset : t.offset = u.offset) (ht : 0 ≤ t.date.year ∧ t.date.year ≤ 9999)
    (hu : 0 ≤ u.date.year ∧ u.date.year ≤ 9999) (h : t.instant.second < u.instant.second) :
    compare t.text u.text = .lt ↔ ¬t.RunsInto u := by
  have hnanos := t.instant.nanos.isLt
  rw [compare_text hoffset ht hu, Ordering.then_eq_lt, compare_lt_iff_lt, compare_eq_iff_eq, compare_lt_iff_lt,
    RunsInto, elapsed, elapsed, second, second, localSecond, localSecond, hoffset]
  omega

theorem compare_text_eq_gt_iff (hoffset : t.offset = u.offset) (ht : 0 ≤ t.date.year ∧ t.date.year ≤ 9999)
    (hu : 0 ≤ u.date.year ∧ u.date.year ≤ 9999) (h : u.instant.second < t.instant.second) :
    compare t.text u.text = .gt ↔ ¬u.RunsInto t := by
  rw [Std.OrientedOrd.eq_swap (a := t.text), Ordering.swap_eq_gt, compare_text_eq_lt_iff hoffset.symm hu ht h]

theorem compare_text_of_second_eq (hoffset : t.offset = u.offset) (ht : 0 ≤ t.date.year ∧ t.date.year ≤ 9999)
    (hu : 0 ≤ u.date.year ∧ u.date.year ≤ 9999) (h : t.instant.second = u.instant.second) :
    compare t.text u.text = compare t.instant.nanos.val u.instant.nanos.val := by
  rw [compare_text hoffset ht hu, elapsed, elapsed, second, second, localSecond, localSecond, hoffset, h,
    Std.compare_self, Ordering.eq_then]
  exact compare_eq_compare (by omega) (by omega) (by omega)

theorem compare_text_eq_iff (hoffset : t.offset = u.offset) (ht : 0 ≤ t.date.year ∧ t.date.year ≤ 9999)
    (hu : 0 ≤ u.date.year ∧ u.date.year ≤ 9999) :
    compare t.text u.text = t.instant.compare u.instant ↔ ¬t.RunsInto u ∧ ¬u.RunsInto t := by
  have hnot {t u : Timestamp} (h : u.instant.second ≤ t.instant.second) : ¬t.RunsInto u := by
    rintro ⟨-, hnext, -⟩
    omega
  rw [Instant.compare]
  rcases Int.lt_trichotomy t.instant.second u.instant.second with h | h | h
  · rw [compare_lt_iff_lt.2 h]
    exact (compare_text_eq_lt_iff hoffset ht hu h).trans (and_iff_left (hnot (Int.le_of_lt h))).symm
  · rw [compare_text_of_second_eq hoffset ht hu h, h, Std.compare_self]
    exact iff_of_true rfl ⟨hnot (Int.le_of_eq h.symm), hnot (Int.le_of_eq h)⟩
  · rw [compare_gt_iff_gt.2 h]
    exact (compare_text_eq_gt_iff hoffset ht hu h).trans (and_iff_right (hnot (Int.le_of_lt h))).symm

theorem Writable.not_runsInto (h : t.Writable) (u : Timestamp) : ¬t.RunsInto u := by
  rintro ⟨hwithin, -, hlong⟩
  exact hwithin (h.leap (by omega))

end Timestamp

namespace Request

theorem time_in_order (r s : Request) (hoffset : r.time.offset = s.time.offset)
    (hr : 0 ≤ r.time.date.year ∧ r.time.date.year ≤ 9999) (hs : 0 ≤ s.time.date.year ∧ s.time.date.year ≤ 9999) :
    ((r.resolve "time").compare (s.resolve "time") = r.time.instant.compare s.time.instant ↔
      ¬r.time.RunsInto s.time ∧ ¬s.time.RunsInto r.time) ∧
    ∀ text text', decode text = .ok r → decode text' = .ok s →
      (r.resolve "time").compare (s.resolve "time") = r.time.instant.compare s.time.instant := by
  have htext : (r.resolve "time").compare (s.resolve "time") = compare r.time.text s.time.text := by
    show compare (String.ofList r.time.text.toList) (String.ofList s.time.text.toList) = _
    rw [String.ofList_toList, String.ofList_toList]
  have hiff := Timestamp.compare_text_eq_iff hoffset hr hs
  rw [htext]
  refine ⟨hiff, fun text text' hread hread' => hiff.2 ⟨?_, ?_⟩⟩
  · exact (stored_of_decode hread).time.not_runsInto _
  · exact (stored_of_decode hread').time.not_runsInto _

theorem time_in_order_around_leap_second :
    let r : Request := { blank with time := ⟨⟨-1, 1500000000⟩, 19800⟩ }
    let s : Request := { blank with time := ⟨⟨0, 0⟩, 19800⟩ }
    r.time.text = "1970-01-01T05:29:60.500+05:30" ∧ s.time.text = "1970-01-01T05:30:00+05:30" ∧
      (r.resolve "time").compare (s.resolve "time") = .lt := by
  intro r s
  have hlast : ¬r.time.RunsInto s.time := fun h => h.1 (by decide)
  have hafter : ¬s.time.RunsInto r.time := fun h => absurd h.2.1 (by decide)
  have horder := (time_in_order r s rfl (by decide) (by decide)).1.2 ⟨hlast, hafter⟩
  exact ⟨by decide +kernel, by decide +kernel, horder.trans (by decide)⟩

theorem leap_second_within_minute :
    let r : Request := { blank with time := ⟨⟨1483228799, 1500000000⟩, 30⟩ }
    let s : Request := { blank with time := ⟨⟨1483228800, 0⟩, 30⟩ }
    r.time.text = "2017-01-01T00:00:30.500+00:01" ∧ s.time.text = "2017-01-01T00:00:30+00:01" ∧
      r.time.offset = s.time.offset ∧ r.time.date.year = 2017 ∧ s.time.date.year = 2017 ∧
      r.time.instant.compare s.time.instant = .lt ∧ (r.resolve "time").compare (s.resolve "time") = .gt := by
  decide +kernel

end Request

end AccessPolicy
