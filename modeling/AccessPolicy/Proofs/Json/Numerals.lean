import AccessPolicy.Binary64.Layout
import AccessPolicy.Json.Reader
import AccessPolicy.Proofs.Binary64.Rounding
import Mathlib.Data.List.DropRight

namespace AccessPolicy

open Json

namespace Json

def Delimited (cs : List Char) : Prop := ∀ c ∈ cs.head?, c ∈ [' ', '\n', '\t', '\r', ',', ']', '\x7d']

theorem delimited_nil : Delimited [] := by simp [Delimited]

theorem ne_of_isDigit {c d : Char} (hc : c.isDigit = true) (hd : d.isDigit = false) : c ≠ d := by
  rintro rfl
  rw [hc] at hd
  contradiction

theorem toDigits_leading (n : Nat) : ∃ d ds, Nat.toDigits 10 n = d :: ds ∧ (d = '0' → n = 0) := by
  induction n using Nat.strongRecOn with
  | ind n ih =>
    by_cases hsmall : n < 10
    · refine ⟨n.digitChar, [], Nat.toDigits_of_lt_base hsmall, ?_⟩
      clear ih
      revert n
      decide
    · obtain ⟨d, ds, hds, hzero⟩ := ih (n / 10) (by omega)
      have hstep := Nat.toDigits_of_base_le (b := 10) (by decide) (Nat.le_of_not_lt hsmall)
      refine ⟨d, ds ++ [(n % 10).digitChar], by rw [hstep, hds]; rfl, fun hd => ?_⟩
      have := hzero hd
      omega

theorem toDigits_ne_zero_cons (n : Nat) (c : Char) (cs : List Char) : Nat.toDigits 10 n ≠ '0' :: c :: cs := by
  obtain ⟨d, ds, hds, hzero⟩ := toDigits_leading n
  intro h
  have hn : n = 0 := hzero (by rw [h] at hds; exact (List.cons.inj hds).1.symm)
  subst hn
  simp at h

theorem isDigit_toDigits (n : Nat) : ∀ c ∈ Nat.toDigits 10 n, c.isDigit = true :=
  fun _ => Nat.isDigit_of_mem_toDigits (by decide) (by decide)

theorem toList_toString (i : Int) :
    (toString i).toList = (if i < 0 then ['-'] else []) ++ Nat.toDigits 10 i.natAbs := by
  cases i with
  | ofNat n =>
    have h : ¬ (Int.ofNat n < 0) := Int.not_lt.2 (Int.natCast_nonneg n)
    rw [if_neg h]
    exact Nat.toList_repr
  | negSucc n =>
    rw [if_pos (Int.negSucc_lt_zero n)]
    simp [toString, Int.repr, Nat.toList_repr]

namespace Numeral

structure Leading (ds : List Char) : Prop where
  ne_nil : ds ≠ []
  isDigit : ∀ c ∈ ds, c.isDigit = true
  minimal : ∀ c cs, ds ≠ '0' :: c :: cs

structure WellFormed (n : Numeral) : Prop where
  whole : Leading n.whole
  fraction : ∀ c ∈ n.fraction, c.isDigit = true
  power : ∀ p ∈ n.power, p.2 ≠ [] ∧ ∀ c ∈ p.2, c.isDigit = true

def powerChars : Option (Bool × List Char) → List Char
  | none => []
  | some (negative, ds) => 'e' :: (if negative then '-' else '+') :: ds

def fractionChars : List Char → List Char
  | [] => []
  | ds => '.' :: ds

def sizeChars (n : Numeral) : List Char := n.whole ++ (fractionChars n.fraction ++ powerChars n.power)

def chars (n : Numeral) : List Char := Layout.sign n.negative ++ n.sizeChars

def ofInt (i : Int) : Numeral := ⟨decide (i < 0), Nat.toDigits 10 i.natAbs, [], none⟩

theorem leading_toDigits (n : Nat) : Leading (Nat.toDigits 10 n) :=
  ⟨Nat.toDigits_ne_nil, isDigit_toDigits n, toDigits_ne_zero_cons n⟩

theorem wellFormed_ofInt (i : Int) : (ofInt i).WellFormed where
  whole := leading_toDigits i.natAbs
  fraction := by simp [ofInt]
  power := by simp [ofInt]

theorem chars_ofInt (i : Int) : (ofInt i).chars = (toString i).toList := by
  rw [toList_toString]
  by_cases h : i < 0 <;> simp [chars, sizeChars, ofInt, Layout.sign, fractionChars, powerChars, h]

theorem le_ofDigitChars (s : Nat) (ds : List Char) : s ≤ Nat.ofDigitChars 10 ds s := by
  induction ds generalizing s with
  | nil => exact Nat.le_refl s
  | cons d ds ih =>
    rw [Nat.ofDigitChars_cons]
    exact Nat.le_trans (by omega) (ih _)

theorem fill_of_lt {s : Nat} {ds : List Char} (h : Nat.ofDigitChars 10 ds s < UInt64.size) :
    fill s ds = (Nat.ofDigitChars 10 ds s, 0) := by
  induction ds generalizing s with
  | nil => rfl
  | cons d ds ih =>
    rw [Nat.ofDigitChars_cons] at h ⊢
    have hstep : 10 * s + Text.digitValue d < UInt64.size := Nat.lt_of_le_of_lt (le_ofDigitChars _ ds) h
    rw [fill, if_pos hstep]
    exact ih h

theorem number?_ofInt {i : Int} (hlow : -(1 <<< 63) ≤ i) (hhigh : i < UInt64.size) :
    (ofInt i).number? = some (.int i) := by
  have hsize : UInt64.size = 1 <<< 64 := rfl
  have hrange : i.natAbs < UInt64.size := by omega
  have hdigits : Nat.ofDigitChars 10 (Nat.toDigits 10 i.natAbs) 0 = i.natAbs :=
    Nat.ofDigitChars_toDigits (by decide) (by decide)
  have hfill : fill 0 (Nat.toDigits 10 i.natAbs) = (i.natAbs, 0) := by
    rw [fill_of_lt (by rwa [hdigits]), hdigits]
  simp only [number?, ofInt, hfill, List.isEmpty_nil, Option.isNone_none, Bool.and_self, beq_self_eq_true, if_true,
    decide_eq_true_eq]
  by_cases hi : i < 0
  · rw [if_pos hi, if_neg (by omega)]
    exact congrArg (fun j => some (Number.int j)) (by omega)
  · rw [if_neg hi]
    exact congrArg (fun j => some (Number.int j)) (by omega)

end Numeral

section Reading

variable {ds rest : List Char} {n : Numeral}

theorem takeWhile_isDigit (hrest : ∀ c ∈ rest.head?, c.isDigit = false) (hdigits : ∀ c ∈ ds, c.isDigit = true) :
    (ds ++ rest).takeWhile Char.isDigit = ds := by
  rw [List.takeWhile_append_of_pos hdigits]
  cases rest with
  | nil => simp
  | cons c r => simp [hrest c rfl]

theorem dropWhile_isDigit (hrest : ∀ c ∈ rest.head?, c.isDigit = false) (hdigits : ∀ c ∈ ds, c.isDigit = true) :
    (ds ++ rest).dropWhile Char.isDigit = rest := by
  rw [List.dropWhile_append_of_pos hdigits]
  cases rest with
  | nil => simp
  | cons c r => simp [hrest c rfl]

theorem Delimited.not_digit (h : Delimited rest) : ∀ c ∈ rest.head?, c.isDigit = false := by
  have hmarks : ∀ c ∈ [' ', '\n', '\t', '\r', ',', ']', '\x7d'], c.isDigit = false := by simp
  exact fun c hc => hmarks c (h c hc)

variable (hrest : Delimited rest)

include hrest

theorem readPower_powerChars (m : Numeral) {p : Option (Bool × List Char)} (hm : m.power = none)
    (hp : ∀ q ∈ p, q.2 ≠ [] ∧ ∀ c ∈ q.2, c.isDigit = true) :
    readPower m (Numeral.powerChars p ++ rest) = ⟨.number { m with power := p }, some rest⟩ := by
  cases p with
  | none =>
    have hsame : { m with power := none } = m := by rw [← hm]
    rw [Numeral.powerChars, List.nil_append, readPower.eq_3, hsame]
    · rintro r rfl
      exact absurd (hrest 'e' rfl) (by decide)
    · rintro r rfl
      exact absurd (hrest 'E' rfl) (by decide)
  | some q =>
    obtain ⟨negative, ds⟩ := q
    obtain ⟨hne, hdigits⟩ := hp _ rfl
    obtain ⟨d, ds, rfl⟩ := List.exists_cons_of_ne_nil hne
    have htake : (d :: (ds ++ rest)).takeWhile Char.isDigit = d :: ds := takeWhile_isDigit hrest.not_digit hdigits
    have hdrop : (d :: (ds ++ rest)).dropWhile Char.isDigit = rest := dropWhile_isDigit hrest.not_digit hdigits
    cases negative <;> simp [Numeral.powerChars, readPower, htake, hdrop]

theorem head_powerChars {p : Option (Bool × List Char)} {c : Char} (h : c ∈ (Numeral.powerChars p ++ rest).head?) :
    c.isDigit = false ∧ c ≠ '.' := by
  have hmarks : ∀ c ∈ [' ', '\n', '\t', '\r', ',', ']', '\x7d'], c.isDigit = false ∧ c ≠ '.' := by simp
  cases p with
  | none => exact hmarks c (hrest c h)
  | some q =>
    obtain rfl : 'e' = c := Option.some.inj h
    decide

variable (negative : Bool) {whole : List Char} (hwhole : Numeral.Leading whole) {p : Option (Bool × List Char)}
  (hp : ∀ q ∈ p, q.2 ≠ [] ∧ ∀ c ∈ q.2, c.isDigit = true)

include hwhole hp

theorem readNumeral_whole : readNumeral negative (whole ++ (Numeral.powerChars p ++ rest)) =
    ⟨.number ⟨negative, whole, [], p⟩, some rest⟩ := by
  have hhead : ∀ c ∈ (Numeral.powerChars p ++ rest).head?, c.isDigit = false := fun c hc => (head_powerChars hrest hc).1
  rw [readNumeral, takeWhile_isDigit hhead hwhole.isDigit, dropWhile_isDigit hhead hwhole.isDigit]
  split
  · exact absurd rfl hwhole.ne_nil
  · exact absurd rfl hwhole.ne_nil
  · exact absurd rfl (hwhole.minimal _ _)
  · have hpoint := ‹Numeral.powerChars p ++ rest = '.' :: _›
    exact absurd rfl (head_powerChars (p := p) hrest (by rw [hpoint]; rfl)).2
  · exact readPower_powerChars hrest ⟨negative, _, [], none⟩ rfl hp

theorem readNumeral_fraction {fraction : List Char} (hne : fraction ≠ [])
    (hfraction : ∀ c ∈ fraction, c.isDigit = true) :
    readNumeral negative (whole ++ '.' :: (fraction ++ (Numeral.powerChars p ++ rest))) =
      ⟨.number ⟨negative, whole, fraction, p⟩, some rest⟩ := by
  have hpoint : ∀ c ∈ ('.' :: (fraction ++ (Numeral.powerChars p ++ rest))).head?, c.isDigit = false := by
    rintro c hc
    obtain rfl : '.' = c := Option.some.inj hc
    rfl
  have hhead : ∀ c ∈ (Numeral.powerChars p ++ rest).head?, c.isDigit = false := fun c hc => (head_powerChars hrest hc).1
  obtain ⟨f, fs, rfl⟩ := List.exists_cons_of_ne_nil hne
  rw [readNumeral, takeWhile_isDigit hpoint hwhole.isDigit, dropWhile_isDigit hpoint hwhole.isDigit]
  split
  · exact absurd rfl hwhole.ne_nil
  · exact absurd rfl hwhole.ne_nil
  · exact absurd rfl (hwhole.minimal _ _)
  · have hpoint := ‹('.' :: _ : List Char) = '.' :: _›
    obtain ⟨-, rfl⟩ := List.cons.inj hpoint
    rw [takeWhile_isDigit hhead hfraction, dropWhile_isDigit hhead hfraction]
    exact readPower_powerChars hrest ⟨negative, _, f :: fs, none⟩ rfl hp
  · have hpoint := ‹∀ r, ('.' :: _ : List Char) = '.' :: r → False›
    exact absurd rfl (hpoint _)

omit hwhole hp in
theorem readNumeral_sizeChars (h : n.WellFormed) :
    readNumeral n.negative (n.sizeChars ++ rest) = ⟨.number n, some rest⟩ := by
  obtain ⟨negative, whole, fraction, power⟩ := n
  rw [Numeral.sizeChars, List.append_assoc, List.append_assoc]
  cases fraction with
  | nil => exact readNumeral_whole hrest negative h.whole h.power
  | cons f fs => exact readNumeral_fraction hrest negative h.whole h.power (List.cons_ne_nil f fs) h.fraction

end Reading

end Json

section Figures

theorem Numeral.leading_cons {c : Char} {cs : List Char} (hc : c ≠ '0') (h : ∀ d ∈ c :: cs, d.isDigit = true) :
    Numeral.Leading (c :: cs) :=
  ⟨List.cons_ne_nil c cs, h, fun _ _ heq => hc (List.cons.inj heq).1⟩

theorem Decimal.exists_figures {d : Decimal} (h : d.coefficient ≠ 0) :
    ∃ c cs, d.figures.1 = c :: cs ∧ c ≠ '0' ∧ ∀ e ∈ c :: cs, e.isDigit = true := by
  obtain ⟨c, cs, hdigits, hzero⟩ := toDigits_leading d.coefficient
  have hc : c ≠ '0' := fun hc => h (hzero hc)
  have hfigures : d.figures.1 = (c :: cs).rdropWhile (· == '0') := by rw [← hdigits]; rfl
  have hprefix : d.figures.1 <+: c :: cs := hfigures ▸ List.rdropWhile_prefix _ _
  have hne : d.figures.1 ≠ [] := by
    rw [hfigures, Ne, List.rdropWhile_eq_nil_iff]
    intro hall
    exact hc (by simpa using hall c List.mem_cons_self)
  obtain ⟨e, es, hes⟩ := List.exists_cons_of_ne_nil hne
  rw [hes] at hprefix ⊢
  obtain ⟨rfl, -⟩ := List.cons_prefix_cons.1 hprefix
  exact ⟨e, es, rfl, hc, fun d hd => isDigit_toDigits _ d (hdigits ▸ hprefix.subset hd)⟩

theorem Magnitude.units_ne_zero {m : Magnitude} (h : m ≠ .zero) : m.units ≠ 0 :=
  fun hm => h (units_injective (hm.trans (by decide)))

theorem Magnitude.coefficient_shortest {m : Magnitude} (h : m ≠ .zero) (tie : Tie) :
    (m.shortest tie).coefficient ≠ 0 := by
  unfold shortest
  cases hfound : (List.range 17).findSome? fun n => m.readingBack? tie (n + 1) with
  | none =>
    rw [Option.getD_none, exactDecimal, Nat.mul_ne_zero_iff]
    exact ⟨units_ne_zero h, by decide +kernel⟩
  | some d =>
    obtain ⟨n, -, hn⟩ := List.exists_of_findSome?_eq_some hfound
    have hback : d.toMagnitude = m := by simpa using List.find?_some hn
    rw [Option.getD_some]
    intro hzero
    exact h (hback ▸ by simp [Decimal.toMagnitude, hzero])

end Figures

namespace Layout

def numeralInPlace (negative : Bool) (ds : List Char) (point : Int) : Numeral :=
  if point ≤ 0 then ⟨negative, ['0'], zeros (-point).toNat ++ ds, none⟩
  else if ds.length ≤ point.toNat then ⟨negative, ds ++ zeros (point.toNat - ds.length), ['0'], none⟩
  else ⟨negative, ds.take point.toNat, ds.drop point.toNat, none⟩

def numeralWithExponent (negative : Bool) (ds : List Char) (point : Int) : Numeral :=
  ⟨negative, ds.take 1, ds.drop 1, some (decide (point - 1 < 0), Nat.toDigits 10 (point - 1).natAbs)⟩

variable (negative : Bool) {c : Char} {cs : List Char} (point : Int)

theorem isDigit_zeros (n : Nat) : ∀ c ∈ zeros n, c.isDigit = true := by
  intro c hc
  rw [List.eq_of_mem_replicate hc]
  rfl

theorem fractionChars_of_ne_nil {ds : List Char} (h : ds ≠ []) : Numeral.fractionChars ds = '.' :: ds := by
  cases ds with
  | nil => contradiction
  | cons d ds => rfl

theorem sizeChars_numeralInPlace :
    (numeralInPlace negative (c :: cs) point).sizeChars = inPlace ['.', '0'] (c :: cs) point := by
  unfold numeralInPlace inPlace
  split
  · simp [Numeral.sizeChars, Numeral.powerChars, fractionChars_of_ne_nil]
  · split
    · simp [Numeral.sizeChars, Numeral.powerChars, Numeral.fractionChars]
    · rename_i hlong
      have hdrop : (c :: cs).drop point.toNat ≠ [] := by
        rw [Ne, List.drop_eq_nil_iff]
        exact hlong
      rw [Numeral.sizeChars, Numeral.powerChars, fractionChars_of_ne_nil hdrop, List.append_nil]

theorem sizeChars_numeralWithExponent :
    (numeralWithExponent negative (c :: cs) point).sizeChars = withExponent (c :: cs) point := by
  cases cs <;> by_cases h : point - 1 < 0 <;>
    simp [numeralWithExponent, withExponent, Numeral.sizeChars, Numeral.fractionChars, Numeral.powerChars, h]

variable (hc : c ≠ '0') (hdigits : ∀ d ∈ c :: cs, d.isDigit = true)

include hc hdigits

theorem wellFormed_numeralInPlace : (numeralInPlace negative (c :: cs) point).WellFormed := by
  unfold numeralInPlace
  split
  · refine ⟨⟨by simp, isDigit_zeros 1, by simp⟩, fun d hd => ?_, by simp⟩
    exact (List.mem_append.1 hd).elim (isDigit_zeros _ d) (hdigits d)
  · split
    · refine ⟨Numeral.leading_cons hc fun d hd => ?_, isDigit_zeros 1, by simp⟩
      exact (List.mem_append.1 hd).elim (hdigits d) (isDigit_zeros _ d)
    · obtain ⟨k, hk⟩ : ∃ k, point.toNat = k + 1 := ⟨point.toNat - 1, by omega⟩
      refine ⟨?_, fun d hd => hdigits d (List.mem_of_mem_drop hd), by simp⟩
      rw [hk, List.take_succ_cons]
      exact Numeral.leading_cons hc fun d hd => hdigits d (List.mem_of_mem_take (i := k + 1) hd)

theorem wellFormed_numeralWithExponent : (numeralWithExponent negative (c :: cs) point).WellFormed where
  whole := Numeral.leading_cons hc fun d hd => hdigits d (List.mem_of_mem_take (i := 1) hd)
  fraction d hd := hdigits d (List.mem_of_mem_drop hd)
  power p hp := by
    obtain rfl := Option.some.inj hp
    exact ⟨Nat.toDigits_ne_nil, isDigit_toDigits _⟩

omit hc hdigits

def numeral (l : Layout) (negative : Bool) (m : Magnitude) : Numeral :=
  let (ds, point) := (m.shortest l.tie).figures
  if l.positional (point - 1) then numeralInPlace negative ds point else numeralWithExponent negative ds point

theorem chars_numeral {l : Layout} (hmark : l.wholeMark = ['.', '0']) {m : Magnitude} (hm : m ≠ .zero) :
    (l.numeral negative m).chars = sign negative ++ l.magnitude m ∧ (l.numeral negative m).WellFormed := by
  obtain ⟨c, cs, hfigures, hc, hdigits⟩ := Decimal.exists_figures (m.coefficient_shortest hm l.tie)
  obtain ⟨⟨ds, point⟩, hpair⟩ : ∃ pair, (m.shortest l.tie).figures = pair := ⟨_, rfl⟩
  obtain rfl : ds = c :: cs := by rw [← hfigures, hpair]
  simp only [numeral, magnitude, hpair, hmark]
  cases l.positional (point - 1) with
  | true =>
    have hsign : (numeralInPlace negative (c :: cs) point).negative = negative := by
      unfold numeralInPlace
      split
      · rfl
      · split <;> rfl
    refine ⟨?_, wellFormed_numeralInPlace negative point hc hdigits⟩
    rw [if_pos rfl, if_pos rfl, Numeral.chars, hsign, sizeChars_numeralInPlace]
  | false =>
    refine ⟨?_, wellFormed_numeralWithExponent negative point hc hdigits⟩
    rw [if_neg (by decide), if_neg (by decide), Numeral.chars, sizeChars_numeralWithExponent]
    rfl

end Layout

namespace Binary64

def numeral? (x : Binary64) : Option Numeral :=
  match x.integer?, x with
  | some i, _ => some (.ofInt i)
  | none, .nan => none
  | none, .signed negative m => if m.isFinite then some (documentLayout.numeral negative m) else none

theorem numeral?_of_integer? {x : Binary64} {i : Int} (h : x.integer? = some i) : x.numeral? = some (.ofInt i) := by
  simp [numeral?, h]

theorem ne_zero_of_integer? {negative : Bool} {m : Magnitude} (h : (signed negative m).integer? = none) :
    m ≠ .zero := by
  rintro rfl
  cases negative <;> exact absurd h (by decide)

theorem documentText_of_numeral? {x : Binary64} {n : Numeral} (h : x.numeral? = some n) :
    x.documentText = n.chars ∧ n.WellFormed := by
  cases hx : x.integer? with
  | some i =>
    obtain rfl : Numeral.ofInt i = n := by simpa [numeral?, hx] using h
    exact ⟨by rw [Numeral.chars_ofInt]; simp [documentText, hx], Numeral.wellFormed_ofInt i⟩
  | none =>
    cases x with
    | nan => simp [numeral?, hx] at h
    | signed negative m =>
      have hnumeral := Layout.chars_numeral negative (l := documentLayout) rfl (ne_zero_of_integer? hx)
      cases hm : m.isFinite with
      | false => simp [numeral?, hx, hm] at h
      | true =>
        obtain rfl : documentLayout.numeral negative m = n := by simpa [numeral?, hx, hm] using h
        exact ⟨by simp [documentText, hx, hm, hnumeral.1], hnumeral.2⟩

theorem documentText_of_numeral?_eq_none {x : Binary64} (h : x.numeral? = none) : x.documentText = "null".toList := by
  cases hx : x.integer? with
  | some i => simp [numeral?, hx] at h
  | none =>
    cases x with
    | nan => simp [documentText, hx]
    | signed negative m =>
      have hm : m.isFinite = false := by simpa [numeral?, hx] using h
      simp [documentText, hx, hm]

end Binary64

end AccessPolicy
