import AccessPolicy.Proofs.Time.Calendar
import AccessPolicy.Proofs.Time.Scan
import AccessPolicy.Time.Rfc3339

namespace AccessPolicy

open Text (ofDigits skipBlanks isBlank)

namespace Time

variable {n : Nat} {ds : List Char} (rest : List Char)

section Padding

theorem isDigit_padded (w n : Nat) : ∀ c ∈ Timestamp.padded w (Nat.toDigits 10 n), c.isDigit = true := by
  intro c hc
  rcases List.mem_append.1 hc with hc | hc
  · rw [List.eq_of_mem_replicate hc]
    rfl
  · exact Nat.isDigit_of_mem_toDigits (by decide) (by decide) hc

theorem ofDigits_padded (w n : Nat) : ofDigits (Timestamp.padded w (Nat.toDigits 10 n)) = n := by
  rw [Timestamp.padded, Text.ofDigits_eq, Nat.ofDigitChars_append, Nat.ofDigitChars_replicate_zero, Nat.mul_zero]
  exact Nat.ofDigitChars_ten_toDigits

theorem length_padded {w : Nat} (hw : 0 < w) (hn : n < 10 ^ w) :
    (Timestamp.padded w (Nat.toDigits 10 n)).length = w := by
  have hle := (Nat.length_toDigits_le_iff (b := 10) (by decide) hw).2 hn
  rw [Timestamp.padded, List.length_append, List.length_replicate]
  omega

theorem padded_ne_nil (w n : Nat) : Timestamp.padded w (Nat.toDigits 10 n) ≠ [] := by
  simp [Timestamp.padded]

end Padding

theorem inRange_bounds {y : Int} (hy : Timestamp.inRange y = true) :
    ¬ (y < Int32.minValue.toInt ∨ Int32.maxValue.toInt < y) := by
  have hmin : Int32.minValue.toInt ≤ Timestamp.firstYear := by decide
  have hmax : Timestamp.lastYear ≤ Int32.maxValue.toInt := by decide
  simp only [Timestamp.inRange, Bool.and_eq_true, decide_eq_true_eq] at hy
  omega

theorem year_yearChars {y : Int} (hy : Timestamp.inRange y = true) :
    year (Timestamp.yearChars y ++ '-' :: rest) = .ok (y, '-' :: rest) := by
  have hbounds := inRange_bounds hy
  have hdigits := isDigit_padded 4 y.natAbs
  have hvalue := ofDigits_padded 4 y.natAbs
  have hne := padded_ne_nil 4 y.natAbs
  have hlength : y.natAbs < 10000 → (Timestamp.padded 4 (Nat.toDigits 10 y.natAbs)).length = 4 :=
    length_padded (w := 4) (by decide)
  unfold Timestamp.yearChars
  simp only
  -- from here on only what the digits stand for matters, and how many they are
  generalize Timestamp.padded 4 (Nat.toDigits 10 y.natAbs) = ds at *
  have hread : digits (ds ++ '-' :: rest).length (ds ++ '-' :: rest) = .ok (ds, '-' :: rest) := by
    refine digits_append _ hne hdigits (.inr ⟨by simp, fun c hc => ?_⟩)
    obtain rfl : '-' = c := Option.some.inj hc
    rfl
  by_cases hneg : y < 0
  · rw [if_pos hneg, List.cons_append, year, skipBlanks_cons (by decide)]
    simp only [hread, Except.map, bind, Except.bind, hvalue, if_true, show -(y.natAbs : Int) = y by omega]
    rw [if_neg hbounds]
  · rw [if_neg hneg]
    by_cases hlong : 9999 < y
    · rw [if_pos hlong, List.cons_append, year, skipBlanks_cons (by decide)]
      simp only [hread, Except.map, bind, Except.bind, hvalue, Bool.false_eq_true, if_false,
        show (y.natAbs : Int) = y by omega]
      rw [if_neg hbounds]
    · have hfour : digits 4 (ds ++ '-' :: rest) = .ok (ds, '-' :: rest) :=
        digits_append _ hne hdigits (.inl (hlength (by omega)))
      obtain ⟨d, ds, rfl⟩ := List.exists_cons_of_ne_nil hne
      have hd : d.isDigit = true := hdigits d List.mem_cons_self
      rw [if_neg hlong, List.cons_append, year, skipBlanks_cons (isBlank_of_isDigit hd)]
      split
      · obtain ⟨rfl, -⟩ := List.cons.inj ‹d :: _ = '-' :: _›
        exact absurd hd (by decide)
      · obtain ⟨rfl, -⟩ := List.cons.inj ‹d :: _ = '+' :: _›
        exact absurd hd (by decide)
      · rw [← List.cons_append, hfour]
        simp only [Except.map, bind, Except.bind, hvalue, Bool.false_eq_true, if_false,
          show (y.natAbs : Int) = y by omega]
        rw [if_neg hbounds]

theorem fraction_point (hne : ds ≠ []) (hdigits : ∀ c ∈ ds, c.isDigit = true) (hlength : ds.length ≤ 9)
    (hrest : ∀ c ∈ rest.head?, c.isDigit = false) :
    fraction ('.' :: (ds ++ rest)) = .ok (ofDigits ds * 10 ^ (9 - ds.length), rest) := by
  have hdrop : (ds ++ rest).dropWhile Char.isDigit = rest := by
    rw [List.dropWhile_append_of_pos hdigits]
    cases rest with
    | nil => rfl
    | cons c r => simp [hrest c rfl]
  rw [fraction, digits_append rest hne hdigits (.inr ⟨hlength, hrest⟩)]
  simp only [bind, Except.bind, hdrop]
  rfl

theorem fraction_fractionChars (hn : n < 1000000000) (hrest : ∀ c ∈ rest.head?, c.isDigit = false ∧ c ≠ '.') :
    fraction (Timestamp.fractionChars n ++ rest) = .ok (n, rest) := by
  have hlength := length_padded (w := 9) (by decide) hn
  have hdigits := isDigit_padded 9 n
  have hvalue := ofDigits_padded 9 n
  have hhead : ∀ c ∈ rest.head?, c.isDigit = false := fun c hc => (hrest c hc).1
  -- the digits that are not written are zeros, which is what reading takes them for
  have htake (k j : Nat) (hk : 0 < k) (hkj : 9 = k + j) (hmultiple : n % 10 ^ j = 0) :
      fraction ('.' :: ((Timestamp.padded 9 (Nat.toDigits 10 n)).take k ++ rest)) = .ok (n, rest) := by
    have hlen : ((Timestamp.padded 9 (Nat.toDigits 10 n)).take k).length = k := by
      rw [List.length_take]
      omega
    have hne : (Timestamp.padded 9 (Nat.toDigits 10 n)).take k ≠ [] := by
      intro hnil
      rw [hnil] at hlen
      exact absurd hlen (by simpa using Nat.ne_of_lt hk)
    rw [fraction_point rest hne (fun c hc => hdigits c (List.mem_of_mem_take hc)) (by omega) hhead, hlen,
      show 9 - k = j by omega, Text.ofDigits_take hdigits (hlength.trans hkj) hvalue hmultiple]
  unfold Timestamp.fractionChars
  simp only
  split
  · rename_i hzero
    subst hzero
    cases rest with
    | nil => rfl
    | cons c r => exact fraction.eq_2 _ fun cs hcs => (hrest c rfl).2 (List.cons.inj hcs).1
  split
  · exact htake 3 6 (by decide) rfl ‹_›
  split
  · exact htake 6 3 (by decide) rfl ‹_›
  · have hall := htake 9 0 (by decide) rfl (Nat.mod_one n)
    rwa [List.take_of_length_le (by omega)] at hall

theorem offsetMinutes_twoDigits {h m : Nat} (hh : h < 100) (hm : m < 60) :
    offsetMinutes (twoDigits h ++ ':' :: twoDigits m) = .ok (60 * h + m, []) := by
  have hsix : ¬ '6' ≤ Nat.digitChar (m / 10 % 10) := by
    revert m
    decide
  have hhour := isDigit_twoDigits hh
  have hminute := isDigit_twoDigits (n := m) (by omega)
  have hhourValue := ofDigits_twoDigits hh
  have hminuteValue := ofDigits_twoDigits (n := m) (by omega)
  unfold twoDigits at *
  generalize Nat.digitChar (h / 10 % 10) = a at *
  generalize Nat.digitChar (h % 10) = b at *
  generalize Nat.digitChar (m / 10 % 10) = c at *
  generalize Nat.digitChar (m % 10) = d at *
  simp only [List.mem_cons, List.not_mem_nil, or_false, forall_eq_or_imp, forall_eq] at hhour hminute
  have hc : c ≠ ':' := by
    rintro rfl
    exact absurd hminute.1 (by decide)
  simp [offsetMinutes, pair, hhour, hminute, hhourValue, hminuteValue, hsix, hc, isBlank_of_isDigit hminute.1, bind,
    Except.bind]

theorem offset_plus {n : Nat} {cs rest : List Char} (h : offsetMinutes cs = .ok (n, rest)) :
    offset ('+' :: cs) = .ok (60 * (n : Int), rest) := by
  simp [offset, h, Except.map]

theorem offset_minus {n : Nat} {cs rest : List Char} (h : offsetMinutes cs = .ok (n, rest)) :
    offset ('-' :: cs) = .ok (-(60 * (n : Int)), rest) := by
  simp [offset, h, Except.map]

theorem offset_offsetChars {z : Int} (hlow : -86400 < z) (hhigh : z < 86400) (hwhole : z % 60 = 0) :
    offset (Timestamp.offsetChars z) = .ok (z, []) := by
  have hminutes := offsetMinutes_twoDigits (h := (z.natAbs + 30) / 60 / 60) (m := (z.natAbs + 30) / 60 % 60) (by omega)
    (by omega)
  rw [Nat.div_add_mod] at hminutes
  rw [Timestamp.offsetChars]
  by_cases hneg : z < 0
  · have hz : -(60 * (((z.natAbs + 30) / 60 : Nat) : Int)) = z := by omega
    have hread := offset_minus hminutes
    rw [hz] at hread
    rwa [if_pos hneg]
  · have hz : 60 * (((z.natAbs + 30) / 60 : Nat) : Int) = z := by omega
    have hread := offset_plus hminutes
    rw [hz] at hread
    rwa [if_neg hneg]

theorem whole_of_offset {cs rest : List Char} {z : Int} (h : offset cs = .ok (z, rest)) : z % 60 = 0 := by
  unfold offset at h
  split at h
  · contradiction
  · rename_i c r
    split_ifs at h
    · cases h; rfl
    · cases h; rfl
    all_goals
      cases hm : offsetMinutes r with
      | error e => simp [hm, Except.map] at h
      | ok m =>
        simp only [hm, Except.map, Except.ok.injEq, Prod.mk.injEq] at h
        omega

theorem fraction_lt {cs rest : List Char} {n : Nat} (h : fraction cs = .ok (n, rest)) : n < 1000000000 := by
  unfold fraction at h
  split at h
  · obtain ⟨⟨ds, after⟩, hdigits, h⟩ := exists_of_bind_ok h
    obtain ⟨-, -, hlength, hall⟩ := digits_of_ok hdigits
    obtain ⟨rfl, -⟩ := Prod.mk.inj (Except.ok.inj h)
    calc ofDigits ds * 10 ^ (9 - ds.length)
        < 10 ^ ds.length * 10 ^ (9 - ds.length) := Nat.mul_lt_mul_of_pos_right (Text.ofDigits_lt hall)
          (Nat.pow_pos (by decide))
      _ = 1000000000 := by rw [← Nat.pow_add, Nat.add_sub_cancel' hlength]
  · obtain ⟨rfl, -⟩ := Prod.mk.inj (Except.ok.inj h)
    decide

end Time

namespace Timestamp

open Time

theorem second_lt (t : Timestamp) : t.second < 60 := by
  rw [Timestamp.second]
  omega

/-- What a timestamp must be for its text to stand for it. A second may be longer than the others only as the last of
its minute, as local clocks count. -/
structure Writable (t : Timestamp) : Prop where
  offset : -86400 < t.offset ∧ t.offset < 86400
  whole : t.offset % 60 = 0
  leap : 1000000000 ≤ t.instant.nanos.val → t.second = 59
  shown : inRange t.date.year = true
  common : inRange (Date.ofDay (t.instant.second / 86400)).year = true

variable {t : Timestamp}

theorem shownSecond_le (h : t.Writable) : t.shownSecond ≤ 60 := by
  have hnanos := t.instant.nanos.isLt
  have hsecond := t.second_lt
  have hleap := h.leap
  rw [shownSecond]
  omega

theorem ofParts_date (h : t.Writable) :
    ofParts t.date t.hour t.minute t.shownSecond (t.instant.nanos % 1000000000) t.offset = .ok t := by
  have hvalid : t.date.isValid = true := Date.isValid_ofDay _
  have hday : t.date.toDay = t.localSecond / 86400 := Date.toDay_ofDay _
  have hnanos := t.instant.nanos.isLt
  have hsecond := t.second_lt
  have hleap := h.leap
  have hmin : min t.shownSecond 59 = t.second := by
    rw [shownSecond]
    omega
  have hmoment : t.date.toDay * 86400 + 3600 * (t.hour : Int) + 60 * (t.minute : Int) + (min t.shownSecond 59 : Nat)
      - t.offset = t.instant.second := by
    have hlocal : t.localSecond = t.instant.second + t.offset := rfl
    rw [hmin, hday, Timestamp.hour, Timestamp.minute, Timestamp.second]
    omega
  have hfraction : (t.shownSecond / 60 * 1000000000 + t.instant.nanos % 1000000000) % 2000000000 =
      t.instant.nanos := by
    rw [shownSecond]
    rcases Nat.lt_or_ge t.instant.nanos 1000000000 with hshort | hlong
    · rw [Nat.div_eq_of_lt hshort]
      omega
    · rw [hleap hlong]
      omega
  have hlow : ¬ t.offset ≤ -86400 := by have := h.offset; omega
  have hhigh : ¬ 86400 ≤ t.offset := by have := h.offset; omega
  simp only [ofParts, h.shown, hvalid, hlow, hhigh, hmoment, h.common, hfraction]
  simp

theorem month_date (t : Timestamp) : 1 ≤ t.date.month ∧ t.date.month ≤ 12 ∧ 1 ≤ t.date.day ∧ t.date.day ≤ 31 := by
  obtain ⟨k, d, l, hof, hpos, hl, hd, -⟩ := Date.ofDay_cases (t.localSecond / 86400)
  have hlengths : ∀ leap, (Date.monthLengths leap).length = 12 ∧ ∀ l ∈ Date.monthLengths leap, l ≤ 31 := by decide
  obtain ⟨hk, hmem⟩ := List.getElem?_eq_some_iff.1 hl
  have hlong := (hlengths _).2 l (hmem ▸ List.getElem_mem hk)
  rw [(hlengths _).1] at hk
  rw [date, hof]
  exact ⟨Nat.succ_pos k, hk, hpos, Nat.le_trans hd hlong⟩

theorem localChars_append (t : Timestamp) (zone : List Char) :
    t.localChars ++ zone = yearChars t.date.year ++ '-' :: (twoDigits t.date.month ++ '-' ::
      (twoDigits t.date.day ++ 'T' :: (twoDigits t.hour ++ ':' :: (twoDigits t.minute ++ ':' ::
        (twoDigits t.shownSecond ++ (fractionChars (t.instant.nanos % 1000000000) ++ zone)))))) := by
  simp [localChars]

theorem hour_lt (t : Timestamp) : t.hour < 24 := by
  rw [Timestamp.hour]
  omega

theorem minute_lt (t : Timestamp) : t.minute < 60 := by
  rw [Timestamp.minute]
  omega

theorem ofChars_localChars (h : t.Writable) {zone : List Char} (hzone : Time.offset zone = .ok (t.offset, []))
    (hhead : ∀ c ∈ zone.head?, c.isDigit = false ∧ c ≠ '.' ∧ isBlank c = false) :
    ofChars (t.localChars ++ zone) = .ok t := by
  obtain ⟨hmonth, hmonth', hday, hday'⟩ := month_date t
  have hhour : t.hour ≤ 23 := Nat.le_of_lt_succ t.hour_lt
  have hminute : t.minute ≤ 59 := Nat.le_of_lt_succ t.minute_lt
  have hsecond := shownSecond_le h
  have hskip : skipBlanks zone = zone := by
    cases zone with
    | nil => rfl
    | cons c r => exact skipBlanks_cons (hhead c rfl).2.2 r
  have hseparator (cs : List Char) : separator ('T' :: cs) = .ok cs := by simp [separator]
  rw [localChars_append, ofChars, year_yearChars _ h.shown]
  simp only [bind, Except.bind, skipBlanks_cons (show isBlank '-' = false by decide), mark_cons, hseparator,
    skipBlanks_cons (show isBlank ':' = false by decide), field_twoDigits _ hmonth hmonth' (by omega),
    field_twoDigits _ hday hday' (by omega), field_twoDigits _ (Nat.zero_le t.hour) hhour (by omega),
    field_twoDigits _ (Nat.zero_le t.minute) hminute (by omega),
    field_twoDigits _ (Nat.zero_le t.shownSecond) hsecond (by omega),
    fraction_fractionChars _ (Nat.mod_lt _ (by decide)) fun c hc => ⟨(hhead c hc).1, (hhead c hc).2.1⟩, hskip, hzone]
  exact ofParts_date h

theorem ofText_documentText (h : t.Writable) : ofText t.documentText = .ok t := by
  rw [ofText, documentText, String.toList_ofList]
  by_cases hz : t.offset = 0
  · rw [if_pos hz]
    refine ofChars_localChars h (by rw [hz]; rfl) fun c hc => ?_
    obtain rfl : 'Z' = c := Option.some.inj hc
    decide
  · rw [if_neg hz]
    refine ofChars_localChars h (offset_offsetChars h.offset.1 h.offset.2 h.whole) fun c hc => ?_
    obtain rfl : (if t.offset < 0 then '-' else '+') = c := Option.some.inj hc
    split <;> decide

theorem le_of_field {low high n : Nat} {cs rest : List Char} (h : field low high cs = .ok (n, rest)) : n ≤ high := by
  obtain ⟨ds, -, -, hle⟩ := figures_of_field h
  exact hle

theorem exists_ofParts {cs : List Char} (h : ofChars cs = .ok t) :
    ∃ d hour minute second nanos offset, hour ≤ 23 ∧ minute ≤ 59 ∧ second ≤ 60 ∧ nanos < 1000000000 ∧
      offset % 60 = 0 ∧ ofParts d hour minute second nanos offset = .ok t := by
  obtain ⟨⟨y, cs⟩, -, h⟩ := exists_of_bind_ok h
  obtain ⟨cs, -, h⟩ := exists_of_bind_ok h
  obtain ⟨⟨month, cs⟩, -, h⟩ := exists_of_bind_ok h
  obtain ⟨cs, -, h⟩ := exists_of_bind_ok h
  obtain ⟨⟨day, cs⟩, -, h⟩ := exists_of_bind_ok h
  obtain ⟨cs, -, h⟩ := exists_of_bind_ok h
  obtain ⟨⟨hour, cs⟩, hhour, h⟩ := exists_of_bind_ok h
  obtain ⟨cs, -, h⟩ := exists_of_bind_ok h
  obtain ⟨⟨minute, cs⟩, hminute, h⟩ := exists_of_bind_ok h
  obtain ⟨cs, -, h⟩ := exists_of_bind_ok h
  obtain ⟨⟨second, cs⟩, hsecond, h⟩ := exists_of_bind_ok h
  obtain ⟨⟨nanos, cs⟩, hnanos, h⟩ := exists_of_bind_ok h
  obtain ⟨⟨offset, cs⟩, hoffset, h⟩ := exists_of_bind_ok h
  simp only at h
  split at h
  · exact ⟨_, _, _, _, _, _, le_of_field hhour, le_of_field hminute, le_of_field hsecond, fraction_lt hnanos,
      whole_of_offset hoffset, h⟩
  · contradiction

theorem writable_of_ofParts {d : Date} {hour minute second nanos : Nat} {offset : Int} (hhour : hour ≤ 23)
    (hminute : minute ≤ 59) (hsecond : second ≤ 60) (hnanos : nanos < 1000000000) (hwhole : offset % 60 = 0)
    (h : ofParts d hour minute second nanos offset = .ok t) : t.Writable := by
  unfold ofParts at h
  split at h
  · contradiction
  · rename_i hparts
    simp only at h
    split at h
    · rename_i hcommon
      obtain rfl := Except.ok.inj h
      simp only [Bool.or_eq_true, Bool.not_eq_true', decide_eq_true_eq, not_or, Bool.not_eq_false, Int.not_le] at hparts
      obtain ⟨⟨⟨hyear, hvalid⟩, hlow⟩, hhigh⟩ := hparts
      have hday : (d.toDay * 86400 + 3600 * (hour : Int) + 60 * minute + (min second 59 : Nat) - offset + offset) /
          86400 = d.toDay := by omega
      refine ⟨⟨hlow, hhigh⟩, hwhole, fun hlong => ?_, ?_, hcommon⟩
      · simp only [Timestamp.second, localSecond] at hlong ⊢
        omega
      · rw [date, localSecond, hday, Date.year_ofDay_toDay hvalid]
        exact hyear
    · contradiction

theorem writable_of_ofText {s : String} (h : ofText s = .ok t) : t.Writable := by
  obtain ⟨d, hour, minute, second, nanos, offset, hhour, hminute, hsecond, hnanos, hoffset, hparts⟩ := exists_ofParts h
  exact writable_of_ofParts hhour hminute hsecond hnanos hoffset hparts

theorem writable_default : (default : Timestamp).Writable :=
  ⟨by decide, by decide, by decide, by decide, by decide⟩

end Timestamp

namespace Instant

variable {t : Instant}

def Writable (t : Instant) : Prop := Timestamp.Writable ⟨t, 0⟩

theorem ofText_documentText (h : t.Writable) : ofText t.documentText = .ok t := by
  rw [ofText, documentText, Timestamp.ofText_documentText h]
  rfl

theorem writable_of_ofText {s : String} (h : ofText s = .ok t) : t.Writable := by
  rw [ofText] at h
  cases hs : Timestamp.ofText s with
  | error e => simp [hs, Except.map] at h
  | ok u =>
    obtain rfl : u.instant = t := by simpa [hs, Except.map] using h
    have hwritable := Timestamp.writable_of_ofText hs
    have hcommon : Timestamp.inRange (Timestamp.date ⟨u.instant, 0⟩).year = true := by
      rw [Timestamp.date, Timestamp.localSecond, Int.add_zero]
      exact hwritable.common
    refine ⟨⟨by simp, by simp⟩, rfl, fun hlong => ?_, hcommon, hwritable.common⟩
    -- an offset of whole minutes leaves the seconds of the minute as they are
    have hlocal := hwritable.leap hlong
    have hwhole := hwritable.whole
    simp only [Timestamp.second, Timestamp.localSecond] at hlocal ⊢
    omega

end Instant

end AccessPolicy
