import AccessPolicy.Proofs.Time.Clock
import AccessPolicy.Time.Window
import AccessPolicy.Time.ZoneTable

namespace AccessPolicy

namespace Timestamp

variable (l : Timestamp) (c : Clock)

def dayMinute : Nat := (l.localSecond % 86400 / 60).toNat

theorem dayMinute_eq : l.dayMinute = 60 * l.hour + l.minute := by
  rw [dayMinute, hour, minute]
  omega

theorem dayMinute_lt : l.dayMinute < 1440 := by
  rw [dayMinute]
  omega

theorem compareClock_eq_lt_iff : l.compareClock c = .lt ↔ l.dayMinute < c.toMinutes := by
  have hnanos : compare l.instant.nanos.val 0 ≠ .lt := by
    rw [Ne, Nat.compare_eq_lt]
    exact Nat.not_lt_zero _
  rw [compareClock, Ordering.then_eq_lt, Nat.compare_eq_lt, dayMinute]
  constructor
  · rintro (hlt | ⟨-, hlt⟩)
    · omega
    · exact absurd hlt hnanos
  · intro hlt
    left
    omega

end Timestamp

namespace TimeWindow

variable (w : TimeWindow)

/-- For how many minutes of a day the window is open; for all of them if it ends when it starts. -/
def span : Int :=
  if w.start = w.finish then 1440 else ((w.finish.toMinutes : Int) - w.start.toMinutes) % 1440

def swapped : TimeWindow := { w with start := w.finish, finish := w.start }

theorem between_iff {s e m : Nat} (hs : s < 1440) (he : e < 1440) (hm : m < 1440) :
    (if s < e then s ≤ m ∧ m < e else s ≤ m ∨ m < e) ↔
      ((m : Int) - s) % 1440 < if s = e then 1440 else ((e : Int) - s) % 1440 := by
  by_cases hlt : s < e
  · rw [if_pos hlt, if_neg (by omega)]
    omega
  · rw [if_neg hlt]
    by_cases heq : s = e
    · rw [if_pos heq]
      omega
    · rw [if_neg heq]
      omega

section Database

variable [ZoneDatabase] (t : Instant)

theorem contains_iff : w.contains t = true ↔
    (w.days = [] ∨ (w.zone.localTime t).weekday ∈ w.days) ∧
      (((w.zone.localTime t).dayMinute : Int) - w.start.toMinutes) % 1440 < w.span := by
  have hbetween := between_iff w.start.toMinutes_lt w.finish.toMinutes_lt (w.zone.localTime t).dayMinute_lt
  have hbefore (c : Clock) : ((w.zone.localTime t).compareClock c == .lt) = true ↔
      (w.zone.localTime t).dayMinute < c.toMinutes := by
    rw [beq_iff_eq, Timestamp.compareClock_eq_lt_iff]
  have hfrom (c : Clock) : ((w.zone.localTime t).compareClock c != .lt) = true ↔
      c.toMinutes ≤ (w.zone.localTime t).dayMinute := by
    rw [bne_iff_ne, Ne, Timestamp.compareClock_eq_lt_iff, Nat.not_lt]
  simp only [Clock.toMinutes_inj] at hbetween
  rw [span, ← hbetween, ← List.isEmpty_iff, ← List.contains_iff_mem, ← Bool.or_eq_true, contains, Bool.and_eq_true]
  refine and_congr_right fun _ => ?_
  split
  · rw [Bool.and_eq_true]
    exact and_congr (hfrom w.start) (hbefore w.finish)
  · rw [Bool.or_eq_true]
    exact or_congr (hfrom w.start) (hbefore w.finish)

theorem contains_swapped (hdays : w.days = []) (hne : w.start ≠ w.finish) :
    w.swapped.contains t = !w.contains t := by
  have hminutes : w.start.toMinutes ≠ w.finish.toMinutes := fun h => hne (Clock.toMinutes_inj.1 h)
  have hstart := w.start.toMinutes_lt
  have hfinish := w.finish.toMinutes_lt
  have hspan : w.swapped.span = 1440 - w.span := by
    have hswapped : w.swapped.span = ((w.start.toMinutes : Int) - w.finish.toMinutes) % 1440 := if_neg (Ne.symm hne)
    rw [hswapped, span, if_neg hne]
    omega
  have hlocal : w.swapped.zone.localTime t = w.zone.localTime t := rfl
  rw [Bool.eq_iff_iff, Bool.not_eq_true', ← Bool.not_eq_true, contains_iff, contains_iff, hspan, hlocal]
  show (w.days = [] ∨ _) ∧ (_ - (w.finish.toMinutes : Int)) % 1440 < _ ↔ _
  rw [span, if_neg hne]
  simp only [hdays, true_or, true_and]
  omega

theorem contains_complement {ds es : List Weekday} (hds : ds ≠ []) (hes : es ≠ []) (h : ∀ d, d ∈ es ↔ d ∉ ds) :
    ({ w with days := ds }.contains t && { w with days := es }.contains t) = false ∧
      ({ w with days := ds }.contains t || { w with days := es }.contains t) =
        { w with days := [] }.contains t := by
  have hon {ds : List Weekday} (hds : ds ≠ []) : { w with days := ds }.contains t =
      (decide ((w.zone.localTime t).weekday ∈ ds) && { w with days := [] }.contains t) := by
    rw [Bool.eq_iff_iff, Bool.and_eq_true, decide_eq_true_iff, contains_iff, contains_iff]
    simp only [hds, false_or, true_or, true_and]
    rfl
  rw [hon hds, hon hes]
  simp only [h]
  cases { w with days := [] }.contains t <;> by_cases hd : (w.zone.localTime t).weekday ∈ ds <;> simp [hd]

/-- Whatever the database says of the clocks in a zone, a window is open on its days for so many minutes from its
start, and what it leaves out of a day or of a week is left to the window that complements it. -/
theorem open_for_span :
    (let l := w.zone.localTime t
     w.contains t = true ↔ (w.days = [] ∨ l.weekday ∈ w.days) ∧
       ((60 * l.hour + l.minute : Int) - w.start.toMinutes) % 1440 < w.span) ∧
    (w.days = [] → w.start ≠ w.finish → w.swapped.contains t = !w.contains t) ∧
    ∀ ds es : List Weekday, ds ≠ [] → es ≠ [] → (∀ d, d ∈ es ↔ d ∉ ds) →
      ({ w with days := ds }.contains t && { w with days := es }.contains t) = false ∧
      ({ w with days := ds }.contains t || { w with days := es }.contains t) = { w with days := [] }.contains t := by
  refine ⟨?_, contains_swapped w t, fun ds es hds hes h => ?_⟩
  · have hminute := (w.zone.localTime t).dayMinute_eq
    have hiff := contains_iff w t
    rw [hminute, Nat.cast_add, Nat.cast_mul] at hiff
    exact hiff
  · exact contains_complement w t hds hes h

end Database

open ZoneTable in
theorem open_in_leap_second :
    let w : TimeWindow := ⟨⟨23, 59⟩, ⟨0, 0⟩, ⟨"UTC"⟩, []⟩
    let t : Instant := ⟨1483228799, 1500000000⟩
    w.contains t = true ∧ w.swapped.contains t = false ∧ { w with days := [.saturday] }.contains t = true := by
  intro w t
  obtain ⟨hiff, hswap, hdays⟩ := open_for_span w t
  have hopen : w.contains t = true := hiff.2 ⟨.inl rfl, by decide +kernel⟩
  have hcomplement := hdays [.saturday] [.sunday, .monday, .tuesday, .wednesday, .thursday, .friday] (by decide)
    (by decide) fun d => by cases d <;> decide
  refine ⟨hopen, ?_, ?_⟩
  · rw [hswap rfl (by decide), hopen]
    rfl
  · have hother : { w with days := [.sunday, .monday, .tuesday, .wednesday, .thursday, .friday] }.contains t =
        false := by decide +kernel
    have hall := hcomplement.2
    rw [hother, Bool.or_false] at hall
    exact hall.trans hopen

end TimeWindow

end AccessPolicy
