import AccessPolicy.Proofs.Time.Scan
import AccessPolicy.Time.Window
import Mathlib.Data.List.Basic

namespace AccessPolicy

open Time

namespace Clock

theorem trimChars_chars (c : Clock) : Text.trimChars c.chars = c.chars := by
  have hhour := isBlank_of_isDigit (isDigit_twoDigits (n := c.hour) (by omega) _ List.mem_cons_self)
  have hminute := isBlank_of_isDigit (isDigit_twoDigits (n := c.minute) (by omega) _
    (List.mem_cons_of_mem _ List.mem_cons_self))
  simp only [chars, twoDigits, Text.trimChars, List.cons_append, List.nil_append]
  rw [skipBlanks_cons hhour]
  simp only [List.reverse_cons, List.reverse_nil, List.nil_append, List.cons_append]
  rw [skipBlanks_cons hminute]
  rfl

theorem ofText_text (c : Clock) : ofText c.text = .ok c := by
  have hhour := c.hour.isLt
  have hminute := c.minute.isLt
  have hread : field 0 59 (twoDigits c.minute ++ []) = .ok (c.minute.val, []) :=
    field_twoDigits [] (Nat.zero_le _) (by omega) (by omega)
  rw [List.append_nil] at hread
  rw [ofText, text, String.toList_ofList, ofChars, trimChars_chars, chars]
  simp only [field_twoDigits _ (Nat.zero_le c.hour.val) (Nat.le_of_lt_succ hhour) (by omega), bind, Except.bind,
    mark_cons, hread]
  simp

end Clock

namespace Weekday

theorem number_inj {d e : Weekday} : d.number = e.number ↔ d = e := by
  constructor
  · intro h
    have hread := ofNumber?_number d
    rw [h, ofNumber?_number] at hread
    exact (Option.some.inj hread).symm
  · rintro rfl
    rfl

end Weekday

namespace TimeWindow

theorem collectDays_numbers (ds : List Weekday) (seen : List Weekday) (h : (seen ++ ds).Nodup) :
    collectDays seen (ds.map Weekday.number) = .ok (seen ++ ds) := by
  induction ds generalizing seen with
  | nil => simp [collectDays]
  | cons d ds ih =>
    have hd : d ∉ seen := fun hmem => (List.nodup_append.1 h).2.2 d hmem d List.mem_cons_self rfl
    rw [List.map_cons, collectDays, Weekday.ofNumber?_number]
    simp only [if_neg hd]
    have := ih (seen ++ [d]) (by simpa using h)
    simpa using this

/-- The days of some numbers, each day once and in the order in which the numbers first name them. -/
structure FirstOccurrences (ns : List Nat) (ds : List Weekday) : Prop where
  nodup : ds.Nodup
  mem_iff : ∀ d, d ∈ ds ↔ d.number ∈ ns
  ordered : ds.Pairwise fun d e => ns.idxOf d.number < ns.idxOf e.number

section Days

variable {ms ns : List Nat} {seen days : List Weekday}

theorem FirstOccurrences.nil : FirstOccurrences [] [] := ⟨.nil, by simp, .nil⟩

theorem FirstOccurrences.append_of_mem {d : Weekday} (h : FirstOccurrences ms seen) (hd : d ∈ seen) :
    FirstOccurrences (ms ++ [d.number]) seen := by
  refine ⟨h.nodup, fun e => ?_, h.ordered.imp_of_mem fun ha hb hlt => ?_⟩
  · rw [h.mem_iff, List.mem_append, List.mem_singleton]
    refine ⟨.inl, fun he => he.elim id fun heq => ?_⟩
    rw [heq]
    exact (h.mem_iff d).1 hd
  · rwa [List.idxOf_append_of_mem ((h.mem_iff _).1 ha), List.idxOf_append_of_mem ((h.mem_iff _).1 hb)]

theorem FirstOccurrences.append_of_not_mem {d : Weekday} (h : FirstOccurrences ms seen) (hd : d ∉ seen) :
    FirstOccurrences (ms ++ [d.number]) (seen ++ [d]) := by
  have hnew : d.number ∉ ms := fun hmem => hd ((h.mem_iff d).2 hmem)
  refine ⟨?_, fun e => ?_, ?_⟩
  · refine List.nodup_append.2 ⟨h.nodup, by simp, fun a ha b hb => ?_⟩
    rintro rfl
    exact hd (List.mem_singleton.1 hb ▸ ha)
  · rw [List.mem_append, List.mem_append, List.mem_singleton, List.mem_singleton, h.mem_iff, Weekday.number_inj]
  · refine List.pairwise_append.2
      ⟨h.ordered.imp_of_mem fun ha hb hlt => ?_, List.pairwise_singleton _ _, fun e he f hf => ?_⟩
    · rwa [List.idxOf_append_of_mem ((h.mem_iff _).1 ha), List.idxOf_append_of_mem ((h.mem_iff _).1 hb)]
    · obtain rfl := List.mem_singleton.1 hf
      have hmem := (h.mem_iff e).1 he
      rw [List.idxOf_append_of_mem hmem, List.idxOf_append_of_notMem hnew]
      have := List.idxOf_lt_length_iff.2 hmem
      omega

theorem firstOccurrences_of_collectDays (h : collectDays seen ns = .ok days) (hseen : FirstOccurrences ms seen) :
    FirstOccurrences (ms ++ ns) days := by
  induction ns generalizing ms seen with
  | nil =>
    cases h
    rwa [List.append_nil]
  | cons n ns ih =>
    rw [collectDays] at h
    cases hd : Weekday.ofNumber? n with
    | none => simp [hd] at h
    | some d =>
      simp only [hd] at h
      obtain rfl : d.number = n := Weekday.number_of_ofNumber? hd
      rw [List.append_cons]
      refine ih h ?_
      split
      · exact hseen.append_of_mem ‹_›
      · exact hseen.append_of_not_mem ‹_›

end Days

section Database

variable [ZoneDatabase] {z : Zone} {w : TimeWindow}

theorem readZone_name (h : z.IsKnown) : readZone z.name = .ok z := by
  have hfound : ZoneDatabase.ofName? z.name = some z := h
  simp only [readZone, ZoneDatabase.trim_name hfound]
  rw [if_neg (ZoneDatabase.name_ne_empty hfound), hfound]

theorem zone_of_readZone {name : String} (h : readZone name = .ok z) :
    if Text.trim name = "" then z = ZoneDatabase.utc else ZoneDatabase.ofName? (Text.trim name) = some z := by
  simp only [readZone] at h
  split at h
  · rw [if_pos ‹_›]
    exact (Except.ok.inj h).symm
  · rw [if_neg ‹_›]
    split at h
    · rename_i hname
      rw [hname, Except.ok.inj h]
    · contradiction

theorem isKnown_of_readZone {name : String} (h : readZone name = .ok z) : z.IsKnown := by
  have hzone := zone_of_readZone h
  split at hzone
  · rw [hzone]
    exact ZoneDatabase.ofName?_utc
  · exact ZoneDatabase.ofName?_name hzone

structure Stored (w : TimeWindow) : Prop where
  days : w.days.Nodup
  zone : w.zone.IsKnown

theorem ofParts_parts (h : w.Stored) : ofParts w.parts = .ok w := by
  have hdays := collectDays_numbers w.days [] (by simpa using h.days)
  simp [ofParts, parts, Clock.ofText_text, readZone_name h.zone, hdays, Except.mapError, bind, Except.bind, pure,
    Except.pure]

theorem read_of_ofParts {p : WindowParts} (h : ofParts p = .ok w) :
    Clock.ofText p.start = .ok w.start ∧ Clock.ofText p.finish = .ok w.finish ∧ readZone p.zone = .ok w.zone ∧
      collectDays [] p.days = .ok w.days := by
  obtain ⟨start, hstart, hfrom⟩ := exists_of_bind_ok h
  obtain ⟨finish, hfinish, hto⟩ := exists_of_bind_ok hfrom
  obtain ⟨zone, hzone, hin⟩ := exists_of_bind_ok hto
  obtain ⟨days, hdays, hon⟩ := exists_of_bind_ok hin
  obtain rfl := Except.ok.inj hon
  exact ⟨ok_of_mapError_ok hstart, ok_of_mapError_ok hfinish, hzone, hdays⟩

theorem stored_of_ofParts {p : WindowParts} (h : ofParts p = .ok w) : w.Stored := by
  obtain ⟨-, -, hzone, hdays⟩ := read_of_ofParts h
  exact ⟨(firstOccurrences_of_collectDays hdays .nil).nodup, isKnown_of_readZone hzone⟩

end Database

end TimeWindow

end AccessPolicy
