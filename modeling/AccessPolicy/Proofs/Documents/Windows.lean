import AccessPolicy.Proofs.Documents.Effects
import AccessPolicy.Proofs.Time.Clock
import AccessPolicy.Time.ZoneTable

namespace AccessPolicy

namespace Weekday

theorem ofNumber?_eq_none_iff {n : Nat} : ofNumber? n = none ↔ 6 < n := by
  rw [ofNumber?, List.getElem?_eq_none_iff]
  rfl

end Weekday

namespace TimeWindow

theorem fault?_collectDays (seen : List Weekday) (ns : List Nat) :
    fault? (collectDays seen ns) = ((ns.filter (6 < ·)).map WindowFault.day).head? := by
  induction ns generalizing seen with
  | nil => rfl
  | cons n ns ih =>
    rw [collectDays]
    cases hd : Weekday.ofNumber? n with
    | none =>
      have hn : 6 < n := Weekday.ofNumber?_eq_none_iff.1 hd
      rw [List.filter_cons_of_pos (by simpa using hn)]
      rfl
    | some d =>
      have hn : ¬6 < n := fun hlt => by simp [Weekday.ofNumber?_eq_none_iff.2 hlt] at hd
      rw [List.filter_cons_of_neg (by simpa using hn)]
      exact ih _

section Database

variable [ZoneDatabase] (p : WindowParts)

def faults : List WindowFault :=
  ((fault? (Clock.ofText p.start)).map (WindowFault.start p.start)).toList ++
  ((fault? (Clock.ofText p.finish)).map (WindowFault.finish p.finish)).toList ++
  (if Text.trim p.zone ≠ "" ∧ ZoneDatabase.ofName? (Text.trim p.zone) = none then [.zone (Text.trim p.zone)] else []) ++
  (p.days.filter (6 < ·)).map .day

theorem fault?_readZone (name : String) : fault? (readZone name) =
    if Text.trim name ≠ "" ∧ ZoneDatabase.ofName? (Text.trim name) = none then some (.zone (Text.trim name))
    else none := by
  simp only [readZone]
  by_cases hempty : Text.trim name = ""
  · simp [hempty, fault?]
  · cases h : ZoneDatabase.ofName? (Text.trim name) with
    | none => simp [hempty, fault?]
    | some z => simp [hempty, fault?]

theorem head?_faults : (faults p).head? =
    ((fault? (Clock.ofText p.start)).map (WindowFault.start p.start)).or
      (((fault? (Clock.ofText p.finish)).map (WindowFault.finish p.finish)).or
        ((fault? (readZone p.zone)).or (fault? (collectDays [] p.days)))) := by
  have hzone : (if Text.trim p.zone ≠ "" ∧ ZoneDatabase.ofName? (Text.trim p.zone) = none then
      [WindowFault.zone (Text.trim p.zone)] else []).head? = fault? (readZone p.zone) := by
    rw [fault?_readZone]
    split <;> rfl
  simp only [faults, List.head?_append, Option.head?_toList, hzone, fault?_collectDays, Option.or_assoc]

theorem fault?_ofParts : fault? (ofParts p) = (faults p).head? := by
  rw [head?_faults, ofParts]
  cases Clock.ofText p.start with
  | error e => rfl
  | ok start =>
    cases Clock.ofText p.finish with
    | error e => rfl
    | ok finish =>
      cases readZone p.zone with
      | error e => rfl
      | ok zone => cases collectDays [] p.days <;> rfl

theorem exists_ofParts_eq_error_iff : (∃ f, ofParts p = .error f) ↔
    (¬∃ c : Clock, c.IsSaidBy p.start) ∨ (¬∃ c : Clock, c.IsSaidBy p.finish) ∨
      (Text.trim p.zone ≠ "" ∧ ZoneDatabase.ofName? (Text.trim p.zone) = none) ∨ ∃ n ∈ p.days, 6 < n := by
  have hor {α : Type} (a b : Option α) : a.or b ≠ none ↔ a ≠ none ∨ b ≠ none := by
    cases a <;> simp
  have hzone : fault? (readZone p.zone) ≠ none ↔
      Text.trim p.zone ≠ "" ∧ ZoneDatabase.ofName? (Text.trim p.zone) = none := by
    rw [fault?_readZone]
    split <;> simp_all
  have hdays : fault? (collectDays [] p.days) ≠ none ↔ ∃ n ∈ p.days, 6 < n := by
    rw [fault?_collectDays, Ne, List.head?_eq_none_iff, List.map_eq_nil_iff, List.filter_eq_nil_iff]
    simp
  have hclock (s : String) (g : TimeFault → WindowFault) :
      (fault? (Clock.ofText s)).map g ≠ none ↔ ¬∃ c : Clock, c.IsSaidBy s := by
    rw [Ne, Option.map_eq_none_iff, ← Ne, fault?_ne_none_iff, Clock.exists_ofText_eq_error_iff]
  rw [← fault?_ne_none_iff, fault?_ofParts, head?_faults, hor, hor, hor, hclock, hclock, hzone, hdays]

section Accepted

variable {p} {w : TimeWindow}

theorem firstOccurrences_of_ofParts (h : ofParts p = .ok w) : FirstOccurrences p.days w.days :=
  firstOccurrences_of_collectDays (read_of_ofParts h).2.2.2 .nil

theorem ofParts_parts_of_ofParts (h : ofParts p = .ok w) : ofParts w.parts = .ok w :=
  ofParts_parts (stored_of_ofParts h)

theorem eq_iff_parts_eq {q : WindowParts} {v : TimeWindow} (hw : ofParts p = .ok w) (hv : ofParts q = .ok v) :
    w = v ↔ w.parts = v.parts := by
  constructor
  · rintro rfl
    rfl
  · intro hparts
    have hread := ofParts_parts_of_ofParts hw
    rw [hparts, ofParts_parts_of_ofParts hv] at hread
    exact (Except.ok.inj hread).symm

end Accepted

/-- Parts make up no window exactly if one of them is wrong, and then the first fault is told, in the order of start,
finish, zone and days. The window of other parts starts and ends with the minutes that they say, has the zone they
name and the days that their numbers name, each once and in the order in which they first come. It is read back from
its own parts and from its own document, and windows are the same if their parts are. -/
theorem windows_and_parts :
    ((∃ f, ofParts p = .error f) ↔
      (¬∃ c : Clock, c.IsSaidBy p.start) ∨ (¬∃ c : Clock, c.IsSaidBy p.finish) ∨
        (Text.trim p.zone ≠ "" ∧ ZoneDatabase.ofName? (Text.trim p.zone) = none) ∨ ∃ n ∈ p.days, 6 < n) ∧
    (∀ f, ofParts p = .error f ↔ (faults p).head? = some f) ∧
    ∀ w, ofParts p = .ok w →
      w.start.toMinutes < 1440 ∧ w.finish.toMinutes < 1440 ∧ w.start.IsSaidBy p.start ∧ w.finish.IsSaidBy p.finish ∧
      (if Text.trim p.zone = "" then w.zone = ZoneDatabase.utc
        else ZoneDatabase.ofName? (Text.trim p.zone) = some w.zone) ∧
      FirstOccurrences p.days w.days ∧
      ofParts w.parts = .ok w ∧ Json.ReadsAs (Json.decode decoder) w.toJson (· = w) ∧
      ∀ q v, ofParts q = .ok v → (w = v ↔ w.parts = v.parts) := by
  refine ⟨exists_ofParts_eq_error_iff p, fun f => ?_, fun w hw => ?_⟩
  · rw [← fault?_ofParts, fault?_eq_some_iff]
  · obtain ⟨hstart, hfinish, hzone, -⟩ := read_of_ofParts hw
    refine ⟨w.start.toMinutes_lt, w.finish.toMinutes_lt, Clock.isSaidBy_of_ofText hstart,
      Clock.isSaidBy_of_ofText hfinish, zone_of_readZone hzone, firstOccurrences_of_ofParts hw,
      ofParts_parts_of_ofParts hw, ?_, fun q v hv => eq_iff_parts_eq hw hv⟩
    exact Json.readsAs_of_decoder ⟨w, decoder_toJson (stored_of_ofParts hw), rfl⟩

end Database

open ZoneTable in
theorem windows_and_parts_of_loose_text :
    let p : WindowParts := ⟨" 9: 5\n", "17:00", " UTC ", [5, 1, 5]⟩
    let w : TimeWindow := ⟨⟨9, 5⟩, ⟨17, 0⟩, ⟨"UTC"⟩, [.friday, .monday]⟩
    ofParts p = .ok w ∧ w.start.IsSaidBy p.start ∧ FirstOccurrences p.days w.days ∧ ofParts w.parts = .ok w ∧
      w.parts ≠ p := by
  intro p w
  have hread : ofParts p = .ok w := by decide +kernel
  obtain ⟨-, -, haccepted⟩ := windows_and_parts p
  obtain ⟨-, -, hstart, -, -, hdays, hback, -⟩ := haccepted w hread
  exact ⟨hread, hstart, hdays, hback, by decide +kernel⟩

end TimeWindow

end AccessPolicy
