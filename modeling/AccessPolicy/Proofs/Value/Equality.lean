import AccessPolicy.Policy.Matching
import AccessPolicy.Proofs.Value.Display

namespace AccessPolicy

namespace Binary64

theorem same_iff_place {x y : Binary64} : x.same y = true ↔ x.place = y.place ∧ x.place ≠ none := by
  constructor
  · intro h
    refine ⟨place_eq_of_same h, fun hnone => ?_⟩
    simp [same, compare?, hnone] at h
  · rintro ⟨hplace, hsome⟩
    obtain ⟨p, hp⟩ := Option.ne_none_iff_exists'.1 hsome
    exact same_of_place_eq hp (hplace ▸ hp)

theorem compare?_eq_iff {x y : Binary64} {o : Ordering} (h : x.compare? y = some o) :
    o = .eq ↔ x.displayText = y.displayText := by
  have hsame : o = .eq ↔ x.same y = true := by
    rw [same, h, beq_iff_eq, Option.some.injEq]
  rw [hsame]
  constructor
  · exact displayText_eq_of_same
  · intro htext
    refine same_iff_place.2 ⟨place_eq_of_displayText_eq htext, fun hnone => ?_⟩
    simp [compare?, hnone] at h

end Binary64

namespace Value

theorem display_number_eq_iff {x y : Binary64} :
    (number x).display = (number y).display ↔ x.displayText = y.displayText := by
  simp only [display, chars, String.ofList_inj]

theorem compare_display_eq_iff {v w : Value} : Ord.compare v.display w.display = .eq ↔ v.display = w.display :=
  Std.LawfulEqCmp.compare_eq_iff_eq

theorem compare_eq_iff {v w : Value} : v.compare w = .eq ↔ v.display = w.display := by
  unfold compare
  split
  · rename_i x y
    cases h : x.compare? y with
    | none => exact compare_display_eq_iff
    | some o => exact (Binary64.compare?_eq_iff h).trans display_number_eq_iff.symm
  · exact compare_display_eq_iff

theorem isAmong_iff {v list : Value} :
    v.isAmong list = true ↔ ∃ items, list = .list items ∧ v.display ∈ items.map display := by
  have hany : ∀ items : List Value,
      (items.any fun w => v.compare w == .eq) = true ↔ v.display ∈ items.map display := by
    intro items
    rw [List.any_eq_true, List.mem_map]
    exact exists_congr fun w => and_congr_right fun _ =>
      beq_iff_eq.trans (compare_eq_iff.trans eq_comm)
  constructor
  · intro h
    cases list with
    | list items => exact ⟨items, rfl, (hany items).1 h⟩
    | _ => contradiction
  · rintro ⟨items, rfl, h⟩
    exact (hany items).2 h

end Value

theorem Text.contains_self (cs : List Char) : Text.contains cs cs = true := by
  cases cs with
  | nil => rfl
  | cons c cs => simp [Text.contains]

namespace Condition

variable (mode : PatternMode) (c : Condition) (a : Value)

theorem equal_holds : { c with operator := .equal }.holds mode a = true ↔ a.display = c.value.display :=
  beq_iff_eq.trans Value.compare_eq_iff

theorem among_holds : { c with operator := .among }.holds mode a = true ↔
    ∃ items, c.value = .list items ∧ a.display ∈ items.map Value.display :=
  Value.isAmong_iff

theorem notAmong_holds : { c with operator := .notAmong }.holds mode a = true ↔
    ¬∃ items, c.value = .list items ∧ a.display ∈ items.map Value.display := by
  rw [← among_holds mode, Bool.not_eq_true]
  exact iff_of_eq (Bool.not_eq_true' _)

theorem holds_of_equal (h : { c with operator := .equal }.holds mode a = true) {op : Operator}
    (hop : op ∈ [.atLeast, .atMost, .contains]) : { c with operator := op }.holds mode a = true := by
  have hcompare : a.compare c.value = .eq := eq_of_beq h
  have hchars : a.chars = c.value.chars := String.ofList_injective ((equal_holds mode c a).1 h)
  simp only [List.mem_cons, List.not_mem_nil, or_false] at hop
  rcases hop with rfl | rfl | rfl
  · simp only [holds, hcompare]; rfl
  · simp only [holds, hcompare]; rfl
  · simp only [holds, hchars, Text.contains_self]

theorem equality_by_text :
    (∀ a b : Value, a.compare b = .eq ↔ a.display = b.display) ∧
    Equivalence (fun a b : Value => { c with operator := .equal, value := b }.holds mode a = true) ∧
    (∀ a, { c with operator := .among }.holds mode a = true ↔
      ∃ items, c.value = .list items ∧ a.display ∈ items.map Value.display) ∧
    (∀ a, { c with operator := .notAmong }.holds mode a = true ↔
      ¬∃ items, c.value = .list items ∧ a.display ∈ items.map Value.display) ∧
    ∀ a, { c with operator := .equal }.holds mode a = true →
      ∀ op ∈ [Operator.atLeast, .atMost, .contains], { c with operator := op }.holds mode a = true := by
  have hequal : ∀ a b : Value,
      { c with operator := .equal, value := b }.holds mode a = true ↔ a.display = b.display :=
    fun a b => equal_holds mode { c with value := b } a
  refine ⟨fun a b => Value.compare_eq_iff, ?_, among_holds mode c, notAmong_holds mode c, ?_⟩
  · refine ⟨fun a => (hequal a a).2 rfl, fun {a b} hab => ?_, fun {a b d} hab hbd => ?_⟩
    · exact (hequal b a).2 ((hequal a b).1 hab).symm
    · exact (hequal a d).2 (((hequal a b).1 hab).trans ((hequal b d).1 hbd))
  · intro a h op hop
    exact holds_of_equal mode c a h hop

theorem equality_by_text_of_negative_zero :
    (Value.number (.signed true .zero)).compare (.text "0") = .eq ∧
    { blank with operator := .contains, value := .text "0" }.holds .stub (.number (.signed true .zero)) = true := by
  have hcompare : (Value.number (.signed true .zero)).compare (.text "0") = .eq := by decide +kernel
  have h := equality_by_text .stub { blank with value := .text "0" }
  exact ⟨hcompare, h.2.2.2.2 _ (beq_iff_eq.2 hcompare) .contains (by decide)⟩

end Condition

end AccessPolicy
