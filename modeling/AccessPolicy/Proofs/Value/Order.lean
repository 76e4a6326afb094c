import AccessPolicy.Proofs.Value.Equality

namespace AccessPolicy

namespace Value

def place? (v : Value) : Option Int := v.number?.bind Binary64.place

def compareText (v w : Value) : Ordering := Ord.compare v.display w.display

instance : Std.TransCmp compareText := inferInstanceAs (Std.TransCmp (compareOn display))

theorem compare_eq_of_place? {v w : Value} {p q : Int} (hv : v.place? = some p) (hw : w.place? = some q) :
    v.compare w = Ord.compare p q := by
  obtain ⟨x, hx, hxp⟩ := Option.bind_eq_some_iff.1 hv
  obtain ⟨y, hy, hyq⟩ := Option.bind_eq_some_iff.1 hw
  rw [eq_number_of_number? hx, eq_number_of_number? hy]
  simp only [compare, Binary64.compare?, hxp, hyq, Option.getD_some]

theorem compare_eq_of_left {v : Value} (hv : v.place? = none) (w : Value) : v.compare w = v.compareText w := by
  unfold compare
  split
  · rename_i x y
    have hx : x.place = none := hv
    simp only [Binary64.compare?, hx, Option.getD_none]
    rfl
  · rfl

theorem compare_eq_of_right {w : Value} (hw : w.place? = none) (v : Value) : v.compare w = v.compareText w := by
  unfold compare
  split
  · rename_i x y
    have hy : y.place = none := hw
    cases hx : x.place <;> simp only [Binary64.compare?, hx, hy, Option.getD_none] <;> rfl
  · rfl

theorem compare_ne_gt_of_left {v : Value} (hv : v.place? = none) (w : Value) :
    v.compare w ≠ .gt ↔ (v.compareText w).isLE = true := by
  rw [compare_eq_of_left hv, Ordering.isLE_iff_ne_gt]

theorem compare_ne_gt_of_right {w : Value} (hw : w.place? = none) (v : Value) :
    v.compare w ≠ .gt ↔ (v.compareText w).isLE = true := by
  rw [compare_eq_of_right hw, Ordering.isLE_iff_ne_gt]

theorem compare_swap (v w : Value) : w.compare v = (v.compare w).swap := by
  cases hv : v.place? with
  | none =>
    rw [compare_eq_of_left hv, compare_eq_of_right hv]
    exact Std.OrientedCmp.eq_swap
  | some p =>
    cases hw : w.place? with
    | none =>
      rw [compare_eq_of_left hw, compare_eq_of_right hw]
      exact Std.OrientedCmp.eq_swap
    | some q =>
      rw [compare_eq_of_place? hv hw, compare_eq_of_place? hw hv]
      exact Std.OrientedCmp.eq_swap

theorem display_eq_of_compareText {v w : Value} (hvw : (v.compareText w).isLE = true)
    (hwv : (w.compareText v).isLE = true) : v.display = w.display :=
  compare_display_eq_iff.1 (Std.OrientedCmp.isLE_antisymm hvw hwv)

def Consistent (vs : List Value) : Prop :=
  ∀ u ∈ vs, ∀ v ∈ vs, ∀ w ∈ vs, u.compare v ≠ .gt → v.compare w ≠ .gt → u.compare w ≠ .gt

/-- Whether a value without a place stands by its text between two others, after the greater and before the less. -/
structure Interposes (t x y : Value) : Prop where
  place?_eq_none : t.place? = none
  less : x.compare y = .lt
  after : (y.compareText t).isLE = true
  before : (t.compareText x).isLE = true

theorem Interposes.of_cycle {x y t : Value} (ht : t.place? = none) (hxy : x.compare y ≠ .gt) (hyt : y.compare t ≠ .gt)
    (htx : t.compare x ≠ .gt) (hne : ¬(x.display = y.display ∧ y.display = t.display)) : t.Interposes x y := by
  have hafter : (y.compareText t).isLE = true := (compare_ne_gt_of_right ht y).1 hyt
  have hbefore : (t.compareText x).isLE = true := (compare_ne_gt_of_left ht x).1 htx
  refine ⟨ht, ?_, hafter, hbefore⟩
  cases hcompare : x.compare y with
  | lt => rfl
  | gt => exact absurd hcompare hxy
  | eq =>
    have htext : x.display = y.display := compare_eq_iff.1 hcompare
    have hty : (t.compareText y).isLE = true := by rwa [compareText, ← htext]
    exact absurd ⟨htext, display_eq_of_compareText hafter hty⟩ hne

theorem consistent_iff {vs : List Value} :
    Consistent vs ↔ ∀ t ∈ vs, ∀ x ∈ vs, ∀ y ∈ vs, ¬t.Interposes x y := by
  constructor
  · intro h t ht x hx y hy hi
    have hyt : y.compare t ≠ .gt := (compare_ne_gt_of_right hi.place?_eq_none y).2 hi.after
    have htx : t.compare x ≠ .gt := (compare_ne_gt_of_left hi.place?_eq_none x).2 hi.before
    have hyx : y.compare x ≠ .gt := h y hy t ht x hx hyt htx
    rw [compare_swap, hi.less] at hyx
    exact hyx rfl
  · intro h u hu v hv w hw huv hvw huw
    have hwu : w.compare u = .lt := by rw [compare_swap, huw]; rfl
    have hwu' : w.compare u ≠ .gt := by rw [hwu]; nofun
    have hne : w.display ≠ u.display := fun htext => by
      rw [compare_eq_iff.2 htext] at hwu
      contradiction
    -- `u`, `v`, `w` are a cycle; whichever of them has no place stands between the other two
    cases hpu : u.place? with
    | none => exact h u hu v hv w hw (.of_cycle hpu hvw hwu' huv fun htext => hne htext.2)
    | some p =>
      cases hpv : v.place? with
      | none =>
        exact h v hv w hw u hu (.of_cycle hpv hwu' huv hvw fun htext => hne htext.1)
      | some q =>
        cases hpw : w.place? with
        | none =>
          refine h w hw u hu v hv (.of_cycle hpw huv hvw hwu' fun htext => hne ?_)
          rw [htext.1, htext.2]
        | some r =>
          rw [compare_eq_of_place? hpu hpv] at huv
          rw [compare_eq_of_place? hpv hpw] at hvw
          rw [compare_eq_of_place? hpu hpw] at huw
          have hle : (Ord.compare p r).isLE = true :=
            Std.TransCmp.isLE_trans (Ordering.isLE_iff_ne_gt.2 huv) (Ordering.isLE_iff_ne_gt.2 hvw)
          rw [huw] at hle
          contradiction

theorem Interposes.compare_ne {t x y : Value} (h : t.Interposes x y) : x.compare y ≠ x.compareText y := by
  intro heq
  have hyx : (y.compareText x).isLE = true := Std.TransCmp.isLE_trans h.after h.before
  have hswap : y.compareText x = (x.compareText y).swap := Std.OrientedCmp.eq_swap
  rw [hswap, ← heq, h.less] at hyx
  contradiction

theorem Interposes.numbers {t x y : Value} (h : t.Interposes x y) :
    x.place? ≠ none ∧ y.place? ≠ none ∧ x.compareText y = .gt := by
  refine ⟨fun hx => h.compare_ne (compare_eq_of_left hx y), fun hy => h.compare_ne (compare_eq_of_right hy x), ?_⟩
  cases htext : x.compareText y with
  | gt => rfl
  | lt => exact absurd (h.less.trans htext.symm) h.compare_ne
  | eq =>
    have hless := h.less
    rw [compare_eq_iff.2 (compare_display_eq_iff.1 htext)] at hless
    contradiction

theorem compare_eq_gt_iff {v w : Value} : v.compare w = .gt ↔ w.compare v = .lt := by
  rw [compare_swap w v, Ordering.swap_eq_gt]

theorem Consistent.lt_trans {vs : List Value} (h : Consistent vs) {u v w : Value} (hu : u ∈ vs) (hv : v ∈ vs)
    (hw : w ∈ vs) (huv : u.compare v = .lt) (hvw : v.compare w = .lt) : u.compare w = .lt := by
  rw [← compare_eq_gt_iff]
  by_contra hwu
  have hvu : v.compare u ≠ .gt := h v hv w hw u hu (by rw [hvw]; nofun) hwu
  exact hvu (compare_eq_gt_iff.2 huv)

theorem consistent_of_places {vs : List Value} (h : ∀ v ∈ vs, v.place? ≠ none) : Consistent vs :=
  consistent_iff.2 fun t ht _ _ _ _ hi => h t ht hi.place?_eq_none

theorem consistent_of_compareText {vs : List Value} (h : ∀ v ∈ vs, ∀ w ∈ vs, v.compare w = v.compareText w) :
    Consistent vs :=
  consistent_iff.2 fun _ _ x hx y hy hi => hi.compare_ne (h x hx y hy)

end Value

namespace Condition

variable {vs : List Value} (mode : PatternMode) (c : Condition) {op : Operator} {u v w : Value}

theorem holds_trans_of_consistent (hvs : Value.Consistent vs) (hop : op ∈ [.greater, .atLeast, .less, .atMost])
    (hu : u ∈ vs) (hv : v ∈ vs) (hw : w ∈ vs) (huv : { c with operator := op, value := v }.holds mode u = true)
    (hvw : { c with operator := op, value := w }.holds mode v = true) :
    { c with operator := op, value := w }.holds mode u = true := by
  simp only [List.mem_cons, List.not_mem_nil, or_false] at hop
  rcases hop with rfl | rfl | rfl | rfl
  · have hvu : v.compare u = .lt := Value.compare_eq_gt_iff.1 (eq_of_beq huv)
    have hwv : w.compare v = .lt := Value.compare_eq_gt_iff.1 (eq_of_beq hvw)
    exact beq_iff_eq.2 (Value.compare_eq_gt_iff.2 (hvs.lt_trans hw hv hu hwv hvu))
  · have hvu : v.compare u ≠ .gt := fun h => bne_iff_ne.1 huv (Value.compare_eq_gt_iff.1 h)
    have hwv : w.compare v ≠ .gt := fun h => bne_iff_ne.1 hvw (Value.compare_eq_gt_iff.1 h)
    exact bne_iff_ne.2 fun h => hvs w hw v hv u hu hwv hvu (Value.compare_eq_gt_iff.2 h)
  · exact beq_iff_eq.2 (hvs.lt_trans hu hv hw (eq_of_beq huv) (eq_of_beq hvw))
  · exact bne_iff_ne.2 (hvs u hu v hv w hw (bne_iff_ne.1 huv) (bne_iff_ne.1 hvw))

end Condition

namespace Value

theorem order_of_conditions :
    (∀ v w : Value, w.compare v = (v.compare w).swap) ∧
    (∀ vs : List Value, Consistent vs ↔ ∀ t ∈ vs, ∀ x ∈ vs, ∀ y ∈ vs, ¬t.Interposes x y) ∧
    (∀ t x y : Value, t.Interposes x y → x.place? ≠ none ∧ y.place? ≠ none ∧ x.compareText y = .gt) ∧
    (∀ vs : List Value, (∀ v ∈ vs, v.place? ≠ none) ∨ (∀ v ∈ vs, ∀ w ∈ vs, v.compare w = v.compareText w) →
      Consistent vs) ∧
    ∀ vs : List Value, Consistent vs → ∀ (mode : PatternMode) (c : Condition),
      ∀ op ∈ [Operator.greater, .atLeast, .less, .atMost], ∀ u ∈ vs, ∀ v ∈ vs, ∀ w ∈ vs,
        { c with operator := op, value := v }.holds mode u = true →
        { c with operator := op, value := w }.holds mode v = true →
        { c with operator := op, value := w }.holds mode u = true := by
  refine ⟨compare_swap, fun vs => consistent_iff, fun _ _ _ h => h.numbers, fun vs h => ?_, ?_⟩
  · exact h.elim consistent_of_places consistent_of_compareText
  · intro vs hvs mode c op hop u hu v hv w hw
    exact Condition.holds_trans_of_consistent mode c hvs hop hu hv hw

theorem order_not_transitive :
    ¬∀ u v w : Value, u.compare v ≠ .gt → v.compare w ≠ .gt → u.compare w ≠ .gt := by
  intro h
  exact h (.ofNat 9) (.ofNat 10) (.text "5") (by decide +kernel) (by decide +kernel) (by decide +kernel)

end Value

end AccessPolicy
