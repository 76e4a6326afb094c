import AccessPolicy.Value.Basic

namespace AccessPolicy

namespace Binary64

theorem eq_or_zero_of_place_eq {a b : Bool} {m n : Magnitude} (h : (signed a m).place = (signed b n).place) :
    (a = b ∧ m = n) ∨ (m = .zero ∧ n = .zero) := by
  obtain ⟨r, hr⟩ := m
  obtain ⟨s, hs⟩ := n
  have hzero : Magnitude.zero = ⟨0, Nat.zero_le _⟩ := rfl
  rw [hzero]
  simp only [Magnitude.mk.injEq]
  cases a <;> cases b <;> simp only [place, Option.some.injEq] at h
  · exact .inl ⟨rfl, by omega⟩
  · exact .inr ⟨by omega, by omega⟩
  · exact .inr ⟨by omega, by omega⟩
  · exact .inl ⟨rfl, by omega⟩

theorem place_eq_of_same {x y : Binary64} (h : x.same y = true) : x.place = y.place := by
  unfold same compare? at h
  cases hx : x.place with
  | none => simp [hx] at h
  | some p =>
    cases hy : y.place with
    | none => simp [hx, hy] at h
    | some q =>
      simp only [hx, hy, beq_iff_eq, Option.some.injEq, Std.LawfulEqCmp.compare_eq_iff_eq] at h
      rw [h]

theorem compare?_eq_of_same {x y : Binary64} (h : x.same y = true) (z : Binary64) : x.compare? z = y.compare? z := by
  rw [compare?, compare?, place_eq_of_same h]

theorem compare?_same_right {x y : Binary64} (h : x.same y = true) (z : Binary64) : z.compare? x = z.compare? y := by
  rw [compare?, compare?, place_eq_of_same h]

theorem eq_or_zeros_of_same {x y : Binary64} (h : x.same y = true) :
    x = y ∨ ∃ a b, x = signed a .zero ∧ y = signed b .zero := by
  have hplace := place_eq_of_same h
  cases x with
  | nan => contradiction
  | signed a m =>
    cases y with
    | nan => cases a <;> contradiction
    | signed b n =>
      rcases eq_or_zero_of_place_eq hplace with ⟨rfl, rfl⟩ | ⟨rfl, rfl⟩
      · exact .inl rfl
      · exact .inr ⟨a, b, rfl, rfl⟩

theorem displayText_eq_of_same {x y : Binary64} (h : x.same y = true) : x.displayText = y.displayText := by
  rcases eq_or_zeros_of_same h with rfl | ⟨a, b, rfl, rfl⟩
  · rfl
  · cases a <;> cases b <;> rfl

end Binary64

namespace Value

mutual

theorem chars_eq_of_same : ∀ {v w : Value}, v.same w = true → v.chars = w.chars
  | .null, .null, _ => rfl
  | .bool a, .bool b, h => by
    rw [eq_of_beq (a := a) (b := b) h]
  | .number x, .number y, h => by
    rw [chars, chars, Binary64.displayText_eq_of_same h]
  | .text s, .text t, h => by
    rw [eq_of_beq (a := s) (b := t) h]
  | .list [], .list [], _ => rfl
  | .list (v :: vs), .list (w :: ws), h => by
    obtain ⟨hv, hvs⟩ := Bool.and_eq_true_iff.1 h
    rw [chars, chars, chars_eq_of_same hv, itemChars_eq_of_same hvs]
  | .map [], .map [], _ => rfl
  | .map ((k, v) :: es), .map ((l, w) :: fs), h => by
    obtain ⟨hkv, hes⟩ := Bool.and_eq_true_iff.1 h
    obtain ⟨hk, hv⟩ := Bool.and_eq_true_iff.1 hkv
    rw [chars, chars, eq_of_beq hk, chars_eq_of_same hv, entryChars_eq_of_same hes]

theorem itemChars_eq_of_same : ∀ {vs ws : List Value}, sameItems vs ws = true → itemChars vs = itemChars ws
  | [], [], _ => rfl
  | v :: vs, w :: ws, h => by
    obtain ⟨hv, hvs⟩ := Bool.and_eq_true_iff.1 h
    rw [itemChars, itemChars, chars_eq_of_same hv, itemChars_eq_of_same hvs]

theorem entryChars_eq_of_same : ∀ {es fs : List (String × Value)}, sameEntries es fs = true →
    entryChars es = entryChars fs
  | [], [], _ => rfl
  | (k, v) :: es, (l, w) :: fs, h => by
    obtain ⟨hkv, hes⟩ := Bool.and_eq_true_iff.1 h
    obtain ⟨hk, hv⟩ := Bool.and_eq_true_iff.1 hkv
    rw [entryChars, entryChars, eq_of_beq hk, chars_eq_of_same hv, entryChars_eq_of_same hes]

end

variable {v w : Value}

theorem display_eq_of_same (h : v.same w = true) : v.display = w.display := by
  rw [display, display, chars_eq_of_same h]

theorem eq_number_of_number? {x : Binary64} (h : v.number? = some x) : v = .number x := by
  cases v with
  | number y => exact congrArg number (Option.some.inj h)
  | _ => contradiction

theorem compare_of_number?_eq_none (h : v.number? = none) (u : Value) :
    v.compare u = Ord.compare v.display u.display := by
  cases v with
  | number x => contradiction
  | _ => rfl

theorem number?_eq_none_of_same (h : v.same w = true) (hv : v.number? = none) : w.number? = none := by
  cases w with
  | number y => cases v <;> contradiction
  | _ => rfl

theorem compare_eq_of_same (h : v.same w = true) (u : Value) : v.compare u = w.compare u := by
  have hdisplay := display_eq_of_same h
  cases hv : v.number? with
  | none =>
    rw [compare_of_number?_eq_none hv, compare_of_number?_eq_none (number?_eq_none_of_same h hv), hdisplay]
  | some x =>
    obtain rfl : v = .number x := eq_number_of_number? hv
    cases w with
    | number y =>
      cases u with
      | number z => rw [compare, compare, Binary64.compare?_eq_of_same h, hdisplay]
      | _ => exact congrArg (Ord.compare · _) hdisplay
    | _ => contradiction

theorem compare_same_right (h : v.same w = true) (u : Value) : u.compare v = u.compare w := by
  have hdisplay := display_eq_of_same h
  cases hu : u.number? with
  | none => rw [compare_of_number?_eq_none hu, compare_of_number?_eq_none hu, hdisplay]
  | some z =>
    obtain rfl : u = .number z := eq_number_of_number? hu
    cases v with
    | number x =>
      cases w with
      | number y => rw [compare, compare, Binary64.compare?_same_right h, hdisplay]
      | _ => contradiction
    | _ =>
      cases w with
      | number y => contradiction
      | _ => exact congrArg (Ord.compare _) hdisplay

def Agrees (v w : Value) : Prop := v = w ∨ v.same w = true

theorem Agrees.chars (h : v.Agrees w) : v.chars = w.chars := by
  rcases h with rfl | h
  · rfl
  · exact chars_eq_of_same h

theorem Agrees.compare (h : v.Agrees w) (u : Value) : v.compare u = w.compare u := by
  rcases h with rfl | h
  · rfl
  · exact compare_eq_of_same h u

end Value

end AccessPolicy
