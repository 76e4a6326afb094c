import AccessPolicy.Policy.Matching
import Mathlib.Data.List.Induction

namespace AccessPolicy.Condition

theorem foldFrom_of_and {l : Logic} (b : Bool) {rest : List (Logic × Bool)}
    (h : ∀ k ∈ (l :: rest.map (·.1)).dropLast, k = .and) :
    foldFrom l b rest = (b && rest.all (·.2)) := by
  induction rest generalizing l b with
  | nil => simp [foldFrom]
  | cons next rest ih =>
    obtain ⟨l', b'⟩ := next
    have hl : l = .and := h l (by simp [List.dropLast_cons_cons])
    have hrest : ∀ k ∈ (l' :: rest.map (·.1)).dropLast, k = .and :=
      fun k hk => h k (by simpa [List.dropLast_cons_cons] using .inr hk)
    rw [foldFrom, ih (l.join b b') hrest, hl, Logic.join, List.all_cons, Bool.and_assoc]

theorem allHold_of_no_or (mode : PatternMode) {cs : List Condition} (h : ∀ c ∈ cs.dropLast, c.logic ≠ .or)
    (r : Request) : allHold mode cs r = cs.all fun c => c.holds mode (r.resolve c.field) := by
  have hand : ∀ k ∈ (cs.map (·.logic)).dropLast, k = .and := by
    intro k hk
    rw [← List.map_dropLast] at hk
    obtain ⟨c, hc, rfl⟩ := List.mem_map.1 hk
    cases hl : c.logic with
    | and => rfl
    | or => exact absurd hl (h c hc)
  unfold allHold
  cases cs with
  | nil => rfl
  | cons c cs =>
    rw [List.map_cons, foldChain, foldFrom_of_and]
    · rw [List.all_cons, List.all_map]
      rfl
    · rw [List.map_map]
      exact hand

def chain (test : Condition → Bool) (cs : List Condition) : Bool := foldChain (cs.map fun c => (c.logic, test c))

theorem allHold_eq_chain (mode : PatternMode) (cs : List Condition) (r : Request) :
    allHold mode cs r = chain (fun c => c.holds mode (r.resolve c.field)) cs := rfl

theorem foldFrom_concat (l : Logic) (b : Bool) (rest : List (Logic × Bool)) (next : Logic × Bool) :
    foldFrom l b (rest ++ [next]) = ((rest.map (·.1)).getLastD l).join (foldFrom l b rest) next.2 := by
  induction rest generalizing l b with
  | nil => rfl
  | cons first rest ih => rw [List.cons_append, foldFrom, ih, List.map_cons, List.getLastD_cons, foldFrom]

/-- Whether a condition passes, is the first or stands behind an OR, and all that are joined by AND after it pass. -/
structure HoldsFrom (test : Condition → Bool) (cs : List Condition) (s : Nat) : Prop where
  passes : ∃ c, cs[s]? = some c ∧ test c = true
  starts : s = 0 ∨ ∃ d, cs[s - 1]? = some d ∧ d.logic = .or
  lasts : ∀ j d c, s ≤ j → cs[j]? = some d → cs[j + 1]? = some c → d.logic = .and → test c = true

section Chains

variable {test : Condition → Bool} {cs : List Condition} {c d : Condition} {s : Nat}

theorem chain_singleton (c : Condition) : chain test [c] = test c := rfl

theorem chain_concat (hd : cs.getLast? = some d) : chain test (cs ++ [c]) = d.logic.join (chain test cs) (test c) := by
  cases cs with
  | nil => contradiction
  | cons a cs =>
    have hlogic : ((cs.map fun c => (c.logic, test c)).map (·.1)).getLastD a.logic = d.logic := by
      rw [List.map_map, List.getLastD_eq_getLast?, List.getLast?_map]
      rw [List.getLast?_cons] at hd
      cases hcs : cs.getLast? with
      | none => simpa [hcs] using congrArg Condition.logic (Option.some.inj hd)
      | some b => simpa [hcs] using congrArg Condition.logic (Option.some.inj hd)
    simp only [chain, List.cons_append, List.map_cons, List.map_append, List.map_nil, foldChain, foldFrom_concat,
      hlogic]

theorem HoldsFrom.lt_length (h : HoldsFrom test cs s) : s < cs.length := by
  obtain ⟨a, ha, -⟩ := h.passes
  exact (List.getElem?_eq_some_iff.1 ha).1

theorem getElem?_concat_of_lt {j : Nat} (hj : j < cs.length) : (cs ++ [c])[j]? = cs[j]? :=
  List.getElem?_append_left hj

theorem getElem?_concat_length : (cs ++ [c])[cs.length]? = some c := List.getElem?_concat_length

theorem holdsFrom_singleton_iff : HoldsFrom test [c] s ↔ s = 0 ∧ test c = true := by
  constructor
  · intro h
    have hs : s = 0 := Nat.lt_one_iff.1 h.lt_length
    subst hs
    obtain ⟨a, ha, hpass⟩ := h.passes
    cases ha
    exact ⟨rfl, hpass⟩
  · rintro ⟨rfl, hpass⟩
    refine ⟨⟨c, rfl, hpass⟩, .inl rfl, fun j a b _ _ hb => ?_⟩
    have hlt := (List.getElem?_eq_some_iff.1 hb).1
    simp at hlt

section Concat

variable (hd : cs.getLast? = some d)

include hd

theorem holdsFrom_concat_iff_of_lt (hs : s < cs.length) :
    HoldsFrom test (cs ++ [c]) s ↔ HoldsFrom test cs s ∧ (d.logic = .and → test c = true) := by
  rw [List.getLast?_eq_getElem?] at hd
  have hpasses : (cs ++ [c])[s]? = cs[s]? := getElem?_concat_of_lt hs
  have hstarts : (cs ++ [c])[s - 1]? = cs[s - 1]? := getElem?_concat_of_lt (by omega)
  have hbefore : (cs ++ [c])[cs.length - 1]? = some d := (getElem?_concat_of_lt (by omega)).trans hd
  have hend : cs.length - 1 + 1 = cs.length := by omega
  constructor
  · intro h
    refine ⟨⟨hpasses ▸ h.passes, hstarts ▸ h.starts, fun j a b hj ha hb => ?_⟩, fun hand => ?_⟩
    · have hlt := (List.getElem?_eq_some_iff.1 hb).1
      exact h.lasts j a b hj ((getElem?_concat_of_lt (by omega)).trans ha) ((getElem?_concat_of_lt hlt).trans hb)
    · exact h.lasts (cs.length - 1) d c (by omega) hbefore (by rw [hend, getElem?_concat_length]) hand
  · rintro ⟨h, hand⟩
    refine ⟨hpasses ▸ h.passes, hstarts ▸ h.starts, fun j a b hj ha hb => ?_⟩
    by_cases hlt : j + 1 < cs.length
    · rw [getElem?_concat_of_lt (by omega)] at ha
      rw [getElem?_concat_of_lt hlt] at hb
      exact h.lasts j a b hj ha hb
    · have hle := (List.getElem?_eq_some_iff.1 hb).1
      rw [List.length_append, List.length_singleton] at hle
      obtain rfl : j = cs.length - 1 := by omega
      rw [hbefore] at ha
      rw [hend, getElem?_concat_length] at hb
      cases ha
      cases hb
      exact hand

theorem holdsFrom_concat_length_iff : HoldsFrom test (cs ++ [c]) cs.length ↔ d.logic = .or ∧ test c = true := by
  have hne : cs.length ≠ 0 := by
    intro h
    rw [List.length_eq_zero_iff.1 h] at hd
    contradiction
  rw [List.getLast?_eq_getElem?] at hd
  have hbefore : (cs ++ [c])[cs.length - 1]? = some d := (getElem?_concat_of_lt (by omega)).trans hd
  constructor
  · intro h
    obtain ⟨a, ha, hpass⟩ := h.passes
    obtain ⟨b, hb, hor⟩ := h.starts.resolve_left hne
    rw [getElem?_concat_length] at ha
    rw [hbefore] at hb
    cases ha
    cases hb
    exact ⟨hor, hpass⟩
  · rintro ⟨hor, hpass⟩
    refine ⟨⟨c, getElem?_concat_length, hpass⟩, .inr ⟨d, hbefore, hor⟩, fun j a b hj ha hb => ?_⟩
    have hlt := (List.getElem?_eq_some_iff.1 hb).1
    rw [List.length_append, List.length_singleton] at hlt
    omega

theorem exists_holdsFrom_concat_iff : (∃ s, HoldsFrom test (cs ++ [c]) s) ↔
    (∃ s, HoldsFrom test cs s) ∧ (d.logic = .and → test c = true) ∨ d.logic = .or ∧ test c = true := by
  constructor
  · rintro ⟨s, h⟩
    have hle := h.lt_length
    rw [List.length_append, List.length_singleton] at hle
    rcases Nat.lt_succ_iff_lt_or_eq.1 hle with hlt | rfl
    · obtain ⟨h, hand⟩ := (holdsFrom_concat_iff_of_lt hd hlt).1 h
      exact .inl ⟨⟨s, h⟩, hand⟩
    · exact .inr ((holdsFrom_concat_length_iff hd).1 h)
  · rintro (⟨⟨s, h⟩, hand⟩ | h)
    · exact ⟨s, (holdsFrom_concat_iff_of_lt hd h.lt_length).2 ⟨h, hand⟩⟩
    · exact ⟨cs.length, (holdsFrom_concat_length_iff hd).2 h⟩

end Concat

theorem chain_eq_true_iff : chain test cs = true ↔ cs = [] ∨ ∃ s, HoldsFrom test cs s := by
  induction cs using List.reverseRecOn with
  | nil => simp [chain, foldChain]
  | append_singleton cs c ih =>
    cases hd : cs.getLast? with
    | none =>
      rw [List.getLast?_eq_none_iff] at hd
      subst hd
      simp [holdsFrom_singleton_iff, chain_singleton]
    | some d =>
      have hne : cs ≠ [] := by
        rintro rfl
        contradiction
      rw [chain_concat hd, exists_holdsFrom_concat_iff hd]
      cases hl : d.logic with
      | and => simp [Logic.join, ih, hne]
      | or => simp [Logic.join, ih, hne]

end Chains

variable (mode : PatternMode) (r : Request)

theorem holds_set_logic (c : Condition) (l : Logic) (v : Value) : { c with logic := l }.holds mode v = c.holds mode v :=
  rfl

theorem allHold_iff_holdsFrom :
    (∀ cs : List Condition, allHold mode cs r = true ↔
      cs = [] ∨ ∃ s, HoldsFrom (fun c => c.holds mode (r.resolve c.field)) cs s) ∧
    (∀ (cs : List Condition) (d c : Condition), allHold mode (cs ++ [d, c]) r =
      d.logic.join (allHold mode (cs ++ [d]) r) (c.holds mode (r.resolve c.field))) ∧
    ∀ (cs : List Condition) (c : Condition) (l : Logic),
      allHold mode (cs ++ [{ c with logic := l }]) r = allHold mode (cs ++ [c]) r := by
  simp only [allHold_eq_chain]
  refine ⟨fun cs => chain_eq_true_iff, fun cs d c => ?_, fun cs c l => ?_⟩
  · have hlast : cs ++ [d, c] = cs ++ [d] ++ [c] := by simp
    rw [hlast, chain_concat List.getLast?_concat]
  · cases hd : cs.getLast? with
    | none =>
      rw [List.getLast?_eq_none_iff] at hd
      subst hd
      exact holds_set_logic mode c l _
    | some d => rw [chain_concat hd, chain_concat hd, holds_set_logic]

end AccessPolicy.Condition
