namespace AccessPolicy

structure Entries (α : Type) where
  toList : List (String × α)
  ordered : toList.Pairwise fun a b => a.1 < b.1

namespace Entries

variable {α : Type}

def empty : Entries α := ⟨[], .nil⟩

def get? (name : String) (es : Entries α) : Option α := es.toList.lookup name

def place (name : String) (a : α) : List (String × α) → List (String × α)
  | [] => [(name, a)]
  | (k, b) :: es =>
    if name < k then (name, a) :: (k, b) :: es
    else if k = name then (name, a) :: es
    else (k, b) :: place name a es

theorem mem_place {name : String} {a : α} {e : String × α} {es : List (String × α)}
    (h : e ∈ place name a es) : e = (name, a) ∨ e ∈ es := by
  fun_induction place name a es with
  | case1 => simpa using h
  | case2 => simpa using h
  | case3 => exact (List.mem_cons.1 h).imp_right (List.mem_cons_of_mem _)
  | case4 k b es _ _ ih =>
    rcases List.mem_cons.1 h with rfl | h
    · exact .inr List.mem_cons_self
    · exact (ih h).imp_right (List.mem_cons_of_mem _)

theorem ordered_place (name : String) (a : α) {es : List (String × α)}
    (h : es.Pairwise fun a b => a.1 < b.1) : (place name a es).Pairwise fun a b => a.1 < b.1 := by
  fun_induction place name a es with
  | case1 => exact List.pairwise_singleton _ _
  | case2 k b es hk =>
    refine .cons (fun e he => ?_) h
    rcases List.mem_cons.1 he with rfl | he
    · exact hk
    · exact String.lt_trans hk ((List.pairwise_cons.1 h).1 e he)
  | case3 => exact .cons (List.pairwise_cons.1 h).1 (List.pairwise_cons.1 h).2
  | case4 k b es hk hne ih =>
    have ⟨hb, hes⟩ := List.pairwise_cons.1 h
    refine .cons (fun e he => ?_) (ih hes)
    rcases mem_place he with rfl | he
    · exact Std.lt_of_le_of_ne (String.not_lt.1 hk) hne
    · exact hb e he

theorem lookup_place_self (name : String) (a : α) (es : List (String × α)) :
    (place name a es).lookup name = some a := by
  fun_induction place name a es with
  | case1 | case2 | case3 => simp
  | case4 k b es _ hne ih =>
    have hk : (name == k) = false := by simpa using fun h => hne h.symm
    simpa [List.lookup_cons, hk] using ih

theorem lookup_place_of_ne {name other : String} (h : other ≠ name) (a : α) (es : List (String × α)) :
    (place name a es).lookup other = es.lookup other := by
  have hne : (other == name) = false := by simpa using h
  fun_induction place name a es with
  | case1 | case2 | case3 => simp [List.lookup_cons, hne]
  | case4 k b es _ _ ih =>
    simp only [List.lookup_cons]
    cases other == k <;> simp [ih]

theorem lookup_eq_none {name : String} {es : List (String × α)} (h : ∀ e ∈ es, name < e.1) :
    es.lookup name = none := by
  rw [List.lookup_eq_none_iff]
  intro e he
  simpa using Std.ne_of_lt (h e he)

def set (name : String) (a : α) (es : Entries α) : Entries α :=
  ⟨place name a es.toList, ordered_place name a es.ordered⟩

theorem get?_set_self (name : String) (a : α) (es : Entries α) : (es.set name a).get? name = some a :=
  lookup_place_self name a es.toList

theorem get?_set_of_ne {name other : String} (h : other ≠ name) (a : α) (es : Entries α) :
    (es.set name a).get? other = es.get? other :=
  lookup_place_of_ne h a es.toList

def setAll (es : Entries α) (l : List (String × α)) : Entries α := l.foldl (fun es (k, a) => es.set k a) es

theorem get?_setAll (name : String) (es : Entries α) {l : List (String × α)}
    (h : l.Pairwise fun a b => a.1 < b.1) :
    (es.setAll l).get? name = (l.lookup name).or (es.get? name) := by
  induction l generalizing es with
  | nil => rfl
  | cons e l ih =>
    have ⟨he, hl⟩ := List.pairwise_cons.1 h
    have hs : (es.setAll (e :: l)).get? name = (l.lookup name).or ((es.set e.1 e.2).get? name) := ih _ hl
    obtain ⟨k, b⟩ := e
    rw [hs, List.lookup_cons]
    by_cases hn : name = k
    · subst hn
      simp [lookup_eq_none he, get?_set_self]
    · have hk : (name == k) = false := by simpa using hn
      rw [hk, get?_set_of_ne hn]

def merge (es fs : List (String × α)) : Entries α := empty.setAll (es ++ fs)

theorem get?_merge (name : String) (es fs : Entries α) :
    (merge es.toList fs.toList).get? name = (fs.get? name).or (es.get? name) := by
  have h : merge es.toList fs.toList = (empty.setAll es.toList).setAll fs.toList := List.foldl_append
  rw [h, get?_setAll name _ fs.ordered, get?_setAll name _ es.ordered]
  simp [get?, empty]

end Entries

end AccessPolicy
