namespace AccessPolicy

abbrev Table (κ α : Type) := List (κ × α)

namespace Table

variable {κ α : Type} [DecidableEq κ]

def get? (k : κ) (t : Table κ α) : Option α := t.lookup k

def set (k : κ) (a : α) : Table κ α → Table κ α
  | [] => [(k, a)]
  | (l, b) :: t => if l = k then (k, a) :: t else (l, b) :: set k a t

def erase (k : κ) : Table κ α → Table κ α
  | [] => []
  | (l, b) :: t => if l = k then erase k t else (l, b) :: erase k t

def keys (t : Table κ α) : List κ := t.map Prod.fst

theorem get?_cons (k l : κ) (a : α) (t : Table κ α) :
    get? k ((l, a) :: t) = if l = k then some a else get? k t := by
  by_cases h : l = k
  · simp [get?, h]
  · have hne : (k == l) = false := by simpa using fun h' => h h'.symm
    rw [get?, List.lookup_cons, hne, if_neg h]
    rfl

theorem get?_set_self (k : κ) (a : α) (t : Table κ α) : get? k (set k a t) = some a := by
  induction t with
  | nil => simp [set, get?]
  | cons e t ih =>
    obtain ⟨l, b⟩ := e
    unfold set
    split
    · simp [get?]
    · rename_i h
      have hne : (k == l) = false := by simpa using fun h' => h h'.symm
      simpa [get?, List.lookup_cons, hne] using ih

theorem get?_set_of_ne {k l : κ} (h : l ≠ k) (a : α) (t : Table κ α) : get? l (set k a t) = get? l t := by
  have hne : (l == k) = false := by simpa using h
  induction t with
  | nil => simp [set, get?, List.lookup_cons, hne]
  | cons e t ih =>
    obtain ⟨m, b⟩ := e
    unfold set
    split
    · rename_i hm
      subst hm
      simp [get?, List.lookup_cons, hne]
    · simp only [get?, List.lookup_cons] at ih ⊢
      cases l == m <;> simp [ih]

theorem get?_set (k l : κ) (a : α) (t : Table κ α) : get? l (set k a t) = if k = l then some a else get? l t := by
  by_cases h : k = l
  · rw [if_pos h, ← h, get?_set_self]
  · rw [if_neg h, get?_set_of_ne (Ne.symm h)]

theorem get?_erase_self (k : κ) (t : Table κ α) : get? k (erase k t) = none := by
  induction t with
  | nil => rfl
  | cons e t ih =>
    obtain ⟨l, b⟩ := e
    unfold erase
    split
    · exact ih
    · rename_i h
      have hne : (k == l) = false := by simpa using fun h' => h h'.symm
      simpa [get?, List.lookup_cons, hne] using ih

theorem get?_erase_of_ne {k l : κ} (h : l ≠ k) (t : Table κ α) : get? l (erase k t) = get? l t := by
  induction t with
  | nil => rfl
  | cons e t ih =>
    obtain ⟨m, b⟩ := e
    unfold erase
    split
    · rename_i hm
      have hne : (l == m) = false := by simpa [hm] using h
      simpa [get?, List.lookup_cons, hne] using ih
    · simp only [get?, List.lookup_cons] at ih ⊢
      cases l == m <;> simp [ih]

theorem get?_erase (k l : κ) (t : Table κ α) : get? l (erase k t) = if k = l then none else get? l t := by
  by_cases h : k = l
  · rw [if_pos h, ← h, get?_erase_self]
  · rw [if_neg h, get?_erase_of_ne (Ne.symm h)]

theorem keys_set (k : κ) (a : α) (t : Table κ α) :
    keys (set k a t) = if k ∈ keys t then keys t else keys t ++ [k] := by
  induction t with
  | nil => rfl
  | cons e t ih =>
    obtain ⟨l, b⟩ := e
    unfold set
    by_cases h : l = k
    · simp [keys, h]
    · have hkeys : keys ((l, b) :: set k a t) = l :: keys (set k a t) := rfl
      have hmem : k ∈ keys ((l, b) :: t) ↔ k ∈ keys t := by simp [keys, Ne.symm h]
      rw [if_neg h, hkeys, ih]
      by_cases hk : k ∈ keys t
      · rw [if_pos hk, if_pos (hmem.2 hk)]
        rfl
      · rw [if_neg hk, if_neg (mt hmem.1 hk)]
        rfl

theorem mem_keys_set (k l : κ) (a : α) (t : Table κ α) : l ∈ keys (set k a t) ↔ l = k ∨ l ∈ keys t := by
  rw [keys_set]
  split
  · rename_i h
    exact ⟨.inr, fun hl => hl.elim (fun hk => hk ▸ h) id⟩
  · rw [List.mem_append, List.mem_singleton, Or.comm]

theorem nodup_keys_set (k : κ) (a : α) {t : Table κ α} (h : (keys t).Nodup) : (keys (set k a t)).Nodup := by
  rw [keys_set]
  split
  · exact h
  · rename_i hk
    refine List.nodup_append.2 ⟨h, by simp, fun l hl m hm => ?_⟩
    rintro rfl
    exact hk (List.mem_singleton.1 hm ▸ hl)

theorem get?_eq_some_of_mem {k : κ} {a : α} {t : Table κ α} (h : (keys t).Nodup) (hmem : (k, a) ∈ t) :
    get? k t = some a := by
  induction t with
  | nil => contradiction
  | cons e t ih =>
    obtain ⟨l, b⟩ := e
    have ⟨hl, ht⟩ := List.nodup_cons.1 h
    rw [get?_cons]
    rcases List.mem_cons.1 hmem with heq | hmem
    · rw [(Prod.mk.inj heq).1, (Prod.mk.inj heq).2, if_pos rfl]
    · have hk : k ∈ keys t := List.mem_map.2 ⟨(k, a), hmem, rfl⟩
      have hne : l ≠ k := fun hlk => hl (hlk ▸ hk)
      rw [if_neg hne, ih ht hmem]

end Table

end AccessPolicy
