import AccessPolicy.Table
import AccessPolicy.Time.Span

namespace AccessPolicy

structure CacheEntry (α : Type) where
  loadedAt : Nat
  value : α
  deriving DecidableEq, Repr

structure Cache (α : Type) where
  ttl : Option Span
  entries : Table UInt64 (CacheEntry α)

namespace Cache

variable {α : Type}

def withTtl (ttl : Option Span) : Cache α := ⟨ttl, []⟩

def isEnabled (c : Cache α) : Bool := c.ttl.isSome

def isFresh (ttl : Span) (now : Nat) (e : CacheEntry α) : Bool := now - e.loadedAt < ttl.nanos

def lookup (c : Cache α) (now : Nat) (tenant : UInt64) : Option α :=
  match c.ttl, c.entries.get? tenant with
  | some ttl, some e => if isFresh ttl now e then some e.value else none
  | _, _ => none

/-- The second step, after nothing was found: an entry goes if it is not fresh, seen from the same moment. -/
def evict (c : Cache α) (now : Nat) (tenant : UInt64) : Cache α :=
  match c.ttl, c.entries.get? tenant with
  | some ttl, some e => if isFresh ttl now e then c else { c with entries := c.entries.erase tenant }
  | _, _ => c

def get (c : Cache α) (now : Nat) (tenant : UInt64) : Option α × Cache α :=
  match c.lookup now tenant with
  | some a => (some a, c)
  | none => (none, c.evict now tenant)

def insert (c : Cache α) (now : Nat) (tenant : UInt64) (a : α) : Cache α :=
  if c.isEnabled then { c with entries := c.entries.set tenant ⟨now, a⟩ } else c

def invalidate (c : Cache α) (tenant : UInt64) : Cache α := { c with entries := c.entries.erase tenant }

def invalidateAll (c : Cache α) : Cache α := { c with entries := [] }

def size (c : Cache α) : Nat := c.entries.length

variable (c : Cache α) (now : Nat) (k t : UInt64) (a : α)

@[simp]
theorem evict_ttl : (c.evict now k).ttl = c.ttl := by
  unfold evict
  split
  · split <;> rfl
  · rfl

@[simp]
theorem insert_ttl : (c.insert now k a).ttl = c.ttl := by
  unfold insert
  split <;> rfl

theorem lookup_eq_some_iff : c.lookup now t = some a ↔
    ∃ ttl e, c.ttl = some ttl ∧ c.entries.get? t = some e ∧ isFresh ttl now e = true ∧ e.value = a := by
  unfold lookup
  cases c.ttl with
  | none => simp
  | some ttl =>
    cases c.entries.get? t with
    | none => simp
    | some e => simp

theorem lookup_congr {c d : Cache α} (httl : c.ttl = d.ttl) (hentry : c.entries.get? t = d.entries.get? t) :
    c.lookup now t = d.lookup now t := by
  unfold lookup
  rw [httl, hentry]

theorem get?_evict : (c.evict now k).entries.get? t =
    if k = t ∧ c.ttl.isSome ∧ c.lookup now t = none then none else c.entries.get? t := by
  unfold evict lookup
  by_cases hk : k = t
  · subst hk
    cases c.ttl with
    | none => simp
    | some ttl =>
      cases he : c.entries.get? k with
      | none => simp [he]
      | some e => cases hf : isFresh ttl now e <;> simp [hf, he, Table.get?_erase_self]
  · cases c.ttl with
    | none => simp [hk]
    | some ttl =>
      cases c.entries.get? k with
      | none => simp [hk]
      | some e => cases hf : isFresh ttl now e <;> simp [hf, hk, Table.get?_erase]

theorem get?_evict_cases : (c.evict now k).entries.get? t = c.entries.get? t ∨
    k = t ∧ (c.evict now k).entries.get? t = none ∧
      ∃ ttl e, c.ttl = some ttl ∧ c.entries.get? t = some e ∧ isFresh ttl now e = false := by
  rw [get?_evict]
  split
  · rename_i h
    obtain ⟨hk, hon, hnone⟩ := h
    obtain ⟨ttl, httl⟩ := Option.isSome_iff_exists.1 hon
    cases he : c.entries.get? t with
    | none => exact .inl rfl
    | some e =>
      refine .inr ⟨hk, rfl, ttl, e, httl, rfl, ?_⟩
      simpa [lookup, httl, he] using hnone
  · exact .inl rfl

theorem get?_insert : (c.insert now k a).entries.get? t =
    if k = t ∧ c.ttl.isSome then some ⟨now, a⟩ else c.entries.get? t := by
  unfold insert isEnabled
  cases c.ttl with
  | none => simp
  | some ttl => simp [Table.get?_set]

theorem isFresh_mono {ttl : Span} {now later : Nat} (h : now ≤ later) {e : CacheEntry α}
    (hf : isFresh ttl later e = true) : isFresh ttl now e = true := by
  simp only [isFresh, decide_eq_true_eq] at hf ⊢
  omega

theorem lookup_eq_none_mono {now later : Nat} (h : now ≤ later) (hnone : c.lookup now t = none) :
    c.lookup later t = none := by
  cases hl : c.lookup later t with
  | none => rfl
  | some a =>
    obtain ⟨ttl, e, httl, he, hf, hv⟩ := (c.lookup_eq_some_iff later t a).1 hl
    have hsome := (c.lookup_eq_some_iff now t a).2 ⟨ttl, e, httl, he, isFresh_mono h hf, hv⟩
    rw [hnone] at hsome
    contradiction

theorem lookup_evict {now later : Nat} (h : now ≤ later) : (c.evict now k).lookup later t = c.lookup later t := by
  by_cases hgone : k = t ∧ c.ttl.isSome ∧ c.lookup now t = none
  · have hentry := c.get?_evict now k t
    rw [if_pos hgone] at hentry
    rw [c.lookup_eq_none_mono t h hgone.2.2, lookup, hentry]
    cases (c.evict now k).ttl <;> rfl
  · have hentry := c.get?_evict now k t
    rw [if_neg hgone] at hentry
    exact lookup_congr later t (c.evict_ttl now k) hentry

theorem lookup_insert_of_ne (h : k ≠ t) (later : Nat) : (c.insert now k a).lookup later t = c.lookup later t := by
  refine lookup_congr later t (c.insert_ttl now k a) ?_
  rw [get?_insert, if_neg fun hk => h hk.1]

theorem lookup_insert_congr {c d : Cache α} (httl : c.ttl = d.ttl) (later : Nat)
    (h : c.lookup later t = d.lookup later t) :
    (c.insert now k a).lookup later t = (d.insert now k a).lookup later t := by
  by_cases hk : k = t ∧ c.ttl.isSome
  · refine lookup_congr later t (by rw [insert_ttl, insert_ttl, httl]) ?_
    rw [get?_insert, get?_insert, if_pos hk, if_pos (by rwa [← httl])]
  · have hk' : ¬ (k = t ∧ d.ttl.isSome) := by rwa [← httl]
    have hc : (c.insert now k a).lookup later t = c.lookup later t :=
      lookup_congr later t (insert_ttl ..) (by rw [get?_insert, if_neg hk])
    have hd : (d.insert now k a).lookup later t = d.lookup later t :=
      lookup_congr later t (insert_ttl ..) (by rw [get?_insert, if_neg hk'])
    rw [hc, hd, h]

theorem get?_invalidate : (c.invalidate k).entries.get? t = if k = t then none else c.entries.get? t :=
  Table.get?_erase k t c.entries

end Cache

end AccessPolicy
