import AccessPolicy.Proofs.Engine.Evaluation
import AccessPolicy.Store
import AccessPolicy.Time.ZoneTable

namespace AccessPolicy

structure Session where
  engine : Engine
  store : Store

inductive Operation where
  | change (c : Store.Change)
  | evaluate (now : Nat) (took : Span) (r : Request)
  | invalidate (tenant : UInt64)
  | invalidateAll

namespace Operation

def concerns (t : UInt64) : Operation → Bool
  | .change c => c.tenant == t
  | .evaluate _ _ r => r.tenant == t
  | .invalidate k => k == t
  | .invalidateAll => true

end Operation

namespace Session

/-- Sessions that differ in nothing that the tenant could see. -/
structure Alike (t : UInt64) (s s' : Session) : Prop where
  mode : s.engine.mode = s'.engine.mode
  ttl : s.engine.cache.ttl = s'.engine.cache.ttl
  entry : s.engine.cache.entries.get? t = s'.engine.cache.entries.get? t
  records : s.store.records t = s'.store.records t

variable {t : UInt64} {s s' s'' : Session}

theorem Alike.refl (t : UInt64) (s : Session) : Alike t s s := ⟨rfl, rfl, rfl, rfl⟩

theorem Alike.trans (h : Alike t s s') (h' : Alike t s' s'') : Alike t s s'' :=
  ⟨h.mode.trans h'.mode, h.ttl.trans h'.ttl, h.entry.trans h'.entry, h.records.trans h'.records⟩

theorem Alike.enabled (h : Alike t s s') : s.store.enabled t = s'.store.enabled t := by
  rw [Store.enabled, Store.enabled, h.records]

theorem Alike.lookup (h : Alike t s s') (now : Nat) :
    s.engine.cache.lookup now t = s'.engine.cache.lookup now t := Cache.lookup_congr now t h.ttl h.entry

section Steps

variable [ZoneDatabase]

def evaluate (s : Session) (now : Nat) (took : Span) (r : Request) : Engine.Evaluation × Engine :=
  s.engine.evaluate now took (.records (s.store.enabled r.tenant)) r

def withCache (s : Session) (cache : Cache (List Policy)) : Session :=
  { s with engine := { s.engine with cache := cache } }

def step (s : Session) : Operation → Session
  | .change c => { s with store := s.store.change c }
  | .evaluate now took r => { s with engine := (s.evaluate now took r).2 }
  | .invalidate k => s.withCache (s.engine.cache.invalidate k)
  | .invalidateAll => s.withCache s.engine.cache.invalidateAll

def told (s : Session) (t : UInt64) : Operation → Option (Except Fault Decision)
  | .evaluate now took r => if r.tenant = t then some (s.evaluate now took r).1.result else none
  | _ => none

def results (t : UInt64) (s : Session) : List Operation → List (Except Fault Decision)
  | [] => []
  | o :: os => (s.told t o).toList ++ results t (s.step o) os

variable {o : Operation}

theorem step_alike_of_not_concerns (s : Session) (h : o.concerns t = false) : Alike t (s.step o) s := by
  cases o with
  | change c =>
    have hc : c.tenant ≠ t := by simpa [Operation.concerns] using h
    exact ⟨rfl, rfl, rfl, by rw [step, Store.records_change, if_neg hc]⟩
  | evaluate now took r =>
    have hr : r.tenant ≠ t := by simpa [Operation.concerns] using h
    refine ⟨s.engine.evaluate_mode .., s.engine.evaluate_ttl .., ?_, rfl⟩
    rw [step, evaluate, Engine.get?_evaluate, if_neg fun hh => hr hh.1]
  | invalidate k =>
    have hk : k ≠ t := by simpa [Operation.concerns] using h
    exact ⟨rfl, rfl, by rw [step, withCache, Cache.get?_invalidate, if_neg hk], rfl⟩
  | invalidateAll => contradiction

theorem step_alike_of_concerns (hs : Alike t s s') (h : o.concerns t = true) : Alike t (s.step o) (s'.step o) := by
  cases o with
  | change c =>
    refine ⟨hs.mode, hs.ttl, hs.entry, ?_⟩
    rw [step, step, Store.records_change, Store.records_change, hs.records]
  | evaluate now took r =>
    have hr : r.tenant = t := by simpa [Operation.concerns] using h
    subst hr
    refine ⟨?_, ?_, ?_, hs.records⟩
    · exact (s.engine.evaluate_mode ..).trans (hs.mode.trans (s'.engine.evaluate_mode ..).symm)
    · exact (s.engine.evaluate_ttl ..).trans (hs.ttl.trans (s'.engine.evaluate_ttl ..).symm)
    · rw [step, step, evaluate, evaluate, Engine.get?_evaluate, Engine.get?_evaluate, hs.ttl, hs.lookup, hs.enabled,
        hs.entry]
  | invalidate k =>
    refine ⟨hs.mode, hs.ttl, ?_, hs.records⟩
    rw [step, step, withCache, withCache, Cache.get?_invalidate, Cache.get?_invalidate, hs.entry]
  | invalidateAll => exact ⟨hs.mode, hs.ttl, rfl, hs.records⟩

theorem told_of_alike (hs : Alike t s s') (o : Operation) : s.told t o = s'.told t o := by
  cases o with
  | evaluate now took r =>
    by_cases hr : r.tenant = t
    · subst hr
      rw [told, told, evaluate, evaluate, Engine.evaluate_result, Engine.evaluate_result, hs.mode, hs.lookup,
        hs.enabled]
    · rw [told, told, if_neg hr, if_neg hr]
  | change c => rfl
  | invalidate k => rfl
  | invalidateAll => rfl

theorem told_of_not_concerns (s : Session) (h : o.concerns t = false) : s.told t o = none := by
  cases o with
  | evaluate now took r => exact if_neg (by simpa [Operation.concerns] using h)
  | change c => rfl
  | invalidate k => rfl
  | invalidateAll => rfl

theorem results_filter (hs : Alike t s s') (os : List Operation) :
    s.results t os = s'.results t (os.filter (·.concerns t)) := by
  induction os generalizing s s' with
  | nil => rfl
  | cons o os ih =>
    cases h : o.concerns t with
    | false =>
      rw [results, told_of_not_concerns s h, List.filter_cons_of_neg (by simp [h])]
      exact ih ((step_alike_of_not_concerns s h).trans hs)
    | true =>
      rw [results, List.filter_cons_of_pos h, results, told_of_alike hs o, ih (step_alike_of_concerns hs h)]

theorem results_isolated (hs : Alike t s s') {os os' : List Operation}
    (hos : os.filter (·.concerns t) = os'.filter (·.concerns t)) : s.results t os = s'.results t os' := by
  have hleft : s.results t os = s'.results t (os.filter (·.concerns t)) := results_filter hs os
  have hright : s'.results t os' = s'.results t (os'.filter (·.concerns t)) := results_filter (.refl t s') os'
  rw [hleft, hright, hos]

end Steps

open ZoneTable in
theorem results_isolated_from_neighbour :
    let deny : PolicyRecord := { PolicyRecord.blank with name := "freeze", kind := "deny" }
    let s : Session := ⟨.ofSettings .standard false, .empty⟩
    let s' : Session := ⟨.ofSettings .standard false, .ofRecords [{ deny with tenant := 1 }]⟩
    let own : List Operation := [.evaluate 5 ⟨2⟩ .blank, .change (.insert deny), .invalidate 0, .evaluate 9 ⟨2⟩ .blank]
    let os' : List Operation := .evaluate 1 ⟨2⟩ { Request.blank with tenant := 1 } :: own ++ [.invalidate 1]
    Alike 0 s s' ∧ own.filter (·.concerns 0) = os'.filter (·.concerns 0) ∧ s.results 0 own = s'.results 0 os' := by
  intro deny s s' own os'
  have halike : Alike 0 s s' := ⟨rfl, rfl, rfl, rfl⟩
  have hsame : own.filter (·.concerns 0) = os'.filter (·.concerns 0) := rfl
  exact ⟨halike, hsame, results_isolated halike hsame⟩

end Session

end AccessPolicy
