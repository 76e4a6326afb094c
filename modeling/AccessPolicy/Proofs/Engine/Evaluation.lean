import AccessPolicy.Engine

namespace AccessPolicy

def Policy.decideInScope [ZoneDatabase] (mode : PatternMode) (ps : List Policy) (r : Request) : Decision :=
  decide mode (applicable mode ps r.resource r.action) r

namespace Engine

variable (e : Engine) (now : Nat) (tenant : UInt64)

theorem lookup_found : (e.lookup now tenant).1 = e.cache.lookup now tenant := by
  unfold lookup Cache.isEnabled
  cases ht : e.cache.ttl with
  | none => simp [Cache.lookup, ht]
  | some ttl =>
    unfold Cache.get
    cases h : e.cache.lookup now tenant <;> simp

theorem lookup_cache : (e.lookup now tenant).2.cache =
    if (e.cache.lookup now tenant).isSome then e.cache else e.cache.evict now tenant := by
  unfold lookup Cache.isEnabled
  cases ht : e.cache.ttl with
  | none => simp [Cache.lookup, Cache.evict, ht]
  | some ttl =>
    unfold Cache.get
    cases h : e.cache.lookup now tenant <;> simp

theorem lookup_mode : (e.lookup now tenant).2.mode = e.mode := by
  unfold lookup
  split <;> rfl

variable [ZoneDatabase]

theorem absorb_mode (answer : StoreAnswer) : (e.absorb now tenant answer).2.mode = e.mode := by
  unfold absorb
  cases e.received answer <;> rfl

theorem absorb_cache_of_fault (f : Option Fault) :
    (e.absorb now tenant (f.elim .silence .failure)).2.cache = e.cache := by
  cases f <;> rfl

variable (took : Span) (answer : StoreAnswer) (r : Request)

theorem evaluate_eq_of_hit {ps : List Policy} (h : e.cache.lookup now r.tenant = some ps) :
    let looked := (e.lookup now r.tenant).2
    e.evaluate now took answer r =
      (⟨.ok (looked.conclude took ps r).1, false⟩, (looked.conclude took ps r).2) := by
  have hfound := e.lookup_found now r.tenant
  unfold evaluate
  cases hl : e.lookup now r.tenant with
  | mk found e' =>
    rw [hl, h] at hfound
    subst hfound
    rfl

theorem evaluate_eq_of_miss (h : e.cache.lookup now r.tenant = none) (rs : List PolicyRecord) :
    let ps := (Compiled.ofRecords rs).policies
    let filled := ((e.lookup now r.tenant).2.absorb (now + took.nanos) r.tenant (.records rs)).2
    e.evaluate now took (.records rs) r =
      (⟨.ok (filled.conclude took ps r).1, true⟩, (filled.conclude took ps r).2) := by
  have hfound := e.lookup_found now r.tenant
  unfold evaluate
  cases hl : e.lookup now r.tenant with
  | mk found e' =>
    rw [hl, h] at hfound
    subst hfound
    rfl

theorem evaluate_of_hit {ps : List Policy} (h : e.cache.lookup now r.tenant = some ps) :
    (e.evaluate now took answer r).1 = ⟨.ok (Policy.decideInScope e.mode ps r), false⟩ ∧
      (e.evaluate now took answer r).2.cache = e.cache := by
  have hcache := e.lookup_cache now r.tenant
  rw [h] at hcache
  rw [e.evaluate_eq_of_hit now took answer r h, ← e.lookup_mode now r.tenant]
  exact ⟨rfl, hcache⟩

theorem evaluate_of_miss (h : e.cache.lookup now r.tenant = none) (rs : List PolicyRecord) :
    let ps := (Compiled.ofRecords rs).policies
    (e.evaluate now took (.records rs) r).1 = ⟨.ok (Policy.decideInScope e.mode ps r), true⟩ ∧
      (e.evaluate now took (.records rs) r).2.cache =
        (e.cache.evict now r.tenant).insert (now + took.nanos) r.tenant ps := by
  intro ps
  have hcache : (e.lookup now r.tenant).2.cache = e.cache.evict now r.tenant := by
    rw [e.lookup_cache now r.tenant, h]
    rfl
  rw [e.evaluate_eq_of_miss now took r h rs, ← e.lookup_mode now r.tenant, ← hcache]
  exact ⟨rfl, rfl⟩

theorem evaluate_result (rs : List PolicyRecord) : (e.evaluate now took (.records rs) r).1.result =
    .ok (Policy.decideInScope e.mode ((e.cache.lookup now r.tenant).getD (Compiled.ofRecords rs).policies) r) := by
  cases h : e.cache.lookup now r.tenant with
  | none => rw [(e.evaluate_of_miss now took r h rs).1, Option.getD_none]
  | some ps => rw [(e.evaluate_of_hit now took (.records rs) r h).1, Option.getD_some]

theorem evaluate_ttl (rs : List PolicyRecord) : (e.evaluate now took (.records rs) r).2.cache.ttl = e.cache.ttl := by
  cases h : e.cache.lookup now r.tenant with
  | none => rw [(e.evaluate_of_miss now took r h rs).2, Cache.insert_ttl, Cache.evict_ttl]
  | some ps => rw [(e.evaluate_of_hit now took (.records rs) r h).2]

theorem get?_evaluate (rs : List PolicyRecord) : (e.evaluate now took (.records rs) r).2.cache.entries.get? tenant =
    if r.tenant = tenant ∧ e.cache.ttl.isSome ∧ e.cache.lookup now tenant = none then
      some ⟨now + took.nanos, (Compiled.ofRecords rs).policies⟩
    else e.cache.entries.get? tenant := by
  by_cases ht : r.tenant = tenant
  · subst ht
    cases h : e.cache.lookup now r.tenant with
    | none =>
      rw [(e.evaluate_of_miss now took r h rs).2, Cache.get?_insert, Cache.get?_evict, Cache.evict_ttl, h]
      cases e.cache.ttl <;> simp
    | some ps => simp [(e.evaluate_of_hit now took (.records rs) r h).2]
  · cases h : e.cache.lookup now r.tenant with
    | none => rw [(e.evaluate_of_miss now took r h rs).2, Cache.get?_insert, Cache.get?_evict]; simp [ht]
    | some ps => simp [(e.evaluate_of_hit now took (.records rs) r h).2, ht]

theorem evaluate_mode : (e.evaluate now took answer r).2.mode = e.mode := by
  have hmode := e.lookup_mode now r.tenant
  unfold evaluate
  cases hl : e.lookup now r.tenant with
  | mk found e' =>
    rw [hl] at hmode
    cases found with
    | some ps => exact hmode
    | none =>
      have habsorb := e'.absorb_mode (now + took.nanos) r.tenant answer
      cases ha : e'.absorb (now + took.nanos) r.tenant answer with
      | mk loaded e'' =>
        rw [ha] at habsorb
        simp only [ha]
        cases loaded <;> exact habsorb.trans hmode

end Engine

end AccessPolicy
