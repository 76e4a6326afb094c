import AccessPolicy.Proofs.Engine.Calls
import AccessPolicy.Time.ZoneTable

namespace AccessPolicy.Engine

section Database

variable [ZoneDatabase]

/-- Engines that no call from `now` on tells apart. -/
structure SameFrom (now : Nat) (e e' : Engine) : Prop where
  mode : e.mode = e'.mode
  storeTimeout : e.storeTimeout = e'.storeTimeout
  ttl : e.cache.ttl = e'.cache.ttl
  audited : e.audit.isSome = e'.audit.isSome
  found : ∀ later, now ≤ later → ∀ t, e.cache.lookup later t = e'.cache.lookup later t

namespace SameFrom

variable {now : Nat} {e e' : Engine} (h : SameFrom now e e') {q : Inquiry}

include h

omit [ZoneDatabase] in
theorem fetches (hq : now ≤ q.now) : e.fetches q = e'.fetches q := by
  rw [Engine.fetches, Engine.fetches, h.found q.now hq]

theorem loaded (hq : now ≤ q.now) : e.loaded q = e'.loaded q := by
  have hreceived : e.received q.answer = e'.received q.answer := by
    unfold received
    rw [h.storeTimeout]
  rw [Engine.loaded, Engine.loaded, h.found q.now hq, hreceived]

theorem reply (hq : now ≤ q.now) : (e.ask q).1 = (e'.ask q).1 := by
  have hloaded := h.loaded hq
  cases hl : e.loaded q with
  | error f => rw [ask_of_fault e q hl, ask_of_fault e' q (hloaded ▸ hl)]
  | ok ps => rw [ask_of_loaded e q hl, ask_of_loaded e' q (hloaded ▸ hl), h.fetches hq, h.mode, h.audited]

theorem lookup_load (hq : now ≤ q.now) {later : Nat} (hlater : q.now ≤ later) (t : UInt64) :
    (e.load q).cache.lookup later t = (e'.load q).cache.lookup later t := by
  have hfetches := h.fetches hq
  cases hf : e.fetches q with
  | false =>
    rw [load_of_hit e q hf, load_of_hit e' q (hfetches ▸ hf)]
    exact h.found later (Nat.le_trans hq hlater) t
  | true =>
    rw [load_of_miss e q hf, load_of_miss e' q (hfetches ▸ hf)]
    have hevict : (e.cache.evict q.now q.request.tenant).lookup later t =
        (e'.cache.evict q.now q.request.tenant).lookup later t := by
      rw [Cache.lookup_evict _ _ _ hlater, Cache.lookup_evict _ _ _ hlater, h.found later (Nat.le_trans hq hlater)]
    cases q.answer with
    | records rs =>
      refine Cache.lookup_insert_congr _ _ _ _ ?_ later hevict
      rw [Cache.evict_ttl, Cache.evict_ttl, h.ttl]
    | failure f => exact hevict
    | silence => exact hevict

theorem ask (hq : now ≤ q.now) : SameFrom q.now (e.ask q).2 (e'.ask q).2 where
  mode := by rw [ask_mode, ask_mode, h.mode]
  storeTimeout := by rw [ask_storeTimeout, ask_storeTimeout, h.storeTimeout]
  ttl := by rw [ask_cache, ask_cache, load_ttl, load_ttl, h.ttl]
  audited := by rw [ask_audited, ask_audited, h.audited]
  found later hlater t := by
    rw [ask_cache, ask_cache]
    exact h.lookup_load hq hlater t

omit h in
theorem replies (h : SameFrom now e e') {qs : List Inquiry} (hqs : (now :: qs.map (·.now)).Pairwise (· ≤ ·)) :
    e.replies qs = e'.replies qs := by
  induction qs generalizing now e e' with
  | nil => rfl
  | cons q qs ih =>
    obtain ⟨hnow, hrest⟩ := List.pairwise_cons.1 hqs
    have hq : now ≤ q.now := hnow q.now (by simp)
    rw [Engine.replies, Engine.replies, h.reply hq, ih (h.ask hq) hrest]

end SameFrom

theorem lookup_ask_of_ne (e : Engine) (q : Inquiry) {t : UInt64} (h : q.request.tenant ≠ t) (later : Nat) :
    (e.ask q).2.cache.lookup later t = e.cache.lookup later t := by
  have hevict : (e.cache.evict q.now q.request.tenant).lookup later t = e.cache.lookup later t := by
    refine Cache.lookup_congr later t (Cache.evict_ttl ..) ?_
    rw [Cache.get?_evict, if_neg fun hk => h hk.1]
  rw [ask_cache]
  cases hf : e.fetches q with
  | false => rw [load_of_hit e q hf]
  | true =>
    rw [load_of_miss e q hf]
    cases q.answer with
    | records rs => exact (Cache.lookup_insert_of_ne _ _ _ _ _ h later).trans hevict
    | failure f => exact hevict
    | silence => exact hevict

theorem lookup_after_of_ne (e : Engine) {qs : List Inquiry} {t : UInt64} (h : ∀ q ∈ qs, q.request.tenant ≠ t)
    (later : Nat) : (e.after qs).cache.lookup later t = e.cache.lookup later t := by
  induction qs generalizing e with
  | nil => rfl
  | cons q qs ih =>
    obtain ⟨hq, hqs⟩ := List.forall_mem_cons.1 h
    exact (ih (e.ask q).2 hqs).trans (e.lookup_ask_of_ne q hq later)

/-- What is left of a load that failed for a tenant at `now`: one more store error, and nothing that a later call
could meet with. -/
structure Spared (now : Nat) (t : UInt64) (f : Fault) (e e' : Engine) : Prop where
  audit : e'.audit = e.audit
  decisions : e'.metrics.decisions = e.metrics.decisions
  policyEvaluations : e'.metrics.policyEvaluations = e.metrics.policyEvaluations
  policiesSkipped : e'.metrics.policiesSkipped = e.metrics.policiesSkipped
  evaluationDuration : e'.metrics.evaluationDuration = e.metrics.evaluationDuration
  storeErrors : ∀ ls, e'.metrics.storeErrors.get ls = e.metrics.storeErrors.get ls +
    if ls.sorted = [("kind", if f.code = .storeTimeout then "timeout" else "unavailable")] then 1 else 0
  storeErrorsTotal : e'.metrics.storeErrors.total = e.metrics.storeErrors.total + 1
  entries : ∀ k, e'.cache.entries.get? k = e.cache.entries.get? k ∨
    k = t ∧ e'.cache.entries.get? k = none ∧
      ∃ ttl entry, e.cache.ttl = some ttl ∧ e.cache.entries.get? k = some entry ∧ Cache.isFresh ttl now entry = false
  replies : ∀ qs : List Inquiry, (now :: qs.map (·.now)).Pairwise (· ≤ ·) → e'.replies qs = e.replies qs
  fetches : ∀ (qs : List Inquiry) (q : Inquiry), (∀ p ∈ qs, p.request.tenant ≠ t) → q.request.tenant = t →
    now ≤ q.now → ((e'.after qs).ask q).1.fetched = true

theorem load_of_fault (e : Engine) (q : Inquiry) {f : Fault} (h : e.loaded q = .error f) : e.load q = { e with
    cache := e.cache.evict q.now q.request.tenant
    metrics := { e.metrics with
      policyCache := e.lookedUp q
      storeErrors := e.metrics.storeErrors.increment [("kind", storeErrorKind f)] } } := by
  have hmiss := fetches_of_fault e q h
  rw [load_of_miss e q hmiss]
  rw [loaded_of_miss e q hmiss] at h
  cases hanswer : q.answer with
  | records rs => rw [hanswer] at h; contradiction
  | failure g => rw [hanswer] at h; cases h; rfl
  | silence => rw [hanswer] at h; cases h; rfl

theorem sameFrom_load (e : Engine) (q : Inquiry) {f : Fault} (h : e.loaded q = .error f) :
    SameFrom q.now (e.load q) e := by
  rw [load_of_fault e q h]
  exact ⟨rfl, rfl, Cache.evict_ttl .., rfl, fun later hlater t => Cache.lookup_evict _ _ _ hlater⟩

theorem refetches_of_fault (e : Engine) (q : Inquiry) {f : Fault} (h : e.loaded q = .error f) {qs : List Inquiry}
    {p : Inquiry} (hqs : ∀ p ∈ qs, p.request.tenant ≠ q.request.tenant) (hp : p.request.tenant = q.request.tenant)
    (hnow : q.now ≤ p.now) : (((e.load q).after qs).ask p).1.fetched = true := by
  have hnone := lookup_of_fetches e q (fetches_of_fault e q h)
  rw [ask_fetched, Engine.fetches, hp, lookup_after_of_ne _ hqs, (sameFrom_load e q h).found _ hnow,
    e.cache.lookup_eq_none_mono _ hnow hnone]
  rfl

theorem spared_of_fault (e : Engine) (q : Inquiry) {f : Fault} (h : e.loaded q = .error f) :
    Spared q.now q.request.tenant f e (e.load q) := by
  have hload := load_of_fault e q h
  have hkept := e.load_unconcluded q
  exact {
    audit := hkept.audit
    decisions := hkept.decisions
    policyEvaluations := hkept.policyEvaluations
    policiesSkipped := by rw [hload]
    evaluationDuration := hkept.evaluationDuration
    storeErrors := fun ls => by
      have hkind : Metrics.Labels.sorted [("kind", storeErrorKind f)] = ls.sorted ↔
          ls.sorted = [("kind", storeErrorKind f)] := by
        rw [Metrics.Labels.sorted_singleton, eq_comm]
      rw [hload]
      exact Metrics.Counter.get_add_of_iff hkind _ _
    storeErrorsTotal := by
      rw [hload]
      exact Metrics.Counter.total_add ..
    entries := fun k => by
      rw [hload]
      rcases Cache.get?_evict_cases e.cache q.now q.request.tenant k with hsame | ⟨hk, hgone⟩
      · exact .inl hsame
      · exact .inr ⟨hk.symm, hgone⟩
    replies := fun qs => (sameFrom_load e q h).replies
    fetches := fun qs p => refetches_of_fault e q h }

theorem evaluate_of_failed_load (e : Engine) (now : Nat) (took : Span) (failure : Option Fault) (r : Request)
    (hmiss : e.cache.lookup now r.tenant = none) :
    let f := failure.getD (.storeTimeout e.storeTimeout)
    ∃ e', e.evaluate now took (failure.elim .silence .failure) r = (⟨.error f, true⟩, e') ∧
      Spared now r.tenant f e e' := by
  intro f
  let q : Inquiry := ⟨now, took, r, failure.elim .silence .failure, .ok ()⟩
  have hloaded : e.loaded q = .error f := by
    rw [loaded_of_miss e q (Option.isNone_iff_eq_none.2 hmiss)]
    cases failure <;> rfl
  refine ⟨e.load q, ?_, spared_of_fault e q hloaded⟩
  have heval := evaluate_eq_load e q
  rw [hloaded, fetches_of_fault e q hloaded] at heval
  exact heval

end Database

open ZoneTable in
theorem expired_entry_spared :
    let e := (ofSettings ⟨2000, 1, .stub, true⟩ true).after [⟨0, ⟨5⟩, .blank, .records [], .ok ()⟩]
    (e.cache.entries.get? 0).isSome = true ∧ e.cache.lookup 2000000 0 = none ∧
      ∃ e', e.evaluate 2000000 ⟨7⟩ .silence .blank = (⟨.error (.storeTimeout (.ofMillis 2000)), true⟩, e') ∧
        Spared 2000000 0 (.storeTimeout (.ofMillis 2000)) e e' := by
  intro e
  have hmiss : e.cache.lookup 2000000 Request.blank.tenant = none := rfl
  exact ⟨rfl, hmiss, evaluate_of_failed_load e 2000000 ⟨7⟩ none .blank hmiss⟩

end AccessPolicy.Engine
