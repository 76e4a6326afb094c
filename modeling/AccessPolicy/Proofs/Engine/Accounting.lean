import AccessPolicy.Proofs.Engine.Calls
import Mathlib.Data.List.Forall2

namespace AccessPolicy

namespace Policy

variable (mode : PatternMode) (r : Request)

theorem examined_eq (ps : List Policy) : examined mode r ps =
    min (ps.findIdx (fun p => p.isMatchedBy mode r && p.kind == .deny) + 1) ps.length := by
  induction ps with
  | nil => rfl
  | cons p ps ih =>
    rw [examined, List.findIdx_cons, List.length_cons, ih]
    cases p.isMatchedBy mode r && p.kind == .deny with
    | true => simp
    | false => simp

end Policy

theorem Compiled.length_rejected [ZoneDatabase] (rs : List PolicyRecord) :
    (ofRecords rs).rejected.length = rs.countP fun x => x.enabled && !x.compile.isOk := by
  induction rs with
  | nil => rfl
  | cons x rs ih =>
    rw [List.countP_cons, ← ih]
    cases henabled : x.enabled with
    | false => simp [ofRecords, results, henabled]
    | true => cases hcompile : x.compile <;> simp [ofRecords, results, henabled, hcompile, Except.isOk, Except.toBool]

namespace Metrics

def outcomeLabels (allow : Bool) : Labels := [("outcome", if allow then "allow" else "deny")]

def tenantLabels (t : UInt64) : Labels := [("tenant", toString t.toNat)]

def cacheLabels (missed : Bool) : Labels := [("result", if missed then "miss" else "hit")]

theorem sorted_outcomeLabels (a b : Bool) : (outcomeLabels a).sorted = (outcomeLabels b).sorted ↔ a = b := by
  rw [outcomeLabels, outcomeLabels, Labels.sorted_singleton, Labels.sorted_singleton]
  cases a <;> cases b <;> decide

theorem sorted_cacheLabels (a b : Bool) : (cacheLabels a).sorted = (cacheLabels b).sorted ↔ a = b := by
  rw [cacheLabels, cacheLabels, Labels.sorted_singleton, Labels.sorted_singleton]
  cases a <;> cases b <;> decide

theorem sorted_tenantLabels (t u : UInt64) : (tenantLabels t).sorted = (tenantLabels u).sorted ↔ t = u := by
  constructor
  · intro h
    rw [tenantLabels, tenantLabels, Labels.sorted_singleton, Labels.sorted_singleton] at h
    have htext : toString t.toNat = toString u.toNat := congrArg Prod.snd (List.cons.inj h).1
    have hdigits : Nat.toDigits 10 t.toNat = Nat.toDigits 10 u.toNat := by
      simpa [Nat.toString_eq_repr, Nat.toList_repr] using congrArg String.toList htext
    refine UInt64.toNat_inj.1 ?_
    calc t.toNat = Nat.ofDigitChars 10 (Nat.toDigits 10 t.toNat) 0 := Nat.ofDigitChars_ten_toDigits.symm
      _ = Nat.ofDigitChars 10 (Nat.toDigits 10 u.toNat) 0 := by rw [hdigits]
      _ = u.toNat := Nat.ofDigitChars_ten_toDigits
  · rintro rfl
    rfl

theorem Counter.get_foldl_increment {α : Type} (as : List α) (ls : Labels) (c : Counter) :
    (as.foldl (fun m _ => m.increment ls) c).get ls = c.get ls + .ofNat as.length := by
  induction as generalizing c with
  | nil => simp
  | cons a as ih =>
    rw [List.foldl_cons, ih, Counter.increment, Counter.get_add, if_pos rfl, List.length_cons, Nat.add_comm,
      UInt64.ofNat_add, UInt64.add_assoc]
    rfl

end Metrics

namespace Reply

def decidesTo (allow : Bool) (c : Reply) : Bool :=
  match c.result with
  | .ok d => d.allow == allow
  | .error _ => false

def isDecided (c : Reply) : Bool := c.result.isOk

def malformed [ZoneDatabase] (c : Reply) : Nat :=
  match c.fetched, c.inquiry.answer with
  | true, .records rs => rs.countP fun x => x.enabled && !x.compile.isOk
  | _, _ => 0

/-- How many policies in scope there are up to the first that matches and denies; without one, all count. -/
def consulted (mode : PatternMode) (t : UInt64) (c : Reply) : Nat :=
  let r := c.inquiry.request
  match c.loaded with
  | .error _ => 0
  | .ok ps =>
    if r.tenant = t then
      let inScope := Policy.applicable mode ps r.resource r.action
      min (inScope.findIdx (fun p => p.isMatchedBy mode r && p.kind == .deny) + 1) inScope.length
    else 0

end Reply

structure AuditRecord.Tells (a : AuditRecord) (c : Reply) : Prop where
  decision : ∃ d, c.result = .ok d ∧ a.allowed = d.allow ∧ a.reason = d.reason
  user : a.user = c.inquiry.request.user
  tenant : a.tenant = c.inquiry.request.tenant
  workspace : a.workspace = c.inquiry.request.workspace
  resource : a.resource = c.inquiry.request.resource
  action : a.action = c.inquiry.request.action
  resourceId : a.resourceId = c.inquiry.request.resourceId
  ip : a.ip = c.inquiry.request.ip
  userAgent : a.userAgent = c.inquiry.request.userAgent
  evaluatedAt : a.evaluatedAt = c.inquiry.request.time

namespace Engine

section Settings

variable {e : Engine} {s : EngineSettings}

theorem Configured.isEnabled (h : Configured s e) : e.cache.isEnabled = (s.cacheTtlMs != 0) := by
  rw [Cache.isEnabled, h.ttl, EngineSettings.cacheTtl]
  by_cases hs : s.cacheTtlMs = 0 <;> simp [hs]

theorem fetches_of_disabled (q : Inquiry) (h : e.cache.isEnabled = false) : e.fetches q = true := by
  have httl : e.cache.ttl = none := by simpa [Cache.isEnabled] using h
  rw [fetches, Cache.lookup, httl]
  rfl

end Settings

variable [ZoneDatabase]

section Shares

variable (e : Engine) (q : Inquiry)

theorem decisions_share (allow : Bool) :
    (e.ask q).2.metrics.decisions.get (Metrics.outcomeLabels allow) =
      e.metrics.decisions.get (Metrics.outcomeLabels allow) +
        .ofNat (if (e.ask q).1.decidesTo allow then 1 else 0) := by
  rw [ask_decisions, Reply.decidesTo]
  cases h : (e.ask q).1.result with
  | error f => simp
  | ok d =>
    refine (Metrics.Counter.get_add_of_iff (Metrics.sorted_outcomeLabels d.allow allow) ..).trans ?_
    by_cases hallow : d.allow = allow <;> simp [hallow]

theorem evaluationDuration_share (allow : Bool) :
    (e.ask q).2.metrics.evaluationDuration.count (Metrics.outcomeLabels allow) =
      e.metrics.evaluationDuration.count (Metrics.outcomeLabels allow) +
        .ofNat (if (e.ask q).1.decidesTo allow then 1 else 0) := by
  rw [ask_evaluationDuration, Reply.decidesTo]
  cases h : (e.ask q).1.result with
  | error f => simp
  | ok d =>
    refine (Metrics.Histogram.count_observe_of_iff (Metrics.sorted_outcomeLabels d.allow allow) ..).trans ?_
    by_cases hallow : d.allow = allow <;> simp [hallow]

theorem storeErrors_share : (e.ask q).2.metrics.storeErrors.total =
    e.metrics.storeErrors.total + .ofNat (if !(e.ask q).1.isDecided then 1 else 0) := by
  rw [ask_storeErrors, Reply.isDecided]
  cases h : (e.ask q).1.result with
  | error f => exact Metrics.Counter.total_add ..
  | ok d => simp [Except.isOk, Except.toBool]

theorem policiesSkipped_share : (e.ask q).2.metrics.policiesSkipped.get [("reason", "malformed")] =
    e.metrics.policiesSkipped.get [("reason", "malformed")] + .ofNat (e.ask q).1.malformed := by
  rw [ask_policiesSkipped, load_policiesSkipped, Reply.malformed, ask_fetched, ask_inquiry]
  cases e.fetches q with
  | false => simp
  | true =>
    cases q.answer with
    | records rs => simp only [← Compiled.length_rejected, Metrics.Counter.get_foldl_increment]
    | failure f => simp
    | silence => simp

theorem policyEvaluations_share (t : UInt64) :
    (e.ask q).2.metrics.policyEvaluations.get (Metrics.tenantLabels t) =
      e.metrics.policyEvaluations.get (Metrics.tenantLabels t) + .ofNat ((e.ask q).1.consulted e.mode t) := by
  rw [ask_policyEvaluations, Reply.consulted, ask_inquiry]
  cases h : (e.ask q).1.loaded with
  | error f => simp
  | ok ps =>
    simp only [← Policy.examined_eq, countExamined]
    generalize Policy.examined e.mode q.request _ = n
    by_cases hn : n = 0
    · simp [hn]
    · rw [if_neg hn]
      refine (Metrics.Counter.get_add_of_iff (Metrics.sorted_tenantLabels q.request.tenant t) ..).trans ?_
      split <;> rfl

theorem policyCache_share (missed : Bool) :
    (e.ask q).2.metrics.policyCache.get (Metrics.cacheLabels missed) =
      e.metrics.policyCache.get (Metrics.cacheLabels missed) +
        .ofNat (if e.cache.isEnabled && ((e.ask q).1.fetched == missed) then 1 else 0) := by
  rw [ask_policyCache, ask_fetched, lookedUp]
  cases e.cache.isEnabled with
  | false => simp
  | true =>
    refine (Metrics.Counter.get_add_of_iff (Metrics.sorted_cacheLabels (e.fetches q) missed) ..).trans ?_
    cases e.fetches q <;> cases missed <;> rfl

theorem audit_step (as : List AuditRecord) (h : e.audit = some as) : ∃ bs, (e.ask q).2.audit = some (as ++ bs) ∧
    List.Forall₂ AuditRecord.Tells bs ([(e.ask q).1].filter (·.isDecided)) := by
  rw [ask_audit, h, List.filter_singleton, Reply.isDecided]
  cases hresult : (e.ask q).1.result with
  | error f => exact ⟨[], by simp, .nil⟩
  | ok d =>
    refine ⟨[.of q.request d], rfl, .cons ?_ .nil⟩
    exact ⟨⟨d, hresult, rfl, rfl⟩, rfl, rfl, rfl, rfl, rfl, rfl, rfl, rfl, rfl⟩

end Shares

theorem audit_after {e : Engine} {as : List AuditRecord} (h : e.audit = some as) (qs : List Inquiry) :
    ∃ bs, (e.after qs).audit = some (as ++ bs) ∧
      List.Forall₂ AuditRecord.Tells bs ((e.replies qs).filter (·.isDecided)) := by
  induction qs generalizing e as with
  | nil => exact ⟨[], by rw [List.append_nil]; exact h, .nil⟩
  | cons q qs ih =>
    obtain ⟨bs, hbs, htells⟩ := audit_step e q as h
    obtain ⟨cs, hcs, htells'⟩ := ih hbs
    refine ⟨bs ++ cs, by rw [← List.append_assoc]; exact hcs, ?_⟩
    have happend : e.replies (q :: qs) = [(e.ask q).1] ++ (e.ask q).2.replies qs := rfl
    rw [happend, List.filter_append]
    exact List.rel_append htells htells'

theorem complaints_after {e : Engine} (h : e.audit.isSome = true) (qs : List Inquiry) :
    ∀ c ∈ e.replies qs, c.complaint = if c.isDecided then fault? c.inquiry.receipt else none := by
  induction qs generalizing e with
  | nil => simp [replies]
  | cons q qs ih =>
    rw [replies, List.forall_mem_cons]
    refine ⟨?_, ih ((e.ask_audited q).trans h)⟩
    rw [ask_complaint, h, Bool.true_and, Reply.isDecided, ask_inquiry]

/-- What an engine that works by these settings owes to the calls that it has had. -/
structure Accounts (s : EngineSettings) (replies : List Reply) (e : Engine) : Prop where
  decided : ∀ c ∈ replies, c.result =
    c.loaded.map fun ps => Policy.decideInScope s.patternMode ps c.inquiry.request
  outcomes : ∀ allow, e.metrics.decisions.get (Metrics.outcomeLabels allow) =
    .ofNat (replies.countP (·.decidesTo allow))
  durations : ∀ allow, e.metrics.evaluationDuration.count (Metrics.outcomeLabels allow) =
    .ofNat (replies.countP (·.decidesTo allow))
  audit : ∃ records, e.audit = some records ∧
    List.Forall₂ AuditRecord.Tells records (replies.filter (·.isDecided))
  complaints : ∀ c ∈ replies, c.complaint = if c.isDecided then fault? c.inquiry.receipt else none
  failures : e.metrics.storeErrors.total = .ofNat (replies.countP fun c => !c.isDecided)
  cached : s.cacheTtlMs ≠ 0 →
    e.metrics.policyCache.get (Metrics.cacheLabels false) + e.metrics.policyCache.get (Metrics.cacheLabels true) =
      .ofNat replies.length ∧
    e.metrics.policyCache.get (Metrics.cacheLabels true) = .ofNat (replies.countP (·.fetched))
  uncached : s.cacheTtlMs = 0 → e.metrics.policyCache.get (Metrics.cacheLabels false) = 0 ∧
    e.metrics.policyCache.get (Metrics.cacheLabels true) = 0 ∧ ∀ c ∈ replies, c.fetched = true
  skipped : e.metrics.policiesSkipped.get [("reason", "malformed")] = .ofNat (Reply.total (·.malformed) replies)
  examined : ∀ t, e.metrics.policyEvaluations.get (Metrics.tenantLabels t) =
    .ofNat (Reply.total (·.consulted s.patternMode t) replies)

section Totals

variable {s : EngineSettings} {e : Engine} (h : Configured s e) (qs : List Inquiry)

include h

theorem decisions_after (allow : Bool) : (e.after qs).metrics.decisions.get (Metrics.outcomeLabels allow) =
    e.metrics.decisions.get (Metrics.outcomeLabels allow) + .ofNat ((e.replies qs).countP (·.decidesTo allow)) :=
  tally_after (·.metrics.decisions.get (Metrics.outcomeLabels allow)) _ (fun e q _ => e.decisions_share q allow) h qs

theorem evaluationDuration_after (allow : Bool) :
    (e.after qs).metrics.evaluationDuration.count (Metrics.outcomeLabels allow) =
      e.metrics.evaluationDuration.count (Metrics.outcomeLabels allow) +
        .ofNat ((e.replies qs).countP (·.decidesTo allow)) :=
  tally_after (·.metrics.evaluationDuration.count (Metrics.outcomeLabels allow)) _
    (fun e q _ => e.evaluationDuration_share q allow) h qs

theorem storeErrors_after : (e.after qs).metrics.storeErrors.total =
    e.metrics.storeErrors.total + .ofNat ((e.replies qs).countP fun c => !c.isDecided) :=
  tally_after (·.metrics.storeErrors.total) (fun c => !c.isDecided) (fun e q _ => e.storeErrors_share q) h qs

theorem policiesSkipped_after : (e.after qs).metrics.policiesSkipped.get [("reason", "malformed")] =
    e.metrics.policiesSkipped.get [("reason", "malformed")] + .ofNat (Reply.total (·.malformed) (e.replies qs)) :=
  count_after (·.metrics.policiesSkipped.get [("reason", "malformed")]) _ (fun e q _ => e.policiesSkipped_share q) h qs

theorem policyEvaluations_after (t : UInt64) :
    (e.after qs).metrics.policyEvaluations.get (Metrics.tenantLabels t) =
      e.metrics.policyEvaluations.get (Metrics.tenantLabels t) +
        .ofNat (Reply.total (·.consulted s.patternMode t) (e.replies qs)) := by
  refine count_after (·.metrics.policyEvaluations.get (Metrics.tenantLabels t)) _ (fun e q h => ?_) h qs
  rw [← h.mode]
  exact e.policyEvaluations_share q t

theorem policyCache_after (missed : Bool) :
    (e.after qs).metrics.policyCache.get (Metrics.cacheLabels missed) =
      e.metrics.policyCache.get (Metrics.cacheLabels missed) +
        .ofNat ((e.replies qs).countP fun c => s.cacheTtlMs != 0 && (c.fetched == missed)) := by
  refine tally_after (·.metrics.policyCache.get (Metrics.cacheLabels missed))
    (fun c => s.cacheTtlMs != 0 && (c.fetched == missed)) (fun e q h => ?_) h qs
  rw [← h.isEnabled]
  exact e.policyCache_share q missed

variable (hempty : e.metrics.policyCache = .empty)

include hempty

theorem cached_after (hs : s.cacheTtlMs ≠ 0) :
    (e.after qs).metrics.policyCache.get (Metrics.cacheLabels false) +
        (e.after qs).metrics.policyCache.get (Metrics.cacheLabels true) = .ofNat (e.replies qs).length ∧
      (e.after qs).metrics.policyCache.get (Metrics.cacheLabels true) = .ofNat ((e.replies qs).countP (·.fetched)) := by
  have hon : (s.cacheTtlMs != 0) = true := bne_iff_ne.2 hs
  have hlength := List.length_eq_countP_add_countP (·.fetched) (l := e.replies qs)
  rw [policyCache_after h, policyCache_after h, hempty, Metrics.Counter.get_empty, Metrics.Counter.get_empty,
    UInt64.zero_add, UInt64.zero_add, ← UInt64.ofNat_add, hlength]
  simp [hon, Nat.add_comm]

theorem uncached_after (hs : s.cacheTtlMs = 0) :
    (e.after qs).metrics.policyCache.get (Metrics.cacheLabels false) = 0 ∧
      (e.after qs).metrics.policyCache.get (Metrics.cacheLabels true) = 0 ∧ ∀ c ∈ e.replies qs, c.fetched = true := by
  have hoff : (s.cacheTtlMs != 0) = false := by simp [hs]
  refine ⟨?_, ?_, forall_replies (fun e q h => ?_) h qs⟩
  · rw [policyCache_after h, hempty]
    simp [hoff, Metrics.Counter.get_empty]
  · rw [policyCache_after h, hempty]
    simp [hoff, Metrics.Counter.get_empty]
  · rw [ask_fetched, fetches_of_disabled q (h.isEnabled.trans hoff)]

end Totals

theorem accounts_after (s : EngineSettings) (qs : List Inquiry) :
    Accounts s ((ofSettings s true).replies qs) ((ofSettings s true).after qs) := by
  have hstart := configured_ofSettings s true
  have haudit : (ofSettings s true).audit = some [] := rfl
  exact {
    decided := by
      refine forall_replies (fun e q h => ?_) hstart qs
      rw [← h.mode]
      exact e.ask_result q
    outcomes := fun allow => (decisions_after hstart qs allow).trans (UInt64.zero_add _)
    durations := fun allow => (evaluationDuration_after hstart qs allow).trans (UInt64.zero_add _)
    audit := audit_after haudit qs
    complaints := complaints_after rfl qs
    failures := (storeErrors_after hstart qs).trans (UInt64.zero_add _)
    cached := cached_after hstart qs rfl
    uncached := uncached_after hstart qs rfl
    skipped := (policiesSkipped_after hstart qs).trans (UInt64.zero_add _)
    examined := fun t => (policyEvaluations_after hstart qs t).trans (UInt64.zero_add _) }

end Engine

end AccessPolicy
