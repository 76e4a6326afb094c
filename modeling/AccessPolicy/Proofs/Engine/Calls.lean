import AccessPolicy.Proofs.Engine.Evaluation
import AccessPolicy.Proofs.Fallible

namespace AccessPolicy

structure Inquiry where
  now : Nat
  took : Span
  request : Request
  answer : StoreAnswer
  receipt : Except Fault Unit

structure Reply where
  inquiry : Inquiry
  loaded : Except Fault (List Policy)
  fetched : Bool
  result : Except Fault Decision
  complaint : Option Fault

def Reply.total (share : Reply → Nat) : List Reply → Nat
  | [] => 0
  | c :: cs => share c + total share cs

theorem Reply.total_ite (p : Reply → Bool) (cs : List Reply) :
    total (fun c => if p c then 1 else 0) cs = cs.countP p := by
  induction cs with
  | nil => rfl
  | cons c cs ih => rw [total, ih, List.countP_cons, Nat.add_comm]

namespace Engine

section Conclusions

variable [ZoneDatabase] (e : Engine) (took : Span) (ps : List Policy) (r : Request)

theorem conclude_decisions : (e.conclude took ps r).2.metrics.decisions =
    e.metrics.decisions.increment (outcome (Policy.decideInScope e.mode ps r)) := rfl

theorem conclude_evaluationDuration : (e.conclude took ps r).2.metrics.evaluationDuration =
    e.metrics.evaluationDuration.observe (outcome (Policy.decideInScope e.mode ps r)) took := rfl

theorem conclude_policyEvaluations : (e.conclude took ps r).2.metrics.policyEvaluations =
    (e.countExamined r.tenant (Policy.examined e.mode r
      (Policy.applicable e.mode ps r.resource r.action))).metrics.policyEvaluations := rfl

theorem conclude_audit : (e.conclude took ps r).2.audit =
    e.audit.map (· ++ [AuditRecord.of r (Policy.decideInScope e.mode ps r)]) := rfl

end Conclusions

section Parts

variable (e : Engine) (q : Inquiry)

def fetches : Bool := (e.cache.lookup q.now q.request.tenant).isNone

theorem lookup_of_fetches (h : e.fetches q = true) : e.cache.lookup q.now q.request.tenant = none :=
  Option.isNone_iff_eq_none.1 h

theorem exists_lookup_of_not_fetches (h : e.fetches q = false) :
    ∃ ps, e.cache.lookup q.now q.request.tenant = some ps :=
  Option.ne_none_iff_exists'.1 fun hnone => by simp [fetches, hnone] at h

def lookedUp : Metrics.Counter :=
  if e.cache.isEnabled then
    e.metrics.policyCache.increment [("result", if e.fetches q then "miss" else "hit")]
  else e.metrics.policyCache

theorem lookup_engine : (e.lookup q.now q.request.tenant).2 = { e with
    cache := if e.fetches q then e.cache.evict q.now q.request.tenant else e.cache
    metrics := { e.metrics with policyCache := e.lookedUp q } } := by
  unfold lookup lookedUp fetches Cache.isEnabled
  cases ht : e.cache.ttl with
  | none => simp [Cache.lookup, Cache.evict, ht]
  | some ttl =>
    unfold Cache.get
    cases h : e.cache.lookup q.now q.request.tenant <;> simp

def complaint? (result : Except Fault Decision) : Option Fault :=
  if e.audit.isSome && result.isOk then fault? q.receipt else none

variable [ZoneDatabase]

def loaded : Except Fault (List Policy) :=
  match e.cache.lookup q.now q.request.tenant with
  | some ps => .ok ps
  | none => (e.received q.answer).map fun rs => (Compiled.ofRecords rs).policies

def load : Engine :=
  let looked := (e.lookup q.now q.request.tenant).2
  match e.cache.lookup q.now q.request.tenant with
  | some _ => looked
  | none => (looked.absorb (q.now + q.took.nanos) q.request.tenant q.answer).2

theorem load_of_hit (h : e.fetches q = false) :
    e.load q = { e with metrics := { e.metrics with policyCache := e.lookedUp q } } := by
  obtain ⟨ps, hps⟩ := exists_lookup_of_not_fetches e q h
  unfold load
  rw [lookup_engine, h, hps]
  rfl

theorem load_of_miss (h : e.fetches q = true) : e.load q =
    ({ e with
      cache := e.cache.evict q.now q.request.tenant
      metrics := { e.metrics with policyCache := e.lookedUp q } }.absorb (q.now + q.took.nanos) q.request.tenant
        q.answer).2 := by
  unfold load
  rw [lookup_engine, h, lookup_of_fetches e q h]
  rfl

theorem evaluate_eq_load : e.evaluate q.now q.took q.answer q.request =
    match e.loaded q with
    | .error f => (⟨.error f, e.fetches q⟩, e.load q)
    | .ok ps => (⟨.ok ((e.load q).conclude q.took ps q.request).1, e.fetches q⟩,
        ((e.load q).conclude q.took ps q.request).2) := by
  have hfound := e.lookup_found q.now q.request.tenant
  have hlooked := e.lookup_engine q
  unfold evaluate loaded load fetches
  cases hl : e.lookup q.now q.request.tenant with
  | mk found e' =>
    rw [hl] at hfound hlooked
    rw [← hfound]
    cases found with
    | some ps => rfl
    | none =>
      dsimp only at hlooked
      subst hlooked
      cases q.answer <;> rfl

structure Unconcluded (e e' : Engine) : Prop where
  mode : e'.mode = e.mode
  storeTimeout : e'.storeTimeout = e.storeTimeout
  audit : e'.audit = e.audit
  decisions : e'.metrics.decisions = e.metrics.decisions
  policyEvaluations : e'.metrics.policyEvaluations = e.metrics.policyEvaluations
  evaluationDuration : e'.metrics.evaluationDuration = e.metrics.evaluationDuration

theorem load_unconcluded : Unconcluded e (e.load q) := by
  cases h : e.fetches q with
  | false =>
    rw [load_of_hit e q h]
    exact ⟨rfl, rfl, rfl, rfl, rfl, rfl⟩
  | true =>
    rw [load_of_miss e q h]
    cases q.answer <;> exact ⟨rfl, rfl, rfl, rfl, rfl, rfl⟩

theorem load_policyCache : (e.load q).metrics.policyCache = e.lookedUp q := by
  cases h : e.fetches q with
  | false => rw [load_of_hit e q h]
  | true =>
    rw [load_of_miss e q h]
    cases q.answer <;> rfl

theorem loaded_of_miss (h : e.fetches q = true) :
    e.loaded q = (e.received q.answer).map fun rs => (Compiled.ofRecords rs).policies := by
  unfold loaded
  rw [lookup_of_fetches e q h]

theorem fetches_of_fault {f : Fault} (h : e.loaded q = .error f) : e.fetches q = true := by
  cases hf : e.fetches q with
  | true => rfl
  | false =>
    obtain ⟨ps, hps⟩ := exists_lookup_of_not_fetches e q hf
    rw [loaded, hps] at h
    contradiction

theorem load_storeErrors : (e.load q).metrics.storeErrors =
    match e.loaded q with
    | .error f => e.metrics.storeErrors.increment [("kind", storeErrorKind f)]
    | .ok _ => e.metrics.storeErrors := by
  cases h : e.fetches q with
  | false =>
    rw [load_of_hit e q h]
    cases hl : e.loaded q with
    | error f => rw [fetches_of_fault e q hl] at h; contradiction
    | ok ps => rfl
  | true =>
    rw [load_of_miss e q h, loaded_of_miss e q h]
    cases q.answer <;> rfl

theorem load_policiesSkipped : (e.load q).metrics.policiesSkipped =
    match e.fetches q, q.answer with
    | true, .records rs => (Compiled.ofRecords rs).rejected.foldl (fun m _ => m.increment [("reason", "malformed")])
        e.metrics.policiesSkipped
    | _, _ => e.metrics.policiesSkipped := by
  cases h : e.fetches q with
  | false => rw [load_of_hit e q h]
  | true =>
    rw [load_of_miss e q h]
    cases q.answer <;> rfl

def ask : Reply × Engine :=
  let (v, e') := e.evaluate q.now q.took q.answer q.request
  (⟨q, e.loaded q, v.fetched, v.result, e.complaint? q v.result⟩, e')

theorem ask_of_fault {f : Fault} (h : e.loaded q = .error f) :
    e.ask q = (⟨q, .error f, true, .error f, none⟩, e.load q) := by
  rw [ask, evaluate_eq_load, h, fetches_of_fault e q h]
  simp [complaint?, Except.isOk, Except.toBool]

theorem ask_of_loaded {ps : List Policy} (h : e.loaded q = .ok ps) :
    e.ask q = (⟨q, .ok ps, e.fetches q, .ok (Policy.decideInScope e.mode ps q.request),
        if e.audit.isSome then fault? q.receipt else none⟩, ((e.load q).conclude q.took ps q.request).2) := by
  rw [ask, evaluate_eq_load, h, ← (e.load_unconcluded q).mode]
  simp only [complaint?, Except.isOk, Except.toBool, Bool.and_true]
  rfl

theorem ask_inquiry : (e.ask q).1.inquiry = q := rfl

theorem ask_fetched : (e.ask q).1.fetched = e.fetches q := by
  cases h : e.loaded q with
  | error f => rw [ask_of_fault e q h, fetches_of_fault e q h]
  | ok ps => rw [ask_of_loaded e q h]

theorem ask_result :
    (e.ask q).1.result = (e.ask q).1.loaded.map fun ps => Policy.decideInScope e.mode ps q.request := by
  cases h : e.loaded q with
  | error f => rw [ask_of_fault e q h]; rfl
  | ok ps => rw [ask_of_loaded e q h]; rfl

theorem ask_complaint :
    (e.ask q).1.complaint = if e.audit.isSome && (e.ask q).1.result.isOk then fault? q.receipt else none := rfl

theorem ask_decisions : (e.ask q).2.metrics.decisions =
    match (e.ask q).1.result with
    | .ok d => e.metrics.decisions.increment (outcome d)
    | .error _ => e.metrics.decisions := by
  have hload := e.load_unconcluded q
  cases h : e.loaded q with
  | error f => rw [ask_of_fault e q h, hload.decisions]
  | ok ps => rw [ask_of_loaded e q h, conclude_decisions, hload.mode, hload.decisions]

theorem ask_evaluationDuration : (e.ask q).2.metrics.evaluationDuration =
    match (e.ask q).1.result with
    | .ok d => e.metrics.evaluationDuration.observe (outcome d) q.took
    | .error _ => e.metrics.evaluationDuration := by
  have hload := e.load_unconcluded q
  cases h : e.loaded q with
  | error f => rw [ask_of_fault e q h, hload.evaluationDuration]
  | ok ps => rw [ask_of_loaded e q h, conclude_evaluationDuration, hload.mode, hload.evaluationDuration]

theorem ask_audit : (e.ask q).2.audit =
    match (e.ask q).1.result with
    | .ok d => e.audit.map (· ++ [AuditRecord.of q.request d])
    | .error _ => e.audit := by
  have hload := e.load_unconcluded q
  cases h : e.loaded q with
  | error f => rw [ask_of_fault e q h, hload.audit]
  | ok ps => rw [ask_of_loaded e q h, conclude_audit, hload.mode, hload.audit]

theorem ask_audited : (e.ask q).2.audit.isSome = e.audit.isSome := by
  rw [ask_audit]
  cases (e.ask q).1.result <;> simp

theorem ask_policyEvaluations : (e.ask q).2.metrics.policyEvaluations =
    match (e.ask q).1.loaded with
    | .ok ps => (e.countExamined q.request.tenant (Policy.examined e.mode q.request
        (Policy.applicable e.mode ps q.request.resource q.request.action))).metrics.policyEvaluations
    | .error _ => e.metrics.policyEvaluations := by
  have hload := e.load_unconcluded q
  cases h : e.loaded q with
  | error f => rw [ask_of_fault e q h, hload.policyEvaluations]
  | ok ps =>
    rw [ask_of_loaded e q h, conclude_policyEvaluations, hload.mode]
    simp only [countExamined, hload.policyEvaluations]

theorem ask_storeErrors : (e.ask q).2.metrics.storeErrors =
    match (e.ask q).1.result with
    | .error f => e.metrics.storeErrors.increment [("kind", storeErrorKind f)]
    | .ok _ => e.metrics.storeErrors := by
  have hload := e.load_storeErrors q
  cases h : e.loaded q with
  | error f =>
    rw [h] at hload
    rw [ask_of_fault e q h, hload]
  | ok ps =>
    rw [h] at hload
    rw [ask_of_loaded e q h]
    exact hload

theorem ask_policyCache : (e.ask q).2.metrics.policyCache = e.lookedUp q := by
  have hload := e.load_policyCache q
  cases h : e.loaded q with
  | error f => rwa [ask_of_fault e q h]
  | ok ps =>
    rw [ask_of_loaded e q h]
    exact hload

theorem ask_policiesSkipped : (e.ask q).2.metrics.policiesSkipped = (e.load q).metrics.policiesSkipped := by
  cases h : e.loaded q with
  | error f => rw [ask_of_fault e q h]
  | ok ps => rw [ask_of_loaded e q h]; rfl

theorem ask_mode : (e.ask q).2.mode = e.mode := e.evaluate_mode ..

theorem ask_storeTimeout : (e.ask q).2.storeTimeout = e.storeTimeout := by
  have hload := e.load_unconcluded q
  cases h : e.loaded q with
  | error f => rw [ask_of_fault e q h, hload.storeTimeout]
  | ok ps =>
    rw [ask_of_loaded e q h]
    exact hload.storeTimeout

theorem ask_cache : (e.ask q).2.cache = (e.load q).cache := by
  cases h : e.loaded q with
  | error f => rw [ask_of_fault e q h]
  | ok ps => rw [ask_of_loaded e q h]; rfl

end Parts

section Runs

variable [ZoneDatabase]

def after (e : Engine) (qs : List Inquiry) : Engine := qs.foldl (fun e q => (e.ask q).2) e

def replies : Engine → List Inquiry → List Reply
  | _, [] => []
  | e, q :: qs => (e.ask q).1 :: replies (e.ask q).2 qs

structure Configured (s : EngineSettings) (e : Engine) : Prop where
  mode : e.mode = s.patternMode
  ttl : e.cache.ttl = s.cacheTtl

variable {s : EngineSettings} {e : Engine}

omit [ZoneDatabase] in
theorem configured_ofSettings (s : EngineSettings) (audited : Bool) : Configured s (ofSettings s audited) := ⟨rfl, rfl⟩

theorem load_ttl (e : Engine) (q : Inquiry) : (e.load q).cache.ttl = e.cache.ttl := by
  cases h : e.fetches q with
  | false => rw [load_of_hit e q h]
  | true =>
    rw [load_of_miss e q h]
    cases q.answer with
    | records rs => exact (Cache.insert_ttl ..).trans (Cache.evict_ttl ..)
    | _ => exact Cache.evict_ttl ..

theorem Configured.ask (h : Configured s e) (q : Inquiry) : Configured s (e.ask q).2 :=
  ⟨(e.ask_mode q).trans h.mode, by rw [ask_cache, load_ttl, h.ttl]⟩

theorem forall_replies {P : Reply → Prop} (hstep : ∀ e q, Configured s e → P (e.ask q).1) (h : Configured s e)
    (qs : List Inquiry) : ∀ c ∈ e.replies qs, P c := by
  induction qs generalizing e with
  | nil => simp [replies]
  | cons q qs ih =>
    rw [replies, List.forall_mem_cons]
    exact ⟨hstep e q h, ih (h.ask q)⟩

variable (part : Engine → UInt64)

theorem count_after (share : Reply → Nat)
    (hstep : ∀ e q, Configured s e → part (e.ask q).2 = part e + .ofNat (share (e.ask q).1)) (h : Configured s e)
    (qs : List Inquiry) : part (e.after qs) = part e + .ofNat (Reply.total share (e.replies qs)) := by
  induction qs generalizing e with
  | nil => exact (UInt64.add_zero _).symm
  | cons q qs ih =>
    rw [after, List.foldl_cons, ← after, ih (h.ask q), hstep e q h, replies, Reply.total, UInt64.ofNat_add,
      UInt64.add_assoc]

theorem tally_after (p : Reply → Bool)
    (hstep : ∀ e q, Configured s e →
      part (e.ask q).2 = part e + .ofNat (if p (e.ask q).1 then 1 else 0)) (h : Configured s e)
    (qs : List Inquiry) : part (e.after qs) = part e + .ofNat ((e.replies qs).countP p) := by
  rw [← Reply.total_ite]
  exact count_after part (fun c => if p c then 1 else 0) hstep h qs

end Runs

end Engine

end AccessPolicy
