import AccessPolicy.Audit
import AccessPolicy.Cache
import AccessPolicy.Metrics.Basic
import AccessPolicy.Policy.Compile
import AccessPolicy.Policy.Decide
import AccessPolicy.Settings.Basic

namespace AccessPolicy

inductive StoreAnswer where
  | records (rs : List PolicyRecord)
  | failure (f : Fault)
  | silence

structure Engine where
  mode : PatternMode
  storeTimeout : Span
  cache : Cache (List Policy)
  metrics : Metrics
  audit : Option (List AuditRecord)

namespace Engine

variable [ZoneDatabase]

def ofSettings (s : EngineSettings) (audited : Bool) : Engine where
  mode := s.patternMode
  storeTimeout := s.storeTimeout
  cache := .withTtl s.cacheTtl
  metrics := .empty
  audit := if audited then some [] else none

def outcome (d : Decision) : Metrics.Labels := [("outcome", if d.allow then "allow" else "deny")]

def lookup (e : Engine) (now : Nat) (tenant : UInt64) : Option (List Policy) × Engine :=
  if !e.cache.isEnabled then (none, e)
  else
    let (found, cache) := e.cache.get now tenant
    let result := if found.isSome then "hit" else "miss"
    (found, { e with
      cache := cache
      metrics := { e.metrics with policyCache := e.metrics.policyCache.increment [("result", result)] } })

def received (e : Engine) : StoreAnswer → Except Fault (List PolicyRecord)
  | .records rs => .ok rs
  | .failure f => .error f
  | .silence => .error (.storeTimeout e.storeTimeout)

def storeErrorKind (f : Fault) : String := if f.code = .storeTimeout then "timeout" else "unavailable"

def absorb (e : Engine) (now : Nat) (tenant : UInt64) (answer : StoreAnswer) : Except Fault (List Policy) × Engine :=
  match e.received answer with
  | .error f =>
    (.error f, { e with
      metrics := { e.metrics with
        storeErrors := e.metrics.storeErrors.increment [("kind", storeErrorKind f)] } })
  | .ok rs =>
    let c := Compiled.ofRecords rs
    (.ok c.policies, { e with
      cache := e.cache.insert now tenant c.policies
      metrics := { e.metrics with
        policiesSkipped := c.rejected.foldl (fun m _ => m.increment [("reason", "malformed")])
          e.metrics.policiesSkipped } })

def countExamined (e : Engine) (tenant : UInt64) (n : Nat) : Engine :=
  { e with metrics := { e.metrics with
      policyEvaluations :=
        if n = 0 then e.metrics.policyEvaluations
        else e.metrics.policyEvaluations.add [("tenant", toString tenant.toNat)] (.ofNat n) } }

def decide (e : Engine) (ps : List Policy) (r : Request) : Decision × Engine :=
  (Policy.decide e.mode ps r, e.countExamined r.tenant (Policy.examined e.mode r ps))

def conclude (e : Engine) (took : Span) (ps : List Policy) (r : Request) : Decision × Engine :=
  let (d, e) := e.decide (Policy.applicable e.mode ps r.resource r.action) r
  (d, { e with
    metrics := { e.metrics with
      decisions := e.metrics.decisions.increment (outcome d)
      evaluationDuration := e.metrics.evaluationDuration.observe (outcome d) took }
    audit := e.audit.map (· ++ [AuditRecord.of r d]) })

structure Evaluation where
  result : Except Fault Decision
  fetched : Bool

/-- Evaluates a request from the moment `now`, which takes a while; `answer` is what the store says if it is
asked. -/
def evaluate (e : Engine) (now : Nat) (took : Span) (answer : StoreAnswer) (r : Request) : Evaluation × Engine :=
  match e.lookup now r.tenant with
  | (some ps, e) =>
    let (d, e) := e.conclude took ps r
    (⟨.ok d, false⟩, e)
  | (none, e) =>
    match e.absorb (now + took.nanos) r.tenant answer with
    | (.error f, e) => (⟨.error f, true⟩, e)
    | (.ok ps, e) =>
      let (d, e) := e.conclude took ps r
      (⟨.ok d, true⟩, e)

def takeAudit (e : Engine) : List AuditRecord × Engine := (e.audit.getD [], { e with audit := e.audit.map fun _ => [] })

end Engine

end AccessPolicy
