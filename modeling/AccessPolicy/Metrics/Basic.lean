import AccessPolicy.Metrics.Counter
import AccessPolicy.Metrics.Histogram

namespace AccessPolicy

structure Metrics where
  decisions : Metrics.Counter
  policyEvaluations : Metrics.Counter
  policiesSkipped : Metrics.Counter
  storeErrors : Metrics.Counter
  policyCache : Metrics.Counter
  evaluationDuration : Metrics.Histogram
  deriving DecidableEq

namespace Metrics

def empty : Metrics := ⟨.empty, .empty, .empty, .empty, .empty, .empty⟩

def lines (m : Metrics) : List String :=
  m.decisions.lines "rightsgate_decisions_total"
    ++ m.policyEvaluations.lines "rightsgate_policy_evaluations_total"
    ++ m.policiesSkipped.lines "rightsgate_policies_skipped_total"
    ++ m.storeErrors.lines "rightsgate_store_errors_total"
    ++ m.policyCache.lines "rightsgate_policy_cache_total"
    ++ m.evaluationDuration.lines "rightsgate_evaluation_duration_micros"

end Metrics

end AccessPolicy
