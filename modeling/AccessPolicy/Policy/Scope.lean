import AccessPolicy.Policy.Basic
import AccessPolicy.Policy.Matching

namespace AccessPolicy.Policy

variable (mode : PatternMode)

/-- Without conditions on the attribute a policy is for all its values; else one of these conditions must hold,
however they are joined. -/
def covers (p : Policy) (field value : String) : Bool :=
  !p.hasConditionOn field || p.conditions.any fun c => c.field == field && c.holds mode (.text value)

def isApplicable (p : Policy) (resource action : String) : Bool :=
  p.covers mode "resource" resource && p.covers mode "action" action

def applicable (ps : List Policy) (resource action : String) : List Policy :=
  ps.filter (·.isApplicable mode resource action)

end AccessPolicy.Policy
