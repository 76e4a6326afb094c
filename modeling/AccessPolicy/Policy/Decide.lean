import AccessPolicy.Decision
import AccessPolicy.Policy.Scope

namespace AccessPolicy.Policy

variable [ZoneDatabase] (mode : PatternMode)

def isMatchedBy (p : Policy) (r : Request) : Bool := Condition.allHold mode p.conditions r

def decideFrom (r : Request) (d : Decision) : List Policy → Decision
  | [] => d
  | p :: ps =>
    if !p.isMatchedBy mode r then decideFrom r d ps
    else match p.kind with
      -- the policies after a denial are not looked at
      | .deny => .deniedBy p.name
      | .allow => decideFrom r { d with
          allow := true
          reason := "Allowed by policy: " ++ p.name
          triggered := d.triggered ++ [p.name] } ps
      | .conditional =>
        let d := d.apply p.effect r.time.instant
        decideFrom r { d with triggered := d.triggered ++ [p.name] } ps

def decide (ps : List Policy) (r : Request) : Decision := decideFrom mode r .unopposed ps

def examined (r : Request) : List Policy → Nat
  | [] => 0
  | p :: ps => if p.isMatchedBy mode r && p.kind == .deny then 1 else examined r ps + 1

end AccessPolicy.Policy
