import AccessPolicy.Policy.Condition
import AccessPolicy.Policy.Effect

namespace AccessPolicy

inductive PolicyKind where
  | allow
  | deny
  | conditional
  deriving DecidableEq, Repr

namespace PolicyKind

def name : PolicyKind → String
  | .allow => "allow"
  | .deny => "deny"
  | .conditional => "conditional"

def ofName? : String → Option PolicyKind
  | "allow" => some .allow
  | "deny" => some .deny
  | "conditional" => some .conditional
  | _ => none

theorem ofName?_name (k : PolicyKind) : ofName? k.name = some k := by
  cases k <;> rfl

theorem name_inj {k l : PolicyKind} (h : k.name = l.name) : k = l := by
  have hof := congrArg ofName? h
  rwa [ofName?_name, ofName?_name, Option.some.injEq] at hof

theorem name_of_ofName? {s : String} {k : PolicyKind} (h : ofName? s = some k) : k.name = s := by
  unfold ofName? at h
  split at h <;> cases h <;> rfl

open Json

def named (s : String) : Except DecodeFault PolicyKind :=
  match ofName? s with
  | some k => .ok k
  | none => .error (.unknownVariant s)

def decoder : Decoder PolicyKind
  | .text s => named s
  | .unpairedText _ => .error .malformed
  | .object ((some s, n) :: ms) stop =>
    match named s, n with
    | .error e, _ => .error e
    | .ok k, .null => if ms.isEmpty then (finish stop).map fun _ => k else .error .malformed
    | .ok _, n => .error (mismatch n)
  | .object ((none, _) :: _) _ => .error .malformed
  | .object [] (some b) => .error b.toFault
  | .broken b => .error b.toFault
  | _ => .error .malformed

end PolicyKind

structure Policy where
  id : UInt64
  tenant : UInt64
  name : String
  description : String
  kind : PolicyKind
  priority : Int64
  conditions : List Condition
  effect : Effect
  enabled : Bool
  createdAt : Instant

namespace Policy

instance : Inhabited Policy := ⟨⟨0, 0, "", "", .allow, 0, [], default, true, default⟩⟩

def hasConditionOn (p : Policy) (field : String) : Bool := p.conditions.any (·.field == field)

end Policy

end AccessPolicy
