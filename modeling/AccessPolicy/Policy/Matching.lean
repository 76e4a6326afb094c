import AccessPolicy.Policy.Condition
import AccessPolicy.Request

namespace AccessPolicy

inductive PatternMode where
  | stub
  | enabled
  deriving DecidableEq, Repr

namespace Value

def isAmong (v list : Value) : Bool := (list.items?.getD []).any fun w => v.compare w == .eq

end Value

namespace Condition

variable (mode : PatternMode)

def holds (c : Condition) (actual : Value) : Bool :=
  match c.operator with
  | .equal => actual.compare c.value == .eq
  | .unequal => actual.compare c.value != .eq
  | .greater => actual.compare c.value == .gt
  | .less => actual.compare c.value == .lt
  | .atLeast => actual.compare c.value != .lt
  | .atMost => actual.compare c.value != .gt
  | .among => actual.isAmong c.value
  | .notAmong => !actual.isAmong c.value
  | .contains => Text.contains c.value.chars actual.chars
  | .pattern =>
    match mode with
    | .stub => false
    | .enabled => (c.pattern?.map fun p => p.isFoundIn actual.display).getD false
  | .unknown _ => false

def foldFrom (logic : Logic) (result : Bool) : List (Logic × Bool) → Bool
  | [] => result
  | (l, b) :: rest => foldFrom l (logic.join result b) rest

def foldChain : List (Logic × Bool) → Bool
  | [] => true
  | (l, b) :: rest => foldFrom l b rest

def allHold (cs : List Condition) (r : Request) : Bool :=
  foldChain (cs.map fun c => (c.logic, c.holds mode (r.resolve c.field)))

end Condition

end AccessPolicy
