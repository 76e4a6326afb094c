import AccessPolicy.Json.Numeral

namespace AccessPolicy.Json

inductive Node where
  | null
  | bool (b : Bool)
  | number (n : Numeral)
  | cutNumeral
  | cutWord
  | text (s : String)
  | unpairedText (stop : Option Break)
  | array (items : List Node) (stop : Option Break)
  | object (members : List (Option String × Node)) (stop : Option Break)
  | broken (b : Break)

structure Document where
  root : Node
  tail : Option Break

namespace Node

instance : Inhabited Node := ⟨.null⟩

mutual

def skip? : Node → Option Break
  | .cutNumeral => some .malformed
  | .cutWord => some .ended
  | .unpairedText stop => stop
  | .array items stop => (skipItems? items).or stop
  | .object members stop => (skipMembers? members).or stop
  | .broken b => some b
  | _ => none

def skipItems? : List Node → Option Break
  | [] => none
  | n :: ns => (skip? n).or (skipItems? ns)

def skipMembers? : List (Option String × Node) → Option Break
  | [] => none
  | (_, n) :: ms => (skip? n).or (skipMembers? ms)

end

end Node

end AccessPolicy.Json
