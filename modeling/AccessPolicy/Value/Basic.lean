import AccessPolicy.Entries
import AccessPolicy.Json.Basic

namespace AccessPolicy

inductive Value where
  | null
  | bool (b : Bool)
  | number (x : Binary64)
  | text (s : String)
  | list (items : List Value)
  | map (entries : List (String × Value))

namespace Value

instance : Inhabited Value := ⟨.null⟩

def isNull : Value → Bool
  | .null => true
  | _ => false

def text? : Value → Option String
  | .text s => some s
  | _ => none

def number? : Value → Option Binary64
  | .number x => some x
  | _ => none

def items? : Value → Option (List Value)
  | .list items => some items
  | _ => none

def ofUInt64 (n : UInt64) : Value := .number (.ofNat n.toNat)

def ofNat (n : Nat) : Value := .number (.ofNat n)

def ofInt (i : Int) : Value := .number (.ofInt i)

def ofOption {α : Type} (f : α → Value) : Option α → Value
  | some a => f a
  | none => .null

mutual

def chars : Value → List Char
  | .null => "null".toList
  | .bool b => (toString b).toList
  | .number x => x.displayText
  | .text s => s.toList
  | .list [] => "[]".toList
  | .list (v :: vs) => '[' :: chars v ++ itemChars vs
  | .map [] => "map[]".toList
  | .map ((k, v) :: es) => "map[".toList ++ k.toList ++ ':' :: chars v ++ entryChars es

def itemChars : List Value → List Char
  | [] => [']']
  | v :: vs => ' ' :: chars v ++ itemChars vs

def entryChars : List (String × Value) → List Char
  | [] => [']']
  | (k, v) :: es => ' ' :: k.toList ++ ':' :: chars v ++ entryChars es

end

def display (v : Value) : String := String.ofList v.chars

/-- The order of conditions: numbers by size where they can be compared, everything else by its text. -/
def compare (a b : Value) : Ordering :=
  match a, b with
  | .number x, .number y => (x.compare? y).getD (Ord.compare a.display b.display)
  | _, _ => Ord.compare a.display b.display

mutual

def same : Value → Value → Bool
  | .null, .null => true
  | .bool a, .bool b => a == b
  | .number x, .number y => x.same y
  | .text s, .text t => s == t
  | .list vs, .list ws => sameItems vs ws
  | .map es, .map fs => sameEntries es fs
  | _, _ => false

def sameItems : List Value → List Value → Bool
  | [], [] => true
  | v :: vs, w :: ws => same v w && sameItems vs ws
  | _, _ => false

def sameEntries : List (String × Value) → List (String × Value) → Bool
  | [], [] => true
  | (k, v) :: es, (l, w) :: fs => k == l && same v w && sameEntries es fs
  | _, _ => false

end

mutual

def toJson : Value → Json
  | .null => .null
  | .bool b => .bool b
  | .number x => .number x
  | .text s => .text s
  | .list vs => .array (itemsToJson vs)
  | .map es => .object (entriesToJson es)

def itemsToJson : List Value → List Json
  | [] => []
  | v :: vs => toJson v :: itemsToJson vs

def entriesToJson : List (String × Value) → List (String × Json)
  | [] => []
  | (k, v) :: es => (k, toJson v) :: entriesToJson es

end

end Value

end AccessPolicy
