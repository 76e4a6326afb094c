import AccessPolicy.Json.Record
import AccessPolicy.Pattern.Reader
import AccessPolicy.Value.Decode

namespace AccessPolicy

inductive Operator where
  | equal
  | unequal
  | greater
  | less
  | atLeast
  | atMost
  | among
  | notAmong
  | contains
  | pattern
  | unknown (name : String)
  deriving DecidableEq, Repr

namespace Operator

def ofName : String → Operator
  | "eq" => .equal
  | "ne" => .unequal
  | "gt" => .greater
  | "lt" => .less
  | "gte" => .atLeast
  | "lte" => .atMost
  | "in" => .among
  | "not_in" => .notAmong
  | "contains" => .contains
  | "regex" => .pattern
  | other => .unknown other

def name : Operator → String
  | .equal => "eq"
  | .unequal => "ne"
  | .greater => "gt"
  | .less => "lt"
  | .atLeast => "gte"
  | .atMost => "lte"
  | .among => "in"
  | .notAmong => "not_in"
  | .contains => "contains"
  | .pattern => "regex"
  | .unknown name => name

def isUnknown : Operator → Bool
  | .unknown _ => true
  | _ => false

theorem name_ofName (s : String) : (ofName s).name = s := by
  unfold ofName
  split <;> rfl

end Operator

inductive Logic where
  | and
  | or
  deriving DecidableEq, Repr

namespace Logic

def ofName (s : String) : Logic := if s = "or" then .or else .and

def name : Logic → String
  | .and => "and"
  | .or => "or"

def join : Logic → Bool → Bool → Bool
  | .and, a, b => a && b
  | .or, a, b => a || b

end Logic

structure Condition where
  field : String
  operator : Operator
  value : Value
  logic : Logic

namespace Condition

def blank : Condition := ⟨"", .unknown "", .null, .and⟩

instance : Inhabited Condition := ⟨blank⟩

def pattern? (c : Condition) : Option Pattern :=
  match c.operator, c.value with
  | .pattern, .text s => Pattern.ofText? s
  | _, _ => none

def same (a b : Condition) : Bool :=
  a.field == b.field && a.operator == b.operator && a.value.same b.value && a.logic == b.logic

section Documents

open Json

def nullableText (n : Node) : Except DecodeFault String := (Decoder.option Decoder.text n).map (·.getD "")

def fields (room : Nat) : List (Field Node Condition) := [
  .optional "field" nullableText fun s c => { c with field := s },
  .optional "operator" nullableText fun s c => { c with operator := .ofName s },
  .optional "value" (Value.ofNode room) fun v c => { c with value := v },
  .optional "logic" nullableText fun s c => { c with logic := .ofName s }
]

def decoder (level : Nat) : Decoder Condition := record blank (fields (Value.depthLimit - level - 1))

def decode (s : String) : Except DecodeFault Condition := Json.decode (decoder 0) s

def decodeAll (s : String) : Except DecodeFault (List Condition) := decodeBlob (Decoder.list (decoder 1)) [] [] s

def toJson (c : Condition) : Json := .object [
  ("field", .text c.field),
  ("operator", .text c.operator.name),
  ("value", c.value.toJson),
  ("logic", .text c.logic.name)
]

end Documents

end Condition

end AccessPolicy
