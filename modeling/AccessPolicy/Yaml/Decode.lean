import AccessPolicy.Decoding.Field
import AccessPolicy.Yaml.Node

namespace AccessPolicy.Yaml

abbrev Decoder (α : Type) := Node → Except DecodeFault α

namespace Node

def plain : Node → Node
  | .tagged _ n => n.plain
  | n => n

def tag? : Node → Option Tag
  | .tagged t _ => some t
  | _ => none

def name? (n : Node) : Option String := n.tag?.bind Tag.own?

end Node

def mismatch : Node → DecodeFault
  | .broken => .malformed
  | _ => .invalidType

def digitOf? (base : Nat) (c : Char) : Option Nat :=
  let n := if c.isDigit then c.toNat - 48 else if 'a' ≤ c.toLower ∧ c.toLower ≤ 'f' then c.toLower.toNat - 87 else base
  if n < base then some n else none

def digitsIn? (base : Nat) (cs : List Char) : Option Nat :=
  match cs.mapM (digitOf? base) with
  | some (d :: ds) =>
    let n := (d :: ds).foldl (fun n d => base * n + d) 0
    if n < UInt64.size then some n else none
  | _ => none

def natural? (cs : List Char) : Option Nat :=
  let body := match cs with
    | '+' :: r => r
    | r => r
  match body with
  | '0' :: 'x' :: r => digitsIn? 16 r
  | '0' :: 'o' :: r => digitsIn? 8 r
  | '0' :: 'b' :: r => digitsIn? 2 r
  | '0' :: _ :: _ => none
  | r => digitsIn? 10 r

def isNull (s : String) : Bool := s == "~" || s == "null" || s == "Null" || s == "NULL"

namespace Decoder

def text (n : Node) : Except DecodeFault String :=
  match n.plain with
  | .scalar s _ => .ok s
  | n => .error (mismatch n)

def bare (kind : String) (n : Node) : Except DecodeFault String :=
  match n.plain with
  | .scalar s .plain => .ok s
  | .scalar s .literal => if n.tag? = some (.core kind) then .ok s else .error .invalidType
  | n => .error (mismatch n)

def natural (high : Nat) (n : Node) : Except DecodeFault Nat := do
  let s ← bare "int" n
  match natural? s.toList with
  | some n => if n ≤ high then .ok n else .error .invalidValue
  | none => .error .invalidType

def bool (n : Node) : Except DecodeFault Bool := do
  let s ← bare "bool" n
  if s = "true" ∨ s = "True" ∨ s = "TRUE" then .ok true
  else if s = "false" ∨ s = "False" ∨ s = "FALSE" then .ok false
  else .error .invalidType

def optionText (n : Node) : Except DecodeFault (Option String) :=
  match n.plain with
  | .scalar s .plain =>
    match n.tag? with
    | none => .ok (if s = "" ∨ isNull s then none else some s)
    | some t =>
      if t ≠ .core "null" then .ok (some s)
      else if isNull s then .ok none
      else .error .invalidValue
  | .scalar s _ => .ok (some s)
  | n => .error (mismatch n)

def lookUp {α : Type} (words : List (String × α)) (s : String) : Except DecodeFault α :=
  match words.lookup s with
  | some a => .ok a
  | none => .error (.unknownVariant s)

def nothing : Decoder Unit
  | .scalar s .plain => if s = "" ∨ isNull s then .ok () else .error .invalidValue
  | .scalar _ _ => .error .invalidValue
  | n => .error (mismatch n)

def word {α : Type} (words : List (String × α)) (n : Node) : Except DecodeFault α :=
  match n.name?, n.plain with
  | some name, n => do
    let a ← lookUp words name
    nothing n
    return a
  | none, .scalar s _ => lookUp words s
  | none, n => .error (mismatch n)

end Decoder

variable {α : Type}

def recordOfMembers (fields : List (Field Node α)) :
    List String → α → List (Node × Node) → Except DecodeFault (List String × α)
  | seen, a, [] => .ok (seen, a)
  | seen, a, (k, n) :: ms =>
    match Decoder.text k with
    | .error e => .error e
    | .ok name =>
      match fields.find? (·.name == name) with
      | none => .error (.unknownField name)
      | some f =>
        if name ∈ seen then .error (.duplicateField name)
        else match f.read n with
          | .error e => .error e
          | .ok set => recordOfMembers fields (name :: seen) (set a) ms

def record (first : α) (fields : List (Field Node α)) (n : Node) : Except DecodeFault α :=
  match n.plain with
  | .mapping members cut => do
    let (seen, a) ← recordOfMembers fields [] first members
    match cut, Field.missing? fields seen with
    | true, _ => .error .malformed
    | false, some name => .error (.missingField name)
    | false, none => .ok a
  | .scalar "" .plain =>
    match Field.missing? fields [] with
    | some name => .error (.missingField name)
    | none => .ok first
  | n => .error (mismatch n)

def decode (d : Decoder α) (s : String) : Except DecodeFault α := do
  let doc := read s
  let a ← d doc.root
  if doc.cut then .error .malformed else .ok a

end AccessPolicy.Yaml
