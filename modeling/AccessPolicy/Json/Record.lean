import AccessPolicy.Decoding.Field
import AccessPolicy.Json.Decode

namespace AccessPolicy.Json

variable {α : Type}

def recordOfMembers (fields : List (Field Node α)) :
    List String → α → List (Option String × Node) → Except DecodeFault (List String × α)
  | seen, a, [] => .ok (seen, a)
  | _, _, (none, _) :: _ => .error .malformed
  | seen, a, (some name, n) :: ms =>
    match fields.find? (·.name == name) with
    | none =>
      match n.skip? with
      | some b => .error b.toFault
      | none => recordOfMembers fields seen a ms
    | some f =>
      if name ∈ seen then .error (.duplicateField name)
      else match f.read n with
        | .error e => .error e
        | .ok set => recordOfMembers fields (name :: seen) (set a) ms

def recordOfItems (stop : Option Break) : List (Field Node α) → α → List Node → Except DecodeFault α
  | [], a, [] => (finish stop).map fun _ => a
  | [], _, _ :: _ => .error .malformed
  | f :: fs, a, [] =>
    match stop with
    | some b => .error b.toFault
    | none => if f.required then .error .invalidLength else recordOfItems stop fs a []
  | f :: fs, a, n :: ns =>
    match f.read n with
    | .error e => .error e
    | .ok set => recordOfItems stop fs (set a) ns

def record (first : α) (fields : List (Field Node α)) : Decoder α
  | .object members stop => do
    let (seen, a) ← recordOfMembers fields [] first members
    finish stop
    match Field.missing? fields seen with
    | some name => .error (.missingField name)
    | none => .ok a
  | .array items stop => recordOfItems stop fields first items
  | n => .error (mismatch n)

end AccessPolicy.Json
