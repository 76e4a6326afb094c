import AccessPolicy.Json.Decode
import AccessPolicy.Value.Basic

namespace AccessPolicy.Value

open Json

def depthLimit : Nat := 127

mutual

def ofNode (room : Nat) : Node → Except DecodeFault Value
  | .null => .ok .null
  | .bool b => .ok (.bool b)
  | .number n =>
    match n.number? with
    | some x => .ok (.number x.toBinary64)
    | none => .error .malformed
  | .text s => .ok (.text s)
  | .array items stop => if room = 0 then .error .malformed else
    match ofItems (room - 1) items with
    | .error e => .error e
    | .ok vs => (finish stop).map fun _ => .list vs
  | .object members stop => if room = 0 then .error .malformed else
    match ofMembers (room - 1) .empty members with
    | .error e => .error e
    | .ok es => (finish stop).map fun _ => .map es.toList
  | .cutNumeral => .error (mismatch .cutNumeral)
  | .cutWord => .error (mismatch .cutWord)
  | .unpairedText stop => .error (mismatch (.unpairedText stop))
  | .broken b => .error (mismatch (.broken b))

def ofItems (room : Nat) : List Node → Except DecodeFault (List Value)
  | [] => .ok []
  | n :: ns =>
    match ofNode room n with
    | .error e => .error e
    | .ok v => (ofItems room ns).map (v :: ·)

def ofMembers (room : Nat) (es : Entries Value) : List (Option String × Node) → Except DecodeFault (Entries Value)
  | [] => .ok es
  | (none, _) :: _ => .error .malformed
  | (some name, n) :: ms =>
    match ofNode room n with
    | .error e => .error e
    | .ok v => ofMembers room (es.set name v) ms

end

def entries (room : Nat) : Decoder (Entries Value)
  | .object members stop => do
    let es ← ofMembers (room - 1) .empty members
    finish stop
    return es
  | n => .error (mismatch n)

def decode (s : String) : Except DecodeFault Value := Json.decode (ofNode depthLimit) s

end AccessPolicy.Value
