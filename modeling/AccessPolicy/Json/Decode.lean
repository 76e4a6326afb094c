import AccessPolicy.Decoding.Fault
import AccessPolicy.Json.Reader
import AccessPolicy.Time.Rfc3339

namespace AccessPolicy

namespace Json

def Break.toFault : Break → DecodeFault
  | .ended => .ended
  | .malformed => .malformed

abbrev Decoder (α : Type) := Node → Except DecodeFault α

def mismatch : Node → DecodeFault
  | .number n => if n.number?.isSome then .invalidType else .malformed
  | .cutNumeral => .ended
  | .cutWord => .ended
  | .unpairedText _ => .malformed
  | .broken b => b.toFault
  | _ => .invalidType

def finish : Option Break → Except DecodeFault Unit
  | none => .ok ()
  | some b => .error b.toFault

namespace Decoder

def text : Decoder String
  | .text s => .ok s
  | n => .error (mismatch n)

def bool : Decoder Bool
  | .bool b => .ok b
  | n => .error (mismatch n)

def integer (low high : Int) : Decoder Int
  | .number n =>
    match n.number? with
    | none => .error .malformed
    | some (.real _) => .error .invalidType
    | some (.int i) => if low ≤ i ∧ i ≤ high then .ok i else .error .invalidValue
  | n => .error (mismatch n)

def uint64 (n : Node) : Except DecodeFault UInt64 :=
  (integer 0 (UInt64.size - 1) n).map fun i => UInt64.ofNat i.toNat

def int64 (n : Node) : Except DecodeFault Int64 := (integer Int64.minValue.toInt Int64.maxValue.toInt n).map Int64.ofInt

def byte (n : Node) : Except DecodeFault Nat := (integer 0 255 n).map Int.toNat

def option {α : Type} (d : Decoder α) : Decoder (Option α)
  | .null => .ok none
  | n => (d n).map some

def list {α : Type} (d : Decoder α) : Decoder (List α)
  | .array items stop => do
    let as ← items.mapM d
    finish stop
    return as
  | n => .error (mismatch n)

def timestamp (n : Node) : Except DecodeFault Timestamp := do
  (Timestamp.ofText (← text n)).mapError .time

def instant (n : Node) : Except DecodeFault Instant := do
  (Instant.ofText (← text n)).mapError .time

end Decoder

def decode {α : Type} (d : Decoder α) (s : String) : Except DecodeFault α := do
  let doc := read s
  let a ← d doc.root
  finish doc.tail
  return a

def decodeBlob {α : Type} (d : Decoder α) (ifBlank ifNull : α) (s : String) : Except DecodeFault α :=
  if Text.isBlankText s then .ok ifBlank else (decode (Decoder.option d) s).map (·.getD ifNull)

end Json

end AccessPolicy
