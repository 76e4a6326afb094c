import AccessPolicy.Fault
import AccessPolicy.Policy.Basic

namespace AccessPolicy

structure PolicyRecord where
  id : UInt64
  tenant : UInt64
  name : String
  description : String
  kind : String
  priority : Int64
  conditions : String
  effect : String
  enabled : Bool
  createdAt : Instant
  updatedAt : Option Instant
  deriving DecidableEq

inductive PolicyFault where
  | kind (name : String)
  | conditions (fault : DecodeFault)
  | effect (fault : DecodeFault)
  deriving DecidableEq, Repr

def PolicyFault.message : PolicyFault → String
  | .kind name => "unknown policy type: " ++ Text.quoted name
  | .conditions f => "failed to parse conditions: " ++ f.message
  | .effect f => "failed to parse effect: " ++ f.message

namespace PolicyRecord

def blank : PolicyRecord := ⟨0, 0, "", "", "", 0, "", "", true, default, none⟩

instance : Inhabited PolicyRecord := ⟨blank⟩

section Reading

variable [ZoneDatabase]

def readEffect (kind : PolicyKind) (text : String) : Except PolicyFault Effect :=
  match kind, Effect.decode text with
  | _, .ok e => .ok e
  | .conditional, .error f => .error (.effect f)
  -- no other policy has its effect taken up
  | _, .error _ => .ok .blank

def toPolicy (r : PolicyRecord) : Except PolicyFault Policy :=
  match PolicyKind.ofName? r.kind with
  | none => .error (.kind r.kind)
  | some kind =>
    match Condition.decodeAll r.conditions with
    | .error f => .error (.conditions f)
    | .ok conditions => (readEffect kind r.effect).map fun effect =>
      ⟨r.id, r.tenant, r.name, r.description, kind, r.priority, conditions, effect, r.enabled, r.createdAt⟩

def compile (r : PolicyRecord) : Except Fault Policy := r.toPolicy.mapError fun f => .malformedPolicy r.id f.message

theorem compile_eq_ok {r : PolicyRecord} {p : Policy} : r.compile = .ok p ↔ r.toPolicy = .ok p := by
  unfold compile
  cases r.toPolicy with
  | error f => exact ⟨fun h => by contradiction, fun h => by contradiction⟩
  | ok q =>
    constructor
    · intro h
      exact congrArg Except.ok (Except.ok.inj h)
    · intro h
      exact congrArg Except.ok (Except.ok.inj h)

end Reading

section Documents

open Json

def fields : List (Field Node PolicyRecord) := [
  .needed "id" Decoder.uint64 fun n r => { r with id := n },
  .needed "tenant_id" Decoder.uint64 fun n r => { r with tenant := n },
  .needed "name" Decoder.text fun s r => { r with name := s },
  .optional "description" Decoder.text fun s r => { r with description := s },
  .needed "type" Decoder.text fun s r => { r with kind := s },
  .optional "priority" Decoder.int64 fun i r => { r with priority := i },
  .optional "conditions" Decoder.text fun s r => { r with conditions := s },
  .optional "effect" Decoder.text fun s r => { r with effect := s },
  .optional "enabled" Decoder.bool fun b r => { r with enabled := b },
  .needed "created_at" Decoder.instant fun t r => { r with createdAt := t },
  .optional "updated_at" (Decoder.option Decoder.instant) fun t r => { r with updatedAt := t }
]

def decoder : Decoder PolicyRecord := record blank fields

def decode (s : String) : Except DecodeFault PolicyRecord := Json.decode decoder s

def decodeAll (s : String) : Except DecodeFault (List PolicyRecord) := Json.decode (Decoder.list decoder) s

def toJson (r : PolicyRecord) : Json := .object <|
  [("id", .int r.id.toNat),
   ("tenant_id", .int r.tenant.toNat),
   ("name", .text r.name),
   ("description", .text r.description),
   ("type", .text r.kind),
   ("priority", .int r.priority.toInt),
   ("conditions", .text r.conditions),
   ("effect", .text r.effect),
   ("enabled", .bool r.enabled),
   ("created_at", .text r.createdAt.documentText)]
    ++ Effect.member "updated_at" (fun t => .text t.documentText) r.updatedAt

end Documents

end PolicyRecord

end AccessPolicy
