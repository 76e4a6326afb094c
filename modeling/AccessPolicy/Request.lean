import AccessPolicy.Json.Record
import AccessPolicy.Value.Decode

namespace AccessPolicy

structure Request where
  user : UInt64
  tenant : UInt64
  workspace : Option UInt64
  resource : String
  action : String
  resourceId : String
  time : Timestamp
  ip : String
  userAgent : String
  metadata : Entries Value

namespace Request

def blank : Request := ⟨0, 0, none, "", "", "", default, "", "", .empty⟩

instance : Inhabited Request := ⟨blank⟩

/-- The value of an attribute. Hour and day of the week are those of the offset in which the time was written;
a name that is no fixed attribute is looked up among the further ones. -/
def resolve (r : Request) (field : String) : Value :=
  match field with
  | "user_id" => .ofUInt64 r.user
  | "tenant_id" => .ofUInt64 r.tenant
  | "workspace_id" => .ofOption .ofUInt64 r.workspace
  | "resource" => .text r.resource
  | "action" => .text r.action
  | "resource_id" => .text r.resourceId
  | "time" => .text r.time.text
  | "hour" => .ofNat r.time.hour
  | "day_of_week" => .ofNat r.time.weekday.number
  | "ip" => .text r.ip
  | "user_agent" => .text r.userAgent
  | other => (r.metadata.get? other).getD .null

section Documents

open Json

def fields : List (Field Node Request) := [
  .needed "user_id" Decoder.uint64 fun n r => { r with user := n },
  .needed "tenant_id" Decoder.uint64 fun n r => { r with tenant := n },
  .optional "workspace_id" (Decoder.option Decoder.uint64) fun n r => { r with workspace := n },
  .needed "resource" Decoder.text fun s r => { r with resource := s },
  .needed "action" Decoder.text fun s r => { r with action := s },
  .optional "resource_id" Decoder.text fun s r => { r with resourceId := s },
  .needed "time" Decoder.timestamp fun t r => { r with time := t },
  .optional "ip" Decoder.text fun s r => { r with ip := s },
  .optional "user_agent" Decoder.text fun s r => { r with userAgent := s },
  .optional "metadata" (Value.entries (Value.depthLimit - 1)) fun es r => { r with metadata := es }
]

def decoder : Decoder Request := record blank fields

def decode (s : String) : Except DecodeFault Request := Json.decode decoder s

def toJson (r : Request) : Json := .object [
  ("user_id", .int r.user.toNat),
  ("tenant_id", .int r.tenant.toNat),
  ("workspace_id", match r.workspace with
    | some n => .int n.toNat
    | none => .null),
  ("resource", .text r.resource),
  ("action", .text r.action),
  ("resource_id", .text r.resourceId),
  ("time", .text r.time.documentText),
  ("ip", .text r.ip),
  ("user_agent", .text r.userAgent),
  ("metadata", .object (Value.entriesToJson r.metadata.toList))
]

end Documents

end Request

end AccessPolicy
