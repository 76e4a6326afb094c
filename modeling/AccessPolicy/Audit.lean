import AccessPolicy.Decision
import AccessPolicy.Request

namespace AccessPolicy

structure AuditRecord where
  user : UInt64
  tenant : UInt64
  workspace : Option UInt64
  resource : String
  action : String
  resourceId : String
  allowed : Bool
  reason : String
  ip : String
  userAgent : String
  evaluatedAt : Timestamp
  deriving DecidableEq

namespace AuditRecord

def of (r : Request) (d : Decision) : AuditRecord where
  user := r.user
  tenant := r.tenant
  workspace := r.workspace
  resource := r.resource
  action := r.action
  resourceId := r.resourceId
  allowed := d.allow
  reason := d.reason
  ip := r.ip
  userAgent := r.userAgent
  evaluatedAt := r.time

def toJson (a : AuditRecord) : Json := .object <|
  [("user_id", .int a.user.toNat), ("tenant_id", .int a.tenant.toNat)]
    ++ Effect.member "workspace_id" (fun (n : UInt64) => .int n.toNat) a.workspace
    ++ [("resource", .text a.resource),
        ("action", .text a.action),
        ("resource_id", .text a.resourceId),
        ("allowed", .bool a.allowed),
        ("reason", .text a.reason),
        ("ip", .text a.ip),
        ("user_agent", .text a.userAgent),
        ("evaluated_at", .text a.evaluatedAt.documentText)]

end AuditRecord

end AccessPolicy
