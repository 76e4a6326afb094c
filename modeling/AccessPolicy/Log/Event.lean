import AccessPolicy.Audit

namespace AccessPolicy.Log

inductive Severity where
  | error
  | warn
  | info
  | debug
  | trace
  deriving DecidableEq, Repr

namespace Severity

def rank : Severity → Nat
  | .error => 1
  | .warn => 2
  | .info => 3
  | .debug => 4
  | .trace => 5

def name : Severity → String
  | .error => "ERROR"
  | .warn => "WARN"
  | .info => "INFO"
  | .debug => "DEBUG"
  | .trace => "TRACE"

def all : List Severity := [.error, .warn, .info, .debug, .trace]

end Severity

structure Event where
  severity : Severity
  target : String
  fields : List (String × Json)

namespace Event

def has (e : Event) (field : String) : Bool := e.fields.any fun f => f.1 == field

def toJson (e : Event) : Json := .object [
  ("level", .text e.severity.name),
  ("fields", .object e.fields),
  ("target", .text e.target)
]

def fieldText : Json → String
  | .text s => s
  | j => j.compact

def line (e : Event) : String :=
  let rest := e.fields.filter fun f => f.1 != "message"
  let message := (e.fields.find? fun f => f.1 == "message").map fun f => fieldText f.2
  String.intercalate " " <|
    [e.severity.name, e.target ++ ":"] ++ message.toList ++ rest.map fun f => f.1 ++ "=" ++ fieldText f.2

end Event

end AccessPolicy.Log

namespace AccessPolicy.AuditRecord

def workspaceText : Option UInt64 → String
  | none => "None"
  | some n => "Some(" ++ toString n.toNat ++ ")"

def event (a : AuditRecord) : Log.Event where
  severity := .info
  target := "rightsgate::audit"
  fields := [
    ("message", .text "permission check"),
    ("tenant_id", .int a.tenant.toNat),
    ("user_id", .int a.user.toNat),
    ("workspace_id", .text (workspaceText a.workspace)),
    ("resource", .text a.resource),
    ("action", .text a.action),
    ("resource_id", .text a.resourceId),
    ("allowed", .bool a.allowed),
    ("reason", .text a.reason),
    ("ip", .text a.ip),
    ("user_agent", .text a.userAgent),
    ("evaluated_at", .text a.evaluatedAt.text)]

end AccessPolicy.AuditRecord
