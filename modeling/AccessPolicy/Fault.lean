import AccessPolicy.Json.Decode
import AccessPolicy.Time.Span

namespace AccessPolicy

inductive FaultCode where
  | badRequest
  | unsupportedVersion
  | malformedPolicy
  | storeUnavailable
  | storeTimeout
  | internal
  deriving DecidableEq, Repr

def FaultCode.text : FaultCode → String
  | .badRequest => "BAD_REQUEST"
  | .unsupportedVersion => "UNSUPPORTED_VERSION"
  | .malformedPolicy => "MALFORMED_POLICY"
  | .storeUnavailable => "STORE_UNAVAILABLE"
  | .storeTimeout => "STORE_TIMEOUT"
  | .internal => "INTERNAL"

inductive Fault where
  | badRequest (text : String)
  | unsupportedVersion
  | malformedPolicy (id : UInt64) (reason : String)
  | storeUnavailable (text : String)
  | storeTimeout (after : Span)
  | internal (text : String)
  deriving DecidableEq

namespace Fault

def code : Fault → FaultCode
  | .badRequest _ => .badRequest
  | .unsupportedVersion => .unsupportedVersion
  | .malformedPolicy _ _ => .malformedPolicy
  | .storeUnavailable _ => .storeUnavailable
  | .storeTimeout _ => .storeTimeout
  | .internal _ => .internal

def message : Fault → String
  | .badRequest text => "bad request: " ++ text
  | .unsupportedVersion => "unsupported config version"
  | .malformedPolicy id reason => "malformed policy " ++ toString id.toNat ++ ": " ++ reason
  | .storeUnavailable text => "policy store unavailable: " ++ text
  | .storeTimeout after => "policy store timed out after " ++ after.text
  | .internal text => "internal: " ++ text

end Fault

end AccessPolicy
