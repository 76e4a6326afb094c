import AccessPolicy.Time.Window

namespace AccessPolicy

inductive DecodeFault where
  | ended
  | malformed
  | invalidType
  | invalidValue
  | invalidLength
  | missingField (name : String)
  | duplicateField (name : String)
  | unknownField (name : String)
  | unknownVariant (name : String)
  | time (fault : TimeFault)
  | window (fault : WindowFault)
  deriving DecidableEq, Repr

namespace DecodeFault

def message : DecodeFault → String
  | .ended => "eof"
  | .malformed => "syntax"
  | .invalidType => "invalid type"
  | .invalidValue => "invalid value"
  | .invalidLength => "invalid length"
  | .missingField name => "missing field `" ++ name ++ "`"
  | .duplicateField name => "duplicate field `" ++ name ++ "`"
  | .unknownField name => "unknown field `" ++ name ++ "`"
  | .unknownVariant name => "unknown variant `" ++ name ++ "`"
  | .time f => f.message
  | .window f => f.message

end DecodeFault

end AccessPolicy
