namespace AccessPolicy

inductive TimeFault where
  | invalidCharacters
  | premature
  | outOfRange
  | trailing
  | impossible
  deriving DecidableEq, Repr

def TimeFault.message : TimeFault → String
  | .invalidCharacters => "input contains invalid characters"
  | .premature => "premature end of input"
  | .outOfRange => "input is out of range"
  | .trailing => "trailing input"
  | .impossible => "no possible date and time matching input"

end AccessPolicy
