import AccessPolicy.Time.Scan

namespace AccessPolicy

structure Clock where
  hour : Fin 24
  minute : Fin 60
  deriving DecidableEq, Repr

namespace Clock

open Time

def toMinutes (c : Clock) : Nat := 60 * c.hour + c.minute

def chars (c : Clock) : List Char := twoDigits c.hour ++ ':' :: twoDigits c.minute

def text (c : Clock) : String := String.ofList c.chars

def ofChars (cs : List Char) : Except TimeFault Clock := do
  let (h, cs) ← field 0 23 (Text.trimChars cs)
  let cs ← mark ':' cs
  let (m, cs) ← field 0 59 cs
  if cs.isEmpty then .ok ⟨Fin.ofNat 24 h, Fin.ofNat 60 m⟩ else .error .trailing

def ofText (s : String) : Except TimeFault Clock := ofChars s.toList

end Clock

end AccessPolicy
