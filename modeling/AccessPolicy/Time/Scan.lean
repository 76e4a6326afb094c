import AccessPolicy.Text.Basic
import AccessPolicy.Text.Blank
import AccessPolicy.Time.Fault

namespace AccessPolicy.Time

open Text (skipBlanks)

def digits (limit : Nat) (cs : List Char) : Except TimeFault (List Char × List Char) :=
  let ds := (cs.takeWhile Char.isDigit).take limit
  if cs.isEmpty then .error .premature
  else if ds.isEmpty then .error .invalidCharacters
  else .ok (ds, cs.drop ds.length)

def field (low high : Nat) (cs : List Char) : Except TimeFault (Nat × List Char) := do
  let (ds, rest) ← digits 2 (skipBlanks cs)
  let n := Text.ofDigits ds
  if n < low ∨ high < n then .error .outOfRange else .ok (n, rest)

def mark (c : Char) : List Char → Except TimeFault (List Char)
  | [] => .error .premature
  | d :: cs => if d = c then .ok cs else .error .invalidCharacters

def twoDigits (n : Nat) : List Char := [Nat.digitChar (n / 10 % 10), Nat.digitChar (n % 10)]

end AccessPolicy.Time
