namespace AccessPolicy

structure Span where
  nanos : Nat
  deriving DecidableEq, Repr

namespace Span

def ofMillis (n : Nat) : Span := ⟨n * 1000000⟩

def decimal (n places : Nat) : List Char :=
  let fraction := Nat.toDigits 10 (n % Nat.pow 10 places)
  let padded := List.replicate (places - fraction.length) '0' ++ fraction
  let shown := (padded.reverse.dropWhile (· == '0')).reverse
  Nat.toDigits 10 (n / Nat.pow 10 places) ++ if shown.isEmpty then [] else '.' :: shown

def text (s : Span) : String :=
  if 1000000000 ≤ s.nanos then String.ofList (decimal s.nanos 9) ++ "s"
  else if 1000000 ≤ s.nanos then String.ofList (decimal s.nanos 6) ++ "ms"
  else if 1000 ≤ s.nanos then String.ofList (decimal s.nanos 3) ++ "µs"
  else String.ofList (decimal s.nanos 0) ++ "ns"

end Span

end AccessPolicy
