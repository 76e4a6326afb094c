import AccessPolicy.Binary64.Decimal

namespace AccessPolicy.Json

inductive Break where
  | ended
  | malformed
  deriving DecidableEq, Repr

structure Numeral where
  negative : Bool
  whole : List Char
  fraction : List Char
  power : Option (Bool × List Char)
  deriving DecidableEq, Repr

inductive Number where
  | int (i : Int)
  | real (x : Binary64)
  deriving DecidableEq

namespace Numeral

def fill : Nat → List Char → Nat × Nat
  | s, [] => (s, 0)
  | s, d :: ds =>
    let t := 10 * s + Text.digitValue d
    if t < UInt64.size then fill t ds else (s, (d :: ds).length)

def powerOfTen (k : Nat) : Magnitude := .ofNat (Nat.pow 10 k)

/-- Scales a significand in double arithmetic. Powers of ten beyond 308 are not doubles: a number so large is
out of range, one so small is divided in steps of `10 ^ 308`, and two such steps leave nothing. -/
def scaled? (s : Nat) (e : Int) : Option Magnitude :=
  let m := Magnitude.ofNat s
  if s = 0 then some .zero
  else if 308 < e then none
  else if 0 ≤ e then
    let p := m.mul (powerOfTen e.toNat)
    if p.isFinite then some p else none
  else if -308 ≤ e then some (m.div (powerOfTen (-e).toNat))
  else if -616 ≤ e then some ((m.div (powerOfTen 308)).div (powerOfTen (-e - 308).toNat))
  else some .zero

def powerValue : Option (Bool × List Char) → Int
  | none => 0
  | some (negative, ds) => if negative then -(Text.ofDigits ds : Int) else Text.ofDigits ds

def number? (n : Numeral) : Option Number :=
  let (s, beyond) := fill 0 n.whole
  let real (m : Magnitude) : Number := .real (.signed n.negative m)
  if n.fraction.isEmpty && n.power.isNone && beyond == 0 then
    if n.negative then
      -- minus zero is a double, and so is what no integer of 64 bits is
      if s = 0 ∨ 1 <<< 63 < s then some (real (.ofNat s)) else some (.int (-s))
    else some (.int s)
  else
    let (s', beyond') := fill s n.fraction
    let e : Int := beyond - (n.fraction.length - beyond' : Nat) + powerValue n.power
    (scaled? s' e).map real

end Numeral

namespace Number

def toBinary64 : Number → Binary64
  | .int i => .ofInt i
  | .real x => x

end Number

end AccessPolicy.Json
