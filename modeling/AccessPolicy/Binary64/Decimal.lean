import AccessPolicy.Binary64.Basic
import AccessPolicy.Text.Basic

namespace AccessPolicy

structure Decimal where
  coefficient : Nat
  exponent : Int
  deriving DecidableEq, Repr

inductive Tie where
  | up
  | even
  deriving DecidableEq, Repr

namespace Decimal

def digits (d : Decimal) : List Char := Nat.toDigits 10 d.coefficient

/-- The nearest double. Numerals of ten thousand places beyond the doubles' range are settled by size. -/
def toMagnitude (d : Decimal) : Magnitude :=
  let top := d.digits.length + d.exponent
  if d.coefficient = 0 then .zero
  else if 10000 < top then .infinity
  else if top < -10000 then .zero
  else if d.exponent < 0 then .ofUnits (d.coefficient <<< 1074) (Nat.pow 10 (-d.exponent).toNat)
  else .ofUnits ((d.coefficient * Nat.pow 10 d.exponent.toNat) <<< 1074) 1

def figures (d : Decimal) : List Char × Int :=
  ((d.digits.reverse.dropWhile (· == '0')).reverse, d.digits.length + d.exponent)

end Decimal

namespace Magnitude

def scaled (m : Magnitude) (k : Int) : Nat × Nat :=
  if k < 0 then (m.units * Nat.pow 10 (-k).toNat, 1 <<< 1074) else (m.units, Nat.pow 10 k.toNat <<< 1074)

def leadingPlace (m : Magnitude) : Int :=
  (Nat.toDigits 10 (m.units * Nat.pow 10 400 / (1 <<< 1074))).length - 401

def neighbours (m : Magnitude) (tie : Tie) (k : Int) : List Decimal :=
  let (n, d) := m.scaled k
  let low := n / d
  let upFirst := match compare (2 * (n % d)) d, tie with
    | .gt, _ => true
    | .lt, _ => false
    | .eq, .up => true
    | .eq, .even => low % 2 == 1
  if upFirst then [⟨low + 1, k⟩, ⟨low, k⟩] else [⟨low, k⟩, ⟨low + 1, k⟩]

def readingBack? (m : Magnitude) (tie : Tie) (count : Nat) : Option Decimal :=
  (m.neighbours tie (m.leadingPlace + 1 - count)).find? (·.toMagnitude == m)

def exactDecimal (m : Magnitude) : Decimal := ⟨m.units * Nat.pow 5 1074, -1074⟩

def shortest (m : Magnitude) (tie : Tie) : Decimal :=
  ((List.range 17).findSome? fun n => m.readingBack? tie (n + 1)).getD m.exactDecimal

end Magnitude

namespace Binary64

def ofDecimal (negative : Bool) (d : Decimal) : Binary64 := .signed negative d.toMagnitude

def unsigned? (cs : List Char) : Option Decimal :=
  let whole := cs.takeWhile Char.isDigit
  let (fraction, rest) := match cs.dropWhile Char.isDigit with
    | '.' :: r => (r.takeWhile Char.isDigit, r.dropWhile Char.isDigit)
    | r => ([], r)
  let number (exponent : Int) : Option Decimal :=
    some ⟨Text.ofDigits (whole ++ fraction), exponent - fraction.length⟩
  let power (sign : Int) (ds : List Char) : Option Decimal :=
    if ds.isEmpty || !ds.all Char.isDigit then none else number (sign * Text.ofDigits ds)
  if whole.isEmpty && fraction.isEmpty then none
  else match rest with
    | [] => number 0
    | e :: '-' :: ds => if e == 'e' || e == 'E' then power (-1) ds else none
    | e :: '+' :: ds => if e == 'e' || e == 'E' then power 1 ds else none
    | e :: ds => if e == 'e' || e == 'E' then power 1 ds else none

def ofText? (s : String) : Option Binary64 :=
  let (negative, body) := match s.toList with
    | '-' :: r => (true, r)
    | '+' :: r => (false, r)
    | r => (false, r)
  let word := String.ofList (body.map Char.toLower)
  if word == "nan" then some .nan
  else if word == "inf" || word == "infinity" then some (.signed negative .infinity)
  else (unsigned? body).map (ofDecimal negative)

end Binary64

end AccessPolicy
