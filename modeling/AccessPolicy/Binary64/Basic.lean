namespace AccessPolicy

def roundHalfEven (n d : Nat) : Nat :=
  let q := n / d
  let r := n % d
  if 2 * r < d then q
  else if d < 2 * r then q + 1
  else q + q % 2

/-- A non-negative double: its rank among them, infinity having the last. -/
structure Magnitude where
  rank : Nat
  rank_le : rank ≤ 2047 <<< 52
  deriving DecidableEq

namespace Magnitude

def ofRank (r : Nat) : Magnitude := ⟨min r (2047 <<< 52), Nat.min_le_right _ _⟩

def zero : Magnitude := ofRank 0

def infinity : Magnitude := ofRank (2047 <<< 52)

def isFinite (m : Magnitude) : Bool := m.rank < 2047 <<< 52

def scale (m : Magnitude) : Nat := m.rank / (1 <<< 52) - 1

def significand (m : Magnitude) : Nat := m.rank - (m.scale <<< 52)

def units (m : Magnitude) : Nat := m.significand <<< m.scale

def ofUnits (n d : Nat) : Magnitude :=
  let s := (n / d).log2 - 52
  ofRank (s <<< 52 + roundHalfEven n (d <<< s))

def ofNat (n : Nat) : Magnitude := ofUnits (n <<< 1074) 1

def mul (a b : Magnitude) : Magnitude := ofUnits (a.units * b.units) (1 <<< 1074)

def div (a b : Magnitude) : Magnitude := ofUnits (a.units <<< 1074) b.units

end Magnitude

/-- A double-precision number. All patterns that are no number are one value. -/
inductive Binary64 where
  | nan
  | signed (negative : Bool) (size : Magnitude)
  deriving DecidableEq

namespace Binary64

def zero : Binary64 := .signed false .zero

instance : Inhabited Binary64 := ⟨zero⟩

def ofNat (n : Nat) : Binary64 := .signed false (.ofNat n)

def ofInt (i : Int) : Binary64 := .signed (decide (i < 0)) (.ofNat i.natAbs)

def place : Binary64 → Option Int
  | .nan => none
  | .signed false m => some m.rank
  | .signed true m => some (-m.rank)

def compare? (a b : Binary64) : Option Ordering :=
  match a.place, b.place with
  | some x, some y => some (compare x y)
  | _, _ => none

def same (a b : Binary64) : Bool := a.compare? b == some .eq

def integer? : Binary64 → Option Int
  | .nan => none
  | .signed negative m =>
    let n : Nat := m.units / (1 <<< 1074)
    if m.units % (1 <<< 1074) = 0 ∧ n < 1 <<< 53 then some (if negative then -(n : Int) else n) else none

def isFinite : Binary64 → Bool
  | .nan => false
  | .signed _ m => m.isFinite

end Binary64

end AccessPolicy
