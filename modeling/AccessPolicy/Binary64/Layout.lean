import AccessPolicy.Binary64.Decimal

namespace AccessPolicy

structure Layout where
  tie : Tie
  positional : Int → Bool
  wholeMark : List Char

namespace Layout

def zeros (n : Nat) : List Char := List.replicate n '0'

def inPlace (wholeMark ds : List Char) (point : Int) : List Char :=
  if point ≤ 0 then '0' :: '.' :: zeros (-point).toNat ++ ds
  else if ds.length ≤ point.toNat then ds ++ zeros (point.toNat - ds.length) ++ wholeMark
  else ds.take point.toNat ++ '.' :: ds.drop point.toNat

def withExponent (ds : List Char) (point : Int) : List Char :=
  let e := point - 1
  let power := (if e < 0 then '-' else '+') :: Nat.toDigits 10 e.natAbs
  match ds with
  | [] => []
  | [d] => d :: 'e' :: power
  | d :: r => d :: '.' :: r ++ 'e' :: power

def magnitude (l : Layout) (m : Magnitude) : List Char :=
  let (ds, point) := (m.shortest l.tie).figures
  if l.positional (point - 1) then inPlace l.wholeMark ds point else withExponent ds point

def sign (negative : Bool) : List Char := if negative then ['-'] else []

end Layout

namespace Binary64

def documentLayout : Layout where
  tie := .even
  positional e := -5 ≤ e ∧ e < 16
  wholeMark := ['.', '0']

def displayLayout : Layout where
  tie := .up
  positional _ := true
  wholeMark := []

def documentText (x : Binary64) : List Char :=
  match x.integer?, x with
  | some i, _ => (toString i).toList
  | none, .nan => "null".toList
  | none, .signed negative m =>
    if m.isFinite then Layout.sign negative ++ documentLayout.magnitude m else "null".toList

def displayText (x : Binary64) : List Char :=
  match x.integer?, x with
  | some i, _ => (toString i).toList
  | none, .nan => "NaN".toList
  | none, .signed negative m =>
    Layout.sign negative ++ if m.isFinite then displayLayout.magnitude m else "inf".toList

end Binary64

end AccessPolicy
