import AccessPolicy.Text.Basic

namespace AccessPolicy.Text

def isHexDigit (c : Char) : Bool := c.isDigit || ('a' ≤ c && c ≤ 'f') || ('A' ≤ c && c ≤ 'F')

def hexValue (c : Char) : Nat :=
  if c.isDigit then c.toNat - 48 else if 'a' ≤ c then c.toNat - 87 else c.toNat - 55

def ofHex (cs : List Char) : Nat := cs.foldl (fun n c => 16 * n + hexValue c) 0

def words (s : String) : List (List Char) :=
  ((s.toList.map fun c => if c = '\n' then ' ' else c) |> splitOn ' ').filter (!·.isEmpty)

def search (places : Array Nat) (n : Nat) : Nat → Nat → Nat → Nat
  | 0, low, _ => low
  | fuel + 1, low, count =>
    if count = 0 then low
    else
      let half := count / 2
      match places[low + half]? with
      | none => low
      | some p =>
        if p ≤ n then search places n fuel (low + half + 1) (count - half - 1)
        else search places n fuel low half

def countUpTo (places : Array Nat) (n : Nat) : Nat := search places n (places.size + 1) 0 places.size

structure CodeSet where
  changes : Array Nat

namespace CodeSet

def ofText (s : String) : CodeSet := ⟨((words s).map ofHex).toArray⟩

def contains (s : CodeSet) (c : Char) : Bool := countUpTo s.changes c.toNat % 2 == 1

end CodeSet

structure CodeMap (α : Type) where
  starts : Array Nat
  values : Array α

namespace CodeMap

variable {α : Type}

def pairs : List (List Char) → List (Nat × List Char)
  | a :: b :: r => (ofHex a, b) :: pairs r
  | _ => []

def ofText (value : List Char → α) (s : String) : CodeMap α :=
  let ps := pairs (words s)
  ⟨(ps.map Prod.fst).toArray, (ps.map fun p => value p.2).toArray⟩

def get? (m : CodeMap α) (n : Nat) : Option α := m.values[countUpTo m.starts n - 1]?

end CodeMap

end AccessPolicy.Text
