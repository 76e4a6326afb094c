import AccessPolicy.Pattern.Property
import AccessPolicy.Text.CaseFold

namespace AccessPolicy.Pattern

inductive CharSet where
  | none
  | range (low high : Nat)
  | property (p : Property)
  | union (a b : CharSet)
  | meet (a b : CharSet)
  | minus (a b : CharSet)
  | either (a b : CharSet)
  | complement (a : CharSet)
  | anyCase (a : CharSet)
  | anyAsciiCase (a : CharSet)
  deriving DecidableEq, Repr

namespace CharSet

def contains (n : Nat) : CharSet → Bool
  | .none => false
  | .range low high => low ≤ n && n ≤ high
  | .property p => p.holds (Char.ofNat n)
  | .union a b => a.contains n || b.contains n
  | .meet a b => a.contains n && b.contains n
  | .minus a b => a.contains n && !b.contains n
  | .either a b => a.contains n != b.contains n
  | .complement a => !a.contains n
  | .anyCase a => a.contains n || (Text.caseVariants n).any fun m => contains m a
  | .anyAsciiCase a =>
    let c := Char.ofNat n
    a.contains n || a.contains c.toLower.toNat || a.contains c.toUpper.toNat

def single (n : Nat) : CharSet := .range n n

def ofChar (c : Char) : CharSet := single c.toNat

def ranges : List (Char × Char) → CharSet
  | [] => .none
  | (a, b) :: r => .union (.range a.toNat b.toNat) (ranges r)

def digit : CharSet := .property (.categories [.nd])

def blank : CharSet := .property .blank

def word : CharSet :=
  .union (.property .alphabetic) (.union (.property (.categories [.mn, .mc, .me, .nd, .pc])) (.range 0x200C 0x200D))

def asciiDigit : CharSet := ranges [('0', '9')]

def asciiBlank : CharSet := ranges [('\t', '\r'), (' ', ' ')]

def asciiWord : CharSet := ranges [('0', '9'), ('A', 'Z'), ('_', '_'), ('a', 'z')]

def ofAsciiName? (name : String) : Option CharSet :=
  match name with
  | "alnum" => some (ranges [('0', '9'), ('A', 'Z'), ('a', 'z')])
  | "alpha" => some (ranges [('A', 'Z'), ('a', 'z')])
  | "ascii" => some (.range 0 127)
  | "blank" => some (ranges [('\t', '\t'), (' ', ' ')])
  | "cntrl" => some (.union (.range 0 31) (.range 127 127))
  | "digit" => some asciiDigit
  | "graph" => some (ranges [('!', '~')])
  | "lower" => some (ranges [('a', 'z')])
  | "print" => some (ranges [(' ', '~')])
  | "punct" => some (ranges [('!', '/'), (':', '@'), ('[', Char.ofNat 96), ('\x7b', '~')])
  | "space" => some asciiBlank
  | "upper" => some (ranges [('A', 'Z')])
  | "word" => some asciiWord
  | "xdigit" => some (ranges [('0', '9'), ('A', 'F'), ('a', 'f')])
  | _ => Option.none

/-- Whether a set has a member among the codes from 128 to 255, which are no whole characters as bytes. -/
def hasHighByte (a : CharSet) : Bool := (List.range 128).any fun n => a.contains (n + 128)

def weight : CharSet → Nat
  | .none => 1
  | .range _ high => if high < 128 then 1 else 4
  | .property (.categories gs) => 40 * gs.length * gs.length
  | .property .alphabetic => 1500
  | .property _ => 100
  | .union a b => a.weight + b.weight
  | .meet a b => a.weight + b.weight
  | .minus a b => a.weight + b.weight
  | .either a b => a.weight + b.weight
  | .complement a => a.weight + 10
  | .anyCase a => a.weight + 2
  | .anyAsciiCase a => a.weight

end CharSet

end AccessPolicy.Pattern
