import AccessPolicy.Text.CategoryTable
import AccessPolicy.Text.CodeTable
import AccessPolicy.Text.PropertyTable

namespace AccessPolicy.Text

inductive Category where
  | lu | ll | lt | lm | lo
  | mn | mc | me
  | nd | nl | no
  | pc | pd | ps | pe | pi | pf | po
  | sm | sc | sk | so
  | zs | zl | zp
  | cc | cf | cs | co | cn
  deriving DecidableEq, Repr

namespace Category

def letters : Category → String
  | .lu => "Lu" | .ll => "Ll" | .lt => "Lt" | .lm => "Lm" | .lo => "Lo"
  | .mn => "Mn" | .mc => "Mc" | .me => "Me"
  | .nd => "Nd" | .nl => "Nl" | .no => "No"
  | .pc => "Pc" | .pd => "Pd" | .ps => "Ps" | .pe => "Pe" | .pi => "Pi" | .pf => "Pf" | .po => "Po"
  | .sm => "Sm" | .sc => "Sc" | .sk => "Sk" | .so => "So"
  | .zs => "Zs" | .zl => "Zl" | .zp => "Zp"
  | .cc => "Cc" | .cf => "Cf" | .cs => "Cs" | .co => "Co" | .cn => "Cn"

def all : List Category :=
  [.lu, .ll, .lt, .lm, .lo, .mn, .mc, .me, .nd, .nl, .no, .pc, .pd, .ps, .pe, .pi, .pf, .po,
   .sm, .sc, .sk, .so, .zs, .zl, .zp, .cc, .cf, .cs, .co, .cn]

def ofLetters (cs : List Char) : Category := (all.find? fun g => g.letters.toList == cs).getD .cn

def isUnseen (g : Category) : Bool :=
  g == .zs || g == .zl || g == .zp || g == .cc || g == .cf || g == .cs || g == .co || g == .cn

end Category

def categories : CodeMap Category := .ofText Category.ofLetters CategoryTable.runs

def category (c : Char) : Category := (categories.get? c.toNat).getD .cn

def graphemeExtend : CodeSet := .ofText PropertyTable.graphemeExtend

def alphabetic : CodeSet := .ofText PropertyTable.alphabetic

def isAlphanumeric (c : Char) : Bool :=
  alphabetic.contains c || category c == .nd || category c == .nl || category c == .no

def isPrintable (c : Char) : Bool := c == ' ' || !(category c).isUnseen

end AccessPolicy.Text
