import AccessPolicy.Text.Blank
import AccessPolicy.Text.Category
import AccessPolicy.Text.ScriptTable

namespace AccessPolicy.Pattern

open Text

inductive Property where
  | any
  | ascii
  | categories (gs : List Category)
  | script (name : List Char)
  | alphabetic
  | lowercase
  | uppercase
  | blank
  | emoji
  | mathematical
  | ideographic
  | dash
  | hexDigit
  | asciiHexDigit
  deriving DecidableEq, Repr

namespace Property

def scripts : CodeMap (List Char) := .ofText id ScriptTable.runs

def scriptNames : List (List (List Char)) := (splitOn '\n' ScriptTable.names.toList).map (splitOn ' ')

def lowercaseSet : CodeSet := .ofText PropertyTable.lowercase

def uppercaseSet : CodeSet := .ofText PropertyTable.uppercase

def emojiSet : CodeSet := .ofText PropertyTable.emoji

def mathematicalSet : CodeSet := .ofText PropertyTable.mathematical

def ideographicSet : CodeSet := .ofText PropertyTable.ideographic

def dashSet : CodeSet := .ofText PropertyTable.dash

def hexDigitSet : CodeSet := .ofText PropertyTable.hexDigit

def holds (c : Char) : Property → Bool
  | .any => true
  | .ascii => c.toNat < 128
  | .categories gs => gs.contains (category c)
  | .script name => scripts.get? c.toNat == some name
  | .alphabetic => Text.alphabetic.contains c
  | .lowercase => lowercaseSet.contains c
  | .uppercase => uppercaseSet.contains c
  | .blank => isBlank c
  | .emoji => emojiSet.contains c
  | .mathematical => mathematicalSet.contains c
  | .ideographic => ideographicSet.contains c
  | .dash => dashSet.contains c
  | .hexDigit => hexDigitSet.contains c
  | .asciiHexDigit => isHexDigit c

def normalName (cs : List Char) : List Char :=
  let body := match cs with
    | i :: s :: r => if i.toLower = 'i' ∧ s.toLower = 's' then r else cs
    | _ => cs
  let plain (cs : List Char) : List Char :=
    (cs.filter fun c => c != ' ' && c != '_' && c != '-' && c.toNat < 128).map Char.toLower
  if plain body = ['c'] ∧ body.length < cs.length then plain cs else plain body

def unions : List (List String × List Category) := [
  (["c", "other"], [.cc, .cf, .cn, .co, .cs]),
  (["l", "letter"], [.lu, .ll, .lt, .lm, .lo]),
  (["lc", "casedletter"], [.lu, .ll, .lt]),
  (["m", "mark", "combiningmark"], [.mn, .mc, .me]),
  (["n", "number"], [.nd, .nl, .no]),
  (["p", "punctuation", "punct"], [.pc, .pd, .ps, .pe, .pi, .pf, .po]),
  (["s", "symbol"], [.sm, .sc, .sk, .so]),
  (["z", "separator"], [.zs, .zl, .zp]),
  (["assigned"], Category.all.filter (· ≠ .cn)),
  (["cc", "control", "cntrl"], [.cc]),
  (["cf", "format"], [.cf]),
  (["cn", "unassigned"], [.cn]),
  (["co", "privateuse"], [.co]),
  (["cs", "surrogate"], [.cs]),
  (["ll", "lowercaseletter"], [.ll]),
  (["lm", "modifierletter"], [.lm]),
  (["lo", "otherletter"], [.lo]),
  (["lt", "titlecaseletter"], [.lt]),
  (["lu", "uppercaseletter"], [.lu]),
  (["mc", "spacingmark"], [.mc]),
  (["me", "enclosingmark"], [.me]),
  (["mn", "nonspacingmark"], [.mn]),
  (["nd", "decimalnumber", "digit"], [.nd]),
  (["nl", "letternumber"], [.nl]),
  (["no", "othernumber"], [.no]),
  (["pc", "connectorpunctuation"], [.pc]),
  (["pd", "dashpunctuation"], [.pd]),
  (["pe", "closepunctuation"], [.pe]),
  (["pf", "finalpunctuation"], [.pf]),
  (["pi", "initialpunctuation"], [.pi]),
  (["po", "otherpunctuation"], [.po]),
  (["ps", "openpunctuation"], [.ps]),
  (["sc", "currencysymbol"], [.sc]),
  (["sk", "modifiersymbol"], [.sk]),
  (["sm", "mathsymbol"], [.sm]),
  (["so", "othersymbol"], [.so]),
  (["zl", "lineseparator"], [.zl]),
  (["zp", "paragraphseparator"], [.zp]),
  (["zs", "spaceseparator"], [.zs])
]

def singles : List (List String × Property) := [
  (["alpha", "alphabetic"], .alphabetic),
  (["lower", "lowercase"], .lowercase),
  (["upper", "uppercase"], .uppercase),
  (["wspace", "whitespace", "space"], .blank),
  (["emoji"], .emoji),
  (["math"], .mathematical),
  (["ideo", "ideographic"], .ideographic),
  (["dash"], .dash),
  (["hex", "hexdigit"], .hexDigit),
  (["ahex", "asciihexdigit"], .asciiHexDigit)
]

def named? {α : Type} (name : List Char) (table : List (List String × α)) : Option α :=
  (table.find? fun row => row.1.any (·.toList == name)).map Prod.snd

def category? (name : List Char) : Option Property :=
  if name = "any".toList then some .any
  else if name = "ascii".toList then some .ascii
  else (named? name unions).map .categories

def script? (name : List Char) : Option Property :=
  (scriptNames.find? fun names => names.any (normalName · == name)).bind fun names => names.head?.map .script

def ofName? (name : List Char) : Option Property :=
  let n := normalName name
  (named? n singles <|> category? n) <|> script? n

def ofKind? (kind value : List Char) : Option Property :=
  let k := String.ofList (normalName kind)
  let n := normalName value
  if k = "gc" ∨ k = "generalcategory" then category? n
  else if k = "sc" ∨ k = "script" ∨ k = "scx" ∨ k = "scriptextensions" then script? n
  else none

end Property

end AccessPolicy.Pattern
