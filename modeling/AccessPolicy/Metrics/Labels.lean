import AccessPolicy.Text.Basic

namespace AccessPolicy.Metrics

abbrev Labels := List (String × String)

namespace Labels

def mayPrecede (a b : String × String) : Bool := a.1 < b.1 || (a.1 == b.1 && a.2 ≤ b.2)

def sorted (ls : Labels) : Labels := ls.mergeSort mayPrecede

theorem sorted_singleton (l : String × String) : sorted [l] = [l] := List.mergeSort_singleton l

def escapeChar (c : Char) : List Char :=
  if c = '\\' then ['\\', '\\']
  else if c = '"' then ['\\', '"']
  else if c = '\n' then ['\\', 'n']
  else [c]

def labelChars (l : String × String) : List Char :=
  l.1.toList ++ '=' :: '"' :: l.2.toList.flatMap escapeChar ++ ['"']

def chars (ls : Labels) : List Char := List.intercalate [','] (ls.map labelChars)

def text (ls : Labels) : String := String.ofList ls.chars

end Labels

end AccessPolicy.Metrics
