import AccessPolicy.Yaml.Cursor

namespace AccessPolicy.Yaml

inductive ScalarStyle where
  | plain
  | quoted
  | literal
  | folded
  deriving DecidableEq, Repr

/-- Blanks and line ends that belong to a scalar only if it goes on after them. -/
structure Gap where
  broken : Bool
  blanks : List Char
  first : List Char
  more : List Char
  deriving DecidableEq, Repr

namespace Gap

def empty : Gap := ⟨false, [], [], []⟩

def addBlank (g : Gap) (c : Char) : Gap := if g.broken then g else { g with blanks := g.blanks ++ [c] }

def addBreak (g : Gap) (b : List Char) : Gap :=
  if g.broken then { g with more := g.more ++ b } else ⟨true, [], b, []⟩

def folded (g : Gap) : List Char :=
  if !g.broken then g.blanks
  else if g.first == ['\n'] then (if g.more.isEmpty then [' '] else g.more)
  else g.first ++ g.more

end Gap

structure Scanned where
  text : List Char
  lineEnded : Bool
  cursor : Cursor

def scanPlain (flow : Bool) (indent : Int) : Nat → Bool → List Char → Gap → Cursor → Option Scanned
  | 0, _, _, _, _ => none
  | fuel + 1, inGap, text, gap, c =>
    let stop : Option Scanned := some ⟨text, gap.broken, c⟩
    match c.rest with
    | [] => stop
    | d :: r =>
      if isBreak d then
        let (b, c) := c.nextLine
        scanPlain flow indent fuel true text (gap.addBreak b) c
      else if isSpace d then
        if gap.broken && c.column < indent && d == '\t' then none
        else scanPlain flow indent fuel true text (gap.addBlank d) c.next
      else if inGap && ((!flow && c.column < indent) || c.atDocumentMarker || d == '#') then stop
      else if flow && d == ':' && r.head?.any (fun e => ",?[]\x7b\x7d".toList.contains e) then none
      else if (d == ':' && endsWord r.head?) || (flow && ",[]\x7b\x7d".toList.contains d) then stop
      else scanPlain flow indent fuel false (text ++ gap.folded ++ [d]) .empty c.next

def escaped? (cs : List Char) : Option (Char × Nat) :=
  let code (n : Nat) (r : List Char) : Option (Char × Nat) :=
    let ds := r.take n
    let k := Text.ofHex ds
    if ds.length = n ∧ ds.all Text.isHexDigit ∧ k.isValidChar then
      some (Char.ofNat k, n + 1)
    else none
  match cs with
  | '0' :: _ => some ('\x00', 1)
  | 'a' :: _ => some ('\x07', 1)
  | 'b' :: _ => some ('\x08', 1)
  | 't' :: _ => some ('\t', 1)
  | '\t' :: _ => some ('\t', 1)
  | 'n' :: _ => some ('\n', 1)
  | 'v' :: _ => some ('\x0b', 1)
  | 'f' :: _ => some ('\x0c', 1)
  | 'r' :: _ => some ('\r', 1)
  | 'e' :: _ => some ('\x1b', 1)
  | ' ' :: _ => some (' ', 1)
  | '"' :: _ => some ('"', 1)
  | '/' :: _ => some ('/', 1)
  | '\\' :: _ => some ('\\', 1)
  | 'N' :: _ => some ('\u0085', 1)
  | '_' :: _ => some ('\u00a0', 1)
  | 'L' :: _ => some ('\u2028', 1)
  | 'P' :: _ => some ('\u2029', 1)
  | 'x' :: r => code 2 r
  | 'u' :: r => code 4 r
  | 'U' :: r => code 8 r
  | _ => none

def scanQuoted (single : Bool) : Nat → List Char → Gap → Cursor → Option Scanned
  | 0, _, _, _ => none
  | fuel + 1, text, gap, c =>
    match c.rest with
    | [] => none
    | d :: r =>
      if c.atDocumentMarker then none
      else if isBreak d then
        let (b, c) := c.nextLine
        scanQuoted single fuel text (gap.addBreak b) c
      else if isSpace d then scanQuoted single fuel text (gap.addBlank d) c.next
      else
        let text := text ++ gap.folded
        if single && d == '\'' then
          if r.head? == some '\'' then scanQuoted single fuel (text ++ ['\'']) .empty (c.skip 2)
          else some ⟨text, false, c.next⟩
        else if !single && d == '"' then some ⟨text, false, c.next⟩
        else if !single && d == '\\' then
          if r.head?.any isBreak then
            scanQuoted single fuel text ⟨true, [], [], []⟩ c.next.nextLine.2
          else match escaped? r with
            | some (e, n) => scanQuoted single fuel (text ++ [e]) .empty (c.skip (n + 1))
            | none => none
        else scanQuoted single fuel (text ++ [d]) .empty c.next

inductive Chomping where
  | strip
  | clip
  | keep
  deriving DecidableEq, Repr

def blockSigns (c : Cursor) : Option (Chomping × Nat × Cursor) :=
  let chomping? : Option Char → Option Chomping
    | some '+' => some .keep
    | some '-' => some .strip
    | _ => none
  let digit? : Option Char → Option Nat
    | some d => if d.isDigit then some (d.toNat - 48) else none
    | none => none
  match chomping? (c.peek? 0), digit? (c.peek? 0) with
  | some k, _ =>
    match digit? (c.peek? 1) with
    | some 0 => none
    | some n => some (k, n, c.skip 2)
    | none => some (k, 0, c.next)
  | none, some 0 => none
  | none, some n =>
    match chomping? (c.peek? 1) with
    | some k => some (k, n, c.skip 2)
    | none => some (.clip, n, c.next)
  | none, none => some (.clip, 0, c)

/-- Empty lines before a line of a block. An `indent` of zero is not known yet, and the most indented line settles
it; a tab may not stand for indentation. -/
def blockBreaks (least : Nat) : Nat → Nat → Nat → List Char → Cursor → Option (Nat × List Char × Cursor)
  | 0, _, _, _, _ => none
  | fuel + 1, indent, widest, breaks, c =>
    let spaces := (c.rest.takeWhile (· == ' ')).length
    let c := c.skip (if indent = 0 then spaces else min spaces (indent - c.column))
    let widest := max widest c.column
    if (indent = 0 || c.column < indent) && c.isAt '\t' then none
    else if c.atBreak then
      let (b, c) := c.nextLine
      blockBreaks least fuel indent widest (breaks ++ b) c
    else some (if indent = 0 then max widest (max least 1) else indent, breaks, c)

def blockLines (literal : Bool) (least indent : Nat) :
    Nat → List Char → Bool → List Char → List Char → Cursor → Option (List Char × List Char × List Char × Cursor)
  | 0, _, _, _, _, _ => none
  | fuel + 1, text, blankBefore, last, more, c =>
    if c.column != indent || c.atEnd then some (text, last, more, c)
    else
      let blank := c.atSpace
      let joint :=
        if !literal && last == ['\n'] && !blankBefore && !blank then (if more.isEmpty then [' '] else [])
        else last
      let (line, c) := c.takeWhile fun _ => true
      let (last', c) := c.nextLine
      match blockBreaks least (fuel + 1) indent 0 [] c with
      | none => none
      | some (_, more', c) => blockLines literal least indent fuel (text ++ joint ++ more ++ line) blank last' more' c

def scanBlock (literal : Bool) (indent : Int) (c : Cursor) : Option Scanned := do
  let fuel := c.rest.length + 2
  let (chomping, increment, c) ← blockSigns c
  let (_, c) := c.takeWhile isSpace
  let c := if c.isAt '#' then (c.takeWhile fun _ => true).2 else c
  if !c.atBreak && !c.atEnd then none
  else
    let (_, c) := c.nextLine
    let least := (indent + 1).toNat
    let known := if increment = 0 then 0 else if 0 ≤ indent then indent.toNat + increment else increment
    let (width, more, c) ← blockBreaks least fuel known 0 [] c
    let (text, last, more, c) ← blockLines literal least width fuel [] false [] more c
    let tail := match chomping with
      | .strip => []
      | .clip => last
      | .keep => last ++ more
    return ⟨text ++ tail, true, c⟩

end AccessPolicy.Yaml
