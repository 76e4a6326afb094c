import AccessPolicy.Yaml.Scalar
import AccessPolicy.Yaml.Tag

namespace AccessPolicy.Yaml

inductive Token where
  | version (major minor : Nat)
  | tagPrefix (handle expansion : List Char)
  | documentStart
  | documentEnd
  | blockSequence
  | blockMapping
  | blockEnd
  | flowSequence
  | flowSequenceEnd
  | flowMapping
  | flowMappingEnd
  | blockEntry
  | flowEntry
  | key
  | value
  | alias (name : List Char)
  | anchor (name : List Char)
  | tag (handle suffix : List Char)
  | scalar (text : List Char) (style : ScalarStyle)
  | streamEnd
  deriving DecidableEq, Repr

/-- A place where a key may have begun: the token that came there, and whether a key must be there. -/
structure KeyMark where
  required : Bool
  token : Nat
  line : Nat
  index : Nat
  column : Nat
  deriving Repr

structure Scan where
  cursor : Cursor
  tokens : Array Token
  flow : Nat
  indents : List Int
  keyAllowed : Bool
  keys : List (Option KeyMark)

namespace Scan

def ofText (cs : List Char) : Scan := ⟨.ofText cs, #[], 0, [-1], true, [none]⟩

def indent (s : Scan) : Int := s.indents.headD (-1)

def push (s : Scan) (t : Token) : Scan := { s with tokens := s.tokens.push t }

def isStale (s : Scan) (k : KeyMark) : Bool := k.line < s.cursor.line || k.index + 1024 < s.cursor.index

def dropStale? (s : Scan) : Option Scan :=
  if s.keys.any fun k => k.any fun k => s.isStale k && k.required then none
  else some { s with keys := s.keys.map fun k => k.filter fun k => !s.isStale k }

def clearKey? (s : Scan) : Option Scan :=
  match s.keys with
  | some k :: ks => if k.required then none else some { s with keys := none :: ks }
  | _ => some s

def saveKey? (s : Scan) : Option Scan :=
  if !s.keyAllowed then some s
  else do
    let s ← s.clearKey?
    let c := s.cursor
    let k : KeyMark := ⟨s.flow == 0 && s.indent == c.column, s.tokens.size, c.line, c.index, c.column⟩
    return { s with keys := some k :: s.keys.drop 1 }

def openBlock (s : Scan) (column place : Nat) (t : Token) : Scan :=
  if s.flow = 0 ∧ s.indent < column then
    { s with indents := column :: s.indents, tokens := s.tokens.insertIdxIfInBounds place t }
  else s

def closeBlocks (s : Scan) (column : Int) : Scan :=
  if s.flow ≠ 0 then s
  else
    let closed := s.indents.takeWhile fun i => column < i
    { s with
      indents := s.indents.drop closed.length
      tokens := s.tokens ++ (closed.map fun _ => Token.blockEnd).toArray }

def skipGaps : Nat → Scan → Scan
  | 0, s => s
  | fuel + 1, s =>
    let (_, c) := s.cursor.takeWhile fun d => d == ' ' || ((s.flow ≠ 0 || !s.keyAllowed) && d == '\t')
    let c := if c.isAt '#' then (c.takeWhile fun _ => true).2 else c
    if c.atBreak then
      skipGaps fuel { s with cursor := c.nextLine.2, keyAllowed := s.keyAllowed || s.flow == 0 }
    else { s with cursor := c }

def advance (s : Scan) (n : Nat) : Scan := { s with cursor := s.cursor.skip n }

def allow (s : Scan) (keyAllowed : Bool) : Scan := { s with keyAllowed := keyAllowed }

def directive? (c : Cursor) : Option (Token × Cursor) := do
  let (name, c) := c.next.takeWhile isNameChar
  let (_, c) := c.takeWhile isSpace
  let (t, c) ←
    if name == "YAML".toList then
      let (major, c) := c.takeWhile Char.isDigit
      let (minor, d) := c.next.takeWhile Char.isDigit
      if major.isEmpty || minor.isEmpty || !c.isAt '.' then none
      else some (Token.version (Text.ofDigits major) (Text.ofDigits minor), d)
    else if name == "TAG".toList then
      let (handle, expansion, c) ← handle? c
      if c.atWordEnd then some (Token.tagPrefix handle expansion, c) else none
    else none
  let (_, c) := c.takeWhile isSpace
  let c := if c.isAt '#' then (c.takeWhile fun _ => true).2 else c
  if c.atBreak || c.atEnd then some (t, c.nextLine.2) else none

def name? (c : Cursor) : Option (List Char × Cursor) :=
  let (name, c) := c.next.takeWhile isNameChar
  let ends := c.atWordEnd || c.rest.head?.any fun d => "?:,]\x7d%@".toList.contains d || d.toNat == 96
  if name.isEmpty || !ends then none else some (name, c)

def tag? (flow : Bool) (c : Cursor) : Option (Token × Cursor) := do
  let (handle, suffix, c) ← tagParts? c
  if c.atWordEnd || (flow && c.isAt ',') then some (.tag handle suffix, c) else none

def colon? (s : Scan) : Option Scan :=
  match s.keys with
  | some k :: ks =>
    let s := { s with tokens := s.tokens.insertIdxIfInBounds k.token .key, keys := none :: ks }
    let s := s.openBlock k.column k.token .blockMapping
    some ((s.allow false).advance 1 |>.push .value)
  | _ =>
    if s.flow ≠ 0 then some ((s.allow false).advance 1 |>.push .value)
    else if !s.keyAllowed then none
    else
      let s := s.openBlock s.cursor.column s.tokens.size .blockMapping
      some ((s.allow true).advance 1 |>.push .value)

def blockMark? (s : Scan) (block mark : Token) (keyAllowed : Bool) : Option Scan :=
  if s.flow = 0 ∧ !s.keyAllowed then none
  else do
    let s ← (s.openBlock s.cursor.column s.tokens.size block).clearKey?
    return (s.allow keyAllowed).advance 1 |>.push mark

def openFlow? (s : Scan) (t : Token) : Option Scan := do
  let s ← s.saveKey?
  return ({ s with flow := s.flow + 1, keys := none :: s.keys }.allow true).advance 1 |>.push t

def closeFlow? (s : Scan) (t : Token) : Option Scan := do
  let s ← s.clearKey?
  let s := if s.flow = 0 then s else { s with flow := s.flow - 1, keys := s.keys.drop 1 }
  return (s.allow false).advance 1 |>.push t

def scalar? (s : Scan) (style : ScalarStyle) (r : Option Scanned) : Option Scan := do
  let s ← s.saveKey?
  let r ← r
  return ({ s with cursor := r.cursor }.allow r.lineEnded).push (.scalar r.text style)

def closeAll? (s : Scan) : Option Scan := do
  let s ← (s.closeBlocks (-1)).clearKey?
  return s.allow false

def startsPlain (s : Scan) : Bool :=
  match s.cursor.peek? 0 with
  | none => false
  | some d =>
    !(endsWord (some d) || "-?:,[]\x7b\x7d#&*!|>'\"%@".toList.contains d || d.toNat == 96)
      || (d == '-' && !(s.cursor.peek? 1).any isSpace)
      || (s.flow == 0 && (d == '?' || d == ':') && !endsWord (s.cursor.peek? 1))

def next? (s : Scan) : Option Scan := do
  let s ← (s.skipGaps (s.cursor.rest.length + 1)).dropStale?
  let s := s.closeBlocks s.cursor.column
  let c := s.cursor
  let fuel := c.rest.length + 2
  match c.rest with
  | [] => return (← s.closeAll?).push .streamEnd
  | d :: r =>
    if c.column = 0 ∧ d = '%' then do
      let s ← s.closeAll?
      let (t, c) ← directive? c
      return { s with cursor := c }.push t
    else if c.atMarker '-' then return (← s.closeAll?).advance 3 |>.push .documentStart
    else if c.atMarker '.' then return (← s.closeAll?).advance 3 |>.push .documentEnd
    else if d = '[' then s.openFlow? .flowSequence
    else if d = '\x7b' then s.openFlow? .flowMapping
    else if d = ']' then s.closeFlow? .flowSequenceEnd
    else if d = '\x7d' then s.closeFlow? .flowMappingEnd
    else if d = ',' then return ((← s.clearKey?).allow true).advance 1 |>.push .flowEntry
    else if d = '-' ∧ endsWord r.head? then s.blockMark? .blockSequence .blockEntry true
    else if d = '?' ∧ (s.flow ≠ 0 ∨ endsWord r.head?) then s.blockMark? .blockMapping .key (s.flow == 0)
    else if d = ':' ∧ (s.flow ≠ 0 ∨ endsWord r.head?) then s.colon?
    else if d = '*' then do
      let s ← s.saveKey?
      let (name, c) ← name? c
      return ({ s with cursor := c }.allow false).push (.alias name)
    else if d = '&' then do
      let s ← s.saveKey?
      let (name, c) ← name? c
      return ({ s with cursor := c }.allow false).push (.anchor name)
    else if d = '!' then do
      let s ← s.saveKey?
      let (t, c) ← tag? (s.flow ≠ 0) c
      return ({ s with cursor := c }.allow false).push t
    else if (d = '|' ∨ d = '>') ∧ s.flow = 0 then do
      let s ← s.clearKey?
      let r ← scanBlock (d == '|') s.indent c.next
      return ({ s with cursor := r.cursor }.allow true).push (.scalar r.text (if d = '|' then .literal else .folded))
    else if d = '\'' then s.scalar? .quoted (scanQuoted true fuel [] .empty c.next)
    else if d = '"' then s.scalar? .quoted (scanQuoted false fuel [] .empty c.next)
    else if s.startsPlain then s.scalar? .plain (scanPlain (s.flow ≠ 0) (s.indent + 1) fuel false [] .empty c)
    else none

/-- How many tokens are settled: no mark for a key can still come before them. -/
def settled (s : Scan) : Nat :=
  s.keys.foldl (fun n k => match k with
    | some k => min n k.token
    | none => n) s.tokens.size

def finish : Nat → Scan → List Token
  | 0, s => s.tokens.toList
  | fuel + 1, s =>
    if s.tokens.back? = some .streamEnd then s.tokens.toList
    else
      match s.dropStale? with
      | none => s.tokens.toList.take s.settled
      | some s =>
        match s.next? with
        | some s' => finish fuel s'
        | none => s.tokens.toList.take s.settled

end Scan

def tokens (text : String) : List Token :=
  let cs := match text.toList with
    | '\uFEFF' :: r => r
    | r => r
  if cs.all isAllowed then (Scan.ofText cs).finish (cs.length + 2) else []

end AccessPolicy.Yaml
