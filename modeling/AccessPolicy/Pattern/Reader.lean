import AccessPolicy.Pattern.Basic

namespace AccessPolicy.Pattern

open Text (isBlank skipBlanks)

structure Flags where
  anyCase : Bool
  multiLine : Bool
  dotAll : Bool
  returns : Bool
  ascii : Bool
  verbose : Bool
  deriving DecidableEq, Repr

def Flags.plain : Flags := ⟨false, false, false, false, false, false⟩

def skipComments (inComment : Bool) : List Char → List Char
  | [] => []
  | c :: cs =>
    if inComment then skipComments (c != '\n') cs
    else if isBlank c then skipComments false cs
    else if c = '#' then skipComments true cs
    else c :: cs

def skip (verbose : Bool) (cs : List Char) : List Char := if verbose then skipComments false cs else cs

def run (verbose : Bool) (test : Char → Bool) (inComment : Bool) : List Char → List Char × List Char
  | [] => ([], [])
  | c :: cs =>
    if inComment then run verbose test (c != '\n') cs
    else if verbose && isBlank c then run verbose test false cs
    else if verbose && c = '#' then run verbose test true cs
    else if test c then let (ds, r) := run verbose test false cs; (c :: ds, r)
    else ([], c :: cs)

def braced (verbose : Bool) (cs : List Char) : Option (List Char × List Char) :=
  match run verbose (· != '\x7d') false cs with
  | (ds, _ :: r) => some (ds, r)
  | (_, []) => none

def charOfCode? (n : Nat) : Option Char := if n.isValidChar then some (Char.ofNat n) else none

def hexDigits (verbose : Bool) : Nat → List Char → Option (List Char × List Char)
  | 0, cs => some ([], cs)
  | n + 1, c :: cs =>
    if Text.isHexDigit c then
      (hexDigits verbose n (if n = 0 then cs else skip verbose cs)).map fun (ds, r) => (c :: ds, r)
    else none
  | _ + 1, [] => none

def readCode (verbose : Bool) (count : Nat) (cs : List Char) : Option (Char × List Char) := do
  let (ds, rest) ← match skip verbose cs with
    | '\x7b' :: r => braced verbose r
    | r => hexDigits verbose count r
  if ds.isEmpty || !ds.all Text.isHexDigit then none
  else (charOfCode? (Text.ofHex ds)).map (·, rest)

inductive Atom where
  | char (c : Char)
  | set (s : CharSet)
  | look (l : Look)
  deriving DecidableEq, Repr

namespace Flags

def checked? (f : Flags) (s : CharSet) : Option CharSet := if f.ascii && s.hasHighByte then none else some s

def folded (f : Flags) (s : CharSet) : CharSet :=
  if !f.anyCase then s else if f.ascii then .anyAsciiCase s else .anyCase s

def negated? (f : Flags) (negative : Bool) (s : CharSet) : Option CharSet :=
  f.checked? (if negative then .complement s else s)

def char? (f : Flags) (c : Char) : Option CharSet :=
  if f.ascii && 128 ≤ c.toNat then none else some (.ofChar c)

def dot? (f : Flags) : Option CharSet :=
  f.checked? (if f.dotAll then .property .any
    else if f.returns then .complement (CharSet.ranges [('\n', '\n'), ('\r', '\r')])
    else .complement (CharSet.ofChar '\n'))

def atom? (f : Flags) : Atom → Option Pattern
  | .char c => (f.char? c).map fun s => .one (f.folded s)
  | .set s => some (.one s)
  | .look l => some (.look l)

end Flags

def cutAtPair (a b : Char) : List Char → Option (List Char × List Char)
  | c :: d :: r =>
    if c = a ∧ d = b then some ([], r) else (cutAtPair a b (d :: r)).map fun (x, y) => (c :: x, y)
  | _ => none

def cutAt (a : Char) (cs : List Char) : Option (List Char × List Char) :=
  match cs.dropWhile (· != a) with
  | _ :: r => some (cs.takeWhile (· != a), r)
  | [] => none

def namedProperty? (cs : List Char) : Option (Bool × Property) :=
  match cutAtPair '!' '=' cs with
  | some (k, v) => (Property.ofKind? k v).map (true, ·)
  | none =>
    match cutAt ':' cs with
    | some (k, v) => (Property.ofKind? k v).map (false, ·)
    | none =>
      match cutAt '=' cs with
      | some (k, v) => (Property.ofKind? k v).map (false, ·)
      | none => (Property.ofName? cs).map (false, ·)

def readProperty (f : Flags) (negative : Bool) (cs : List Char) : Option (Atom × List Char) := do
  let ((unequal, p), rest) ← match skip f.verbose cs with
    | [] => none
    | '\x7b' :: r => do
      let (name, r) ← braced f.verbose r
      (namedProperty? name).map (·, r)
    | '\\' :: _ => none
    | c :: r => (Property.ofName? [c]).map fun p => ((false, p), r)
  if f.ascii then none
  else do
    let s ← f.negated? (negative != unequal) (f.folded (.property p))
    return (.set s, rest)

def classOf? (f : Flags) (c : Char) : Option CharSet :=
  let s := match c.toLower with
    | 'd' => if f.ascii then CharSet.asciiDigit else .digit
    | 's' => if f.ascii then .asciiBlank else .blank
    | _ => if f.ascii then .asciiWord else .word
  f.negated? c.isUpper s

def readBoundary (f : Flags) (cs : List Char) : Option (Atom × List Char) :=
  let isName (c : Char) : Bool := c.isAlpha || c == '-'
  match cs with
  | '\x7b' :: r =>
    match skip f.verbose r with
    | [] => none
    | c :: _ =>
      if !isName c then some (.look (.boundary f.ascii), cs)
      else match run f.verbose isName false r with
        | (name, '\x7d' :: r) =>
          match String.ofList name with
          | "start" => some (.look (.wordStart f.ascii), r)
          | "end" => some (.look (.wordEnd f.ascii), r)
          | "start-half" => some (.look (.wordStartHalf f.ascii), r)
          | "end-half" => some (.look (.wordEndHalf f.ascii), r)
          | _ => none
        | _ => none
  | _ => some (.look (.boundary f.ascii), cs)

def readEscape (f : Flags) : List Char → Option (Atom × List Char)
  | [] => none
  | c :: cs =>
    match c with
    | 'x' => (readCode f.verbose 2 cs).map fun (c, r) => (.char c, r)
    | 'u' => (readCode f.verbose 4 cs).map fun (c, r) => (.char c, r)
    | 'U' => (readCode f.verbose 8 cs).map fun (c, r) => (.char c, r)
    | 'p' => readProperty f false cs
    | 'P' => readProperty f true cs
    | 'a' => some (.char '\x07', cs)
    | 'f' => some (.char '\x0c', cs)
    | 't' => some (.char '\t', cs)
    | 'n' => some (.char '\n', cs)
    | 'r' => some (.char '\r', cs)
    | 'v' => some (.char '\x0b', cs)
    | 'A' => some (.look .textStart, cs)
    | 'z' => some (.look .textEnd, cs)
    | 'b' => readBoundary f cs
    | 'B' => some (.look (.noBoundary f.ascii), cs)
    | '<' => some (.look (.wordStart f.ascii), cs)
    | '>' => some (.look (.wordEnd f.ascii), cs)
    | c =>
      if "dswDSW".toList.contains c then (classOf? f c).map fun s => (.set s, cs)
      else if c.isAlphanum || 128 ≤ c.toNat then none
      else some (.char c, cs)

inductive Combination where
  | meet
  | minus
  | either
  deriving DecidableEq, Repr

def Combination.apply : Combination → CharSet → CharSet → CharSet
  | .meet, a, b => .meet a b
  | .minus, a, b => .minus a b
  | .either, a, b => .either a b

structure Bracket where
  negative : Bool
  before : Option (CharSet × Combination)
  items : CharSet

namespace Bracket

def add (b : Bracket) (s : CharSet) : Bracket := { b with items := .union b.items s }

def combined (f : Flags) (b : Bracket) : CharSet :=
  match b.before with
  | none => b.items
  | some (left, c) => c.apply (f.folded left) (f.folded b.items)

def combine (f : Flags) (c : Combination) (b : Bracket) : Bracket := ⟨b.negative, some (b.combined f, c), .none⟩

def close? (f : Flags) (b : Bracket) : Option CharSet := f.negated? b.negative (f.folded (b.combined f))

end Bracket

def readAsciiName (f : Flags) (cs : List Char) : Option (Option CharSet × List Char) :=
  match cs with
  | ':' :: r =>
    let (negative, r) := match r with
      | '^' :: r => (true, r)
      | r => (false, r)
    match r.takeWhile (· != ':'), r.dropWhile (· != ':') with
    | name, ':' :: ']' :: rest =>
      (CharSet.ofAsciiName? (String.ofList name)).map fun s => (f.negated? negative (f.folded s), rest)
    | _, _ => none
  | _ => none

def readBracketAtom (f : Flags) : List Char → Option (Atom × List Char)
  | [] => none
  | '\\' :: r => readEscape f r
  | c :: r => some (.char c, r)

def readBracketItem (f : Flags) (cs : List Char) : Option (CharSet × List Char) := do
  let (a, rest) ← readBracketAtom f cs
  let alone : Option (CharSet × List Char) := match a with
    | .char c => (f.char? c).map (·, rest)
    | .set s => some (s, rest)
    | .look _ => none
  match skip f.verbose rest with
  | [] => none
  | '-' :: r =>
    match skip f.verbose r with
    | [] => none
    | ']' :: _ => alone
    | '-' :: _ => alone
    | r => do
      let (b, rest) ← readBracketAtom f r
      match a, b with
      | .char low, .char high =>
        if high < low ∨ (f.ascii ∧ 128 ≤ high.toNat) then none else some (.range low.toNat high.toNat, rest)
      | _, _ => none
  | _ => alone

def openBracket (f : Flags) (cs : List Char) : Option (Bracket × List Char) :=
  let (negative, cs) := match skip f.verbose cs with
    | '^' :: r => (true, skip f.verbose r)
    | r => (false, r)
  let (hyphens, cs) := run f.verbose (· == '-') false cs
  match hyphens, cs with
  | [], ']' :: r => some (⟨negative, none, .ofChar ']'⟩, r)
  | [], r => some (⟨negative, none, .none⟩, r)
  | _, r => some (⟨negative, none, .ofChar '-'⟩, r)

def readBracket (f : Flags) : Nat → List Bracket → Bracket → List Char → Option (CharSet × List Char)
  | 0, _, _, _ => none
  | fuel + 1, outer, b, cs =>
    match skip f.verbose cs with
    | [] => none
    | '[' :: r =>
      match readAsciiName f r with
      | some (none, _) => none
      | some (some s, rest) => readBracket f fuel outer (b.add s) rest
      | none => do
        let (inner, rest) ← openBracket f r
        readBracket f fuel (b :: outer) inner rest
    | ']' :: r => do
      let s ← b.close? f
      match outer with
      | [] => some (s, r)
      | b :: outer => readBracket f fuel outer (b.add s) r
    | '&' :: '&' :: r => readBracket f fuel outer (b.combine f .meet) r
    | '-' :: '-' :: r => readBracket f fuel outer (b.combine f .minus) r
    | '~' :: '~' :: r => readBracket f fuel outer (b.combine f .either) r
    | r => do
      let (s, rest) ← readBracketItem f r
      readBracket f fuel outer (b.add s) rest

def readCount (f : Flags) (cs : List Char) : Option (Nat × List Char) :=
  match run f.verbose Char.isDigit false (skipBlanks cs) with
  | ([], _) => none
  | (ds, r) =>
    let n := Text.ofDigits ds
    if n < UInt32.size then some (n, skip f.verbose (skipBlanks r)) else none

def readRange (f : Flags) (cs : List Char) : Option ((Nat × Option Nat) × List Char) := do
  let (low, r) ← readCount f (skip f.verbose cs)
  match r with
  | '\x7d' :: r => some ((low, some low), r)
  | ',' :: r =>
    match skip f.verbose r with
    | '\x7d' :: r => some ((low, none), r)
    | r => do
      let (high, r) ← readCount f r
      match r with
      | '\x7d' :: r => if high < low then none else some ((low, some high), r)
      | _ => none
  | _ => none

def readFlags (f : Flags) (negative : Bool) (seen : List Char) :
    List Char → Option (Flags × List Char × Char × List Char)
  | [] => none
  | c :: cs =>
    if c = ':' ∨ c = ')' then if seen.head? = some '-' then none else some (f, seen, c, cs)
    else if seen.contains c then none
    else
      let seen := c :: seen
      match c with
      | '-' => readFlags f true seen cs
      | 'i' => readFlags { f with anyCase := !negative } negative seen cs
      | 'm' => readFlags { f with multiLine := !negative } negative seen cs
      | 's' => readFlags { f with dotAll := !negative } negative seen cs
      | 'R' => readFlags { f with returns := !negative } negative seen cs
      | 'u' => readFlags { f with ascii := negative } negative seen cs
      | 'x' => readFlags { f with verbose := !negative } negative seen cs
      | 'U' => readFlags f negative seen cs
      | _ => none

def isNameStart (c : Char) : Bool := c == '_' || Text.alphabetic.contains c

def isNamePart (c : Char) : Bool :=
  isNameStart c || c == '.' || c == '[' || c == ']' || [Text.Category.nd, .nl, .no].contains (Text.category c)

def readGroupName (cs : List Char) : Option (List Char × List Char) :=
  match cutAt '>' cs with
  | some (c :: name, r) => if isNameStart c && name.all isNamePart then some (c :: name, r) else none
  | _ => none

inductive Opening where
  | group (f : Flags) (name : Option (List Char)) (rest : List Char)
  | flags (f : Flags) (rest : List Char)

def readOpening (f : Flags) (cs : List Char) : Option Opening :=
  match skip f.verbose cs with
  | '?' :: '=' :: _ => none
  | '?' :: '!' :: _ => none
  | '?' :: '<' :: '=' :: _ => none
  | '?' :: '<' :: '!' :: _ => none
  | '?' :: '<' :: r => (readGroupName r).map fun (name, r) => .group f (some name) r
  | '?' :: 'P' :: '<' :: r => (readGroupName r).map fun (name, r) => .group f (some name) r
  | '?' :: r =>
    match readFlags f false [] r with
    | some (f, _, ':', r) => some (.group f none r)
    | some (f, _ :: _, _, r) => some (.flags f r)
    | _ => none
  | r => some (.group f none r)

/-- A group being read. `items` has the elements of the last branch, the last one first; a change of flags is an
element that stands for nothing. -/
structure Progress where
  flags : Flags
  names : List (List Char)
  branches : List Pattern
  items : List (Option Pattern)

namespace Progress

def add (g : Progress) (p : Pattern) : Progress := { g with items := some p :: g.items }

def branch (g : Progress) : Pattern :=
  match g.items.reverse.filterMap id with
  | [p] => p
  | ps => .sequence ps

def nextBranch (g : Progress) : Progress := { g with branches := g.branch :: g.branches, items := [] }

def finished (g : Progress) : Pattern :=
  match g.branches with
  | [] => g.branch
  | bs => .choice (g.branch :: bs).reverse

def repeatLast (low : Nat) (high : Option Nat) (g : Progress) : Option Progress :=
  match g.items with
  | some p :: items => some { g with items := some (.times low high p) :: items }
  | _ => none

end Progress

def skipLazy : List Char → List Char
  | '?' :: r => r
  | r => r

def readGroup : Nat → Progress → List Char → Option (Pattern × List (List Char) × List Char)
  | 0, _, _ => none
  | fuel + 1, g, cs =>
    let f := g.flags
    match skip f.verbose cs with
    | [] => some (g.finished, g.names, [])
    | ')' :: r => some (g.finished, g.names, ')' :: r)
    | '|' :: r => readGroup fuel g.nextBranch r
    | '(' :: r => do
      match ← readOpening f r with
      | .flags f r => readGroup fuel { g with flags := f, items := none :: g.items } r
      | .group inner name r =>
        if name.any g.names.contains then none
        else match ← readGroup fuel ⟨inner, name.toList ++ g.names, [], []⟩ r with
          | (p, names, ')' :: r) => readGroup fuel { g with names := names, items := some (.group p) :: g.items } r
          | _ => none
    | '[' :: r => do
      let (b, rest) ← openBracket f r
      let (s, r) ← readBracket f fuel [] b rest
      readGroup fuel (g.add (.one s)) r
    | '?' :: r => do readGroup fuel (← g.repeatLast 0 (some 1)) (skipLazy r)
    | '*' :: r => do readGroup fuel (← g.repeatLast 0 none) (skipLazy r)
    | '+' :: r => do readGroup fuel (← g.repeatLast 1 none) (skipLazy r)
    | '\x7b' :: r => do
      let ((low, high), r) ← readRange f r
      readGroup fuel (← g.repeatLast low high) (skipLazy (skip f.verbose r))
    | '.' :: r => do readGroup fuel (g.add (.one (← f.dot?))) r
    | '^' :: r => readGroup fuel (g.add (.look (if f.multiLine then .lineStart f.returns else .textStart))) r
    | '$' :: r => readGroup fuel (g.add (.look (if f.multiLine then .lineEnd f.returns else .textEnd))) r
    | '\\' :: r => do
      let (a, r) ← readEscape f r
      readGroup fuel (g.add (← f.atom? a)) r
    | c :: r => do readGroup fuel (g.add (← f.atom? (.char c))) r

def depthLimit : Nat := 250

def weightLimit : Nat := 327680

def ofText? (s : String) : Option Pattern :=
  let cs := s.toList
  match readGroup (cs.length + 2) ⟨.plain, [], [], []⟩ cs with
  | some (p, _, []) => if p.depth ≤ depthLimit ∧ p.weight ≤ weightLimit then some p else none
  | _ => none

end AccessPolicy.Pattern
