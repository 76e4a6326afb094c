import AccessPolicy.Pattern.CharSet

namespace AccessPolicy

namespace Pattern

inductive Look where
  | textStart
  | textEnd
  | lineStart (returns : Bool)
  | lineEnd (returns : Bool)
  | boundary (ascii : Bool)
  | noBoundary (ascii : Bool)
  | wordStart (ascii : Bool)
  | wordEnd (ascii : Bool)
  | wordStartHalf (ascii : Bool)
  | wordEndHalf (ascii : Bool)
  deriving DecidableEq, Repr

def isWord (ascii : Bool) : Option Char → Bool
  | some c => (if ascii then CharSet.asciiWord else CharSet.word).contains c.toNat
  | none => false

namespace Look

def holds (before after : Option Char) : Look → Bool
  | .textStart => before.isNone
  | .textEnd => after.isNone
  | .lineStart false => before.isNone || before == some '\n'
  | .lineStart true => before.isNone || before == some '\n' || (before == some '\r' && after != some '\n')
  | .lineEnd false => after.isNone || after == some '\n'
  | .lineEnd true => after.isNone || after == some '\r' || (after == some '\n' && before != some '\r')
  | .boundary a => isWord a before != isWord a after
  | .noBoundary a => isWord a before == isWord a after
  | .wordStart a => !isWord a before && isWord a after
  | .wordEnd a => isWord a before && !isWord a after
  | .wordStartHalf a => !isWord a before
  | .wordEndHalf a => !isWord a after

end Look

end Pattern

inductive Pattern where
  | one (s : Pattern.CharSet)
  | look (l : Pattern.Look)
  | sequence (ps : List Pattern)
  | choice (ps : List Pattern)
  | group (p : Pattern)
  | times (low : Nat) (high : Option Nat) (p : Pattern)
  deriving Repr

namespace Pattern

def join (xs ys : List Nat) : List Nat := xs ++ ys.filter (!xs.contains ·)

def iterate (step : List Nat → List Nat) : Nat → List Nat → List Nat
  | 0, ps => ps
  | n + 1, ps => if ps.isEmpty then [] else iterate step n (step ps)

def upTo (step : List Nat → List Nat) : Nat → List Nat → List Nat
  | 0, ps => ps
  | n + 1, ps =>
    let more := join ps (step ps)
    if more.length = ps.length then ps else upTo step n more

mutual

def ends (text : Array Char) : Pattern → List Nat → List Nat
  | .one s, ps => ps.filterMap fun i =>
    match text[i]? with
    | some c => if s.contains c.toNat then some (i + 1) else none
    | none => none
  | .look l, ps => ps.filter fun i => l.holds (if i = 0 then none else text[i - 1]?) text[i]?
  | .sequence qs, ps => endsAll text qs ps
  | .choice qs, ps => endsAny text qs ps
  | .group p, ps => ends text p ps
  | .times low high p, ps =>
    let first := iterate (fun ps => (ends text p ps).eraseDups) low ps
    match high with
    | none => upTo (ends text p) (text.size + 1) first
    | some high => upTo (ends text p) (high - low) first

def endsAll (text : Array Char) : List Pattern → List Nat → List Nat
  | [], ps => ps
  | q :: qs, ps => endsAll text qs (ends text q ps)

def endsAny (text : Array Char) : List Pattern → List Nat → List Nat
  | [], _ => []
  | q :: qs, ps => join (ends text q ps) (endsAny text qs ps)

end

def isFoundIn (p : Pattern) (s : String) : Bool :=
  let text := s.toList.toArray
  !(ends text p (List.range (text.size + 1))).isEmpty

mutual

def depth : Pattern → Nat
  | .one _ => 0
  | .look _ => 0
  | .sequence ps => depths ps + 1
  | .choice ps => depths ps + 1
  | .group p => depth p + 1
  | .times _ _ p => depth p + 1

def depths : List Pattern → Nat
  | [] => 0
  | p :: ps => max (depth p) (depths ps)

end

mutual

def weight : Pattern → Nat
  | .one s => s.weight
  | .look _ => 1
  | .sequence ps => weights ps
  | .choice ps => weights ps + 1
  | .group p => weight p + 2
  | .times low high p => (weight p + 1) * max 1 (max low (high.getD 1))

def weights : List Pattern → Nat
  | [] => 0
  | p :: ps => weight p + weights ps

end

end Pattern

end AccessPolicy
