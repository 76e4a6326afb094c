import AccessPolicy.Json.Node
import AccessPolicy.Text.Basic

namespace AccessPolicy.Json

def isBlank (c : Char) : Bool := c == ' ' || c == '\n' || c == '\t' || c == '\r'

def skipBlanks (cs : List Char) : List Char := cs.dropWhile isBlank

structure Reading (α : Type) where
  value : α
  rest : Option (List Char)

inductive Piece where
  | char (c : Char)
  | code (n : Nat)
  deriving DecidableEq

def hexValue? (c : Char) : Option Nat :=
  if c.isDigit then some (c.toNat - 48)
  else if 'a' ≤ c ∧ c ≤ 'f' then some (c.toNat - 87)
  else if 'A' ≤ c ∧ c ≤ 'F' then some (c.toNat - 55)
  else none

def hexCode? (a b c d : Char) : Option Nat := do
  let a ← hexValue? a
  let b ← hexValue? b
  let c ← hexValue? c
  let d ← hexValue? d
  return a * 4096 + b * 256 + c * 16 + d

def escape? : Char → Option Char
  | '"' => some '"'
  | '\\' => some '\\'
  | '/' => some '/'
  | 'b' => some '\x08'
  | 'f' => some '\x0c'
  | 'n' => some '\n'
  | 'r' => some '\r'
  | 't' => some '\t'
  | _ => none

abbrev TextEnd := Except Break (List Char)

def pieces : List Char → List Piece × TextEnd
  | [] => ([], .error .ended)
  | '"' :: r => ([], .ok r)
  | '\\' :: 'u' :: a :: b :: c :: d :: r =>
    match hexCode? a b c d with
    | some n => let p := pieces r; (.code n :: p.1, p.2)
    | none => ([], .error .malformed)
  | '\\' :: 'u' :: r => ([], .error (if Text.utf8Length r < 4 then .ended else .malformed))
  | ['\\'] => ([], .error .ended)
  | '\\' :: e :: r =>
    match escape? e with
    | some c => let p := pieces r; (.char c :: p.1, p.2)
    | none => ([], .error .malformed)
  | c :: r => if c.toNat < 32 then ([], .error .malformed) else let p := pieces r; (.char c :: p.1, p.2)

def isLeading (n : Nat) : Bool := 0xD800 ≤ n && n < 0xDC00

def isTrailing (n : Nat) : Bool := 0xDC00 ≤ n && n < 0xE000

def join? : List Piece → Option (List Char)
  | [] => some []
  | .char c :: ps => (join? ps).map (c :: ·)
  | .code n :: ps =>
    if isTrailing n then none
    else if isLeading n then
      match ps with
      | .code m :: ps' =>
        if isTrailing m then
          (join? ps').map (Char.ofNat (0x10000 + (n - 0xD800) * 1024 + (m - 0xDC00)) :: ·)
        else none
      | _ => none
    else (join? ps).map (Char.ofNat n :: ·)

def endsLeading (ps : List Piece) : Bool :=
  match ps.getLast? with
  | some (.code n) => isLeading n
  | _ => false

def readText (cs : List Char) : Reading Node :=
  let (ps, stop) := pieces cs
  match join? ps, stop with
  | some s, .ok r => ⟨.text (String.ofList s), some r⟩
  | some _, .error b => ⟨.broken b, none⟩
  | none, .ok r => ⟨.unpairedText none, some r⟩
  | none, .error b =>
    if endsLeading ps && (join? ps.dropLast).isSome then ⟨.broken b, none⟩ else ⟨.unpairedText (some b), none⟩

def readPower (n : Numeral) (cs : List Char) : Reading Node :=
  let digits (negative : Bool) (r : List Char) : Reading Node :=
    match r.takeWhile Char.isDigit, r.dropWhile Char.isDigit with
    | [], [] => ⟨.cutNumeral, none⟩
    | [], _ => ⟨.broken .malformed, none⟩
    | ds, rest => ⟨.number { n with power := some (negative, ds) }, some rest⟩
  let signed (r : List Char) : Reading Node :=
    match r with
    | '+' :: r => digits false r
    | '-' :: r => digits true r
    | r => digits false r
  match cs with
  | 'e' :: r => signed r
  | 'E' :: r => signed r
  | r => ⟨.number n, some r⟩

def readNumeral (negative : Bool) (cs : List Char) : Reading Node :=
  match cs.takeWhile Char.isDigit, cs.dropWhile Char.isDigit with
  | [], [] => ⟨.cutNumeral, none⟩
  | [], _ => ⟨.broken .malformed, none⟩
  | '0' :: _ :: _, _ => ⟨.broken .malformed, none⟩
  | whole, '.' :: r =>
    match r.takeWhile Char.isDigit, r.dropWhile Char.isDigit with
    | [], [] => ⟨.cutNumeral, none⟩
    | [], _ => ⟨.broken .malformed, none⟩
    | fraction, rest => readPower ⟨negative, whole, fraction, none⟩ rest
  | whole, r => readPower ⟨negative, whole, [], none⟩ r

def readWord (v : Node) : List Char → List Char → Reading Node
  | [], cs => ⟨v, some cs⟩
  | _ :: _, [] => ⟨.cutWord, none⟩
  | w :: ws, c :: cs => if w = c then readWord v ws cs else ⟨.broken .malformed, none⟩

mutual

def readValue : Nat → List Char → Reading Node
  | 0, _ => ⟨.broken .malformed, none⟩
  | fuel + 1, cs =>
    match skipBlanks cs with
    | [] => ⟨.broken .ended, none⟩
    | '"' :: r => readText r
    | '-' :: r => readNumeral true r
    | 'n' :: r => readWord .null "ull".toList r
    | 't' :: r => readWord (.bool true) "rue".toList r
    | 'f' :: r => readWord (.bool false) "alse".toList r
    | '[' :: r =>
      match skipBlanks r with
      | [] => ⟨.array [] (some .ended), none⟩
      | ']' :: r => ⟨.array [] none, some r⟩
      | r => let t := readItems fuel r; ⟨.array t.value.1 t.value.2, t.rest⟩
    | '\x7b' :: r =>
      match skipBlanks r with
      | [] => ⟨.object [] (some .ended), none⟩
      | '\x7d' :: r => ⟨.object [] none, some r⟩
      | '"' :: r => let t := readMembers fuel r; ⟨.object t.value.1 t.value.2, t.rest⟩
      | _ => ⟨.object [] (some .malformed), none⟩
    | c :: r => if c.isDigit then readNumeral false (c :: r) else ⟨.broken .malformed, none⟩

def readItems : Nat → List Char → Reading (List Node × Option Break)
  | 0, _ => ⟨([], some .malformed), none⟩
  | fuel + 1, cs =>
    let v := readValue fuel cs
    match v.rest with
    | none => ⟨([v.value], none), none⟩
    | some r =>
      match skipBlanks r with
      | [] => ⟨([v.value], some .ended), none⟩
      | ']' :: r => ⟨([v.value], none), some r⟩
      | ',' :: r => let t := readItems fuel r; ⟨(v.value :: t.value.1, t.value.2), t.rest⟩
      | _ => ⟨([v.value], some .malformed), none⟩

def readMembers : Nat → List Char → Reading (List (Option String × Node) × Option Break)
  | 0, _ => ⟨([], some .malformed), none⟩
  | fuel + 1, cs =>
    let after (name : Option String) (r : List Char) : Reading (List (Option String × Node) × Option Break) :=
      match skipBlanks r with
      | [] => ⟨([(name, .broken .ended)], none), none⟩
      | ':' :: r =>
        let v := readValue fuel r
        match v.rest with
        | none => ⟨([(name, v.value)], none), none⟩
        | some r =>
          match skipBlanks r with
          | [] => ⟨([(name, v.value)], some .ended), none⟩
          | '\x7d' :: r => ⟨([(name, v.value)], none), some r⟩
          | ',' :: r =>
            match skipBlanks r with
            | [] => ⟨([(name, v.value)], some .ended), none⟩
            | '"' :: r => let t := readMembers fuel r; ⟨((name, v.value) :: t.value.1, t.value.2), t.rest⟩
            | _ => ⟨([(name, v.value)], some .malformed), none⟩
          | _ => ⟨([(name, v.value)], some .malformed), none⟩
      | _ => ⟨([(name, .broken .malformed)], none), none⟩
    match readText cs with
    | ⟨.text s, some r⟩ => after (some s) r
    | ⟨.unpairedText none, some r⟩ => after none r
    | ⟨.unpairedText (some b), _⟩ => ⟨([(none, .broken b)], none), none⟩
    | ⟨.broken b, _⟩ => ⟨([], some b), none⟩
    | _ => ⟨([], some .malformed), none⟩

end

def readChars (cs : List Char) : Document :=
  let v := readValue (2 * cs.length + 2) cs
  ⟨v.value, v.rest.bind fun r => if (skipBlanks r).isEmpty then none else some .malformed⟩

def read (s : String) : Document := readChars s.toList

end AccessPolicy.Json
