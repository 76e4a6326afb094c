import AccessPolicy.Text.Basic

namespace AccessPolicy.Command

inductive Verb where
  | eval
  | check
  deriving DecidableEq, Repr

namespace Verb

def name : Verb → String
  | .eval => "eval"
  | .check => "check"

def all : List Verb := [.eval, .check]

def ofName? (s : String) : Option Verb := all.find? fun v => v.name == s

end Verb

inductive Topic where
  | program
  | verb (v : Verb)
  | help
  deriving DecidableEq, Repr

inductive Stop where
  | help (t : Topic)
  | version
  | misuse
  deriving DecidableEq, Repr

inductive Key where
  | config
  | context
  | policies
  | metrics
  | tenant
  | help
  | version
  deriving DecidableEq, Repr

namespace Key

def name : Key → String
  | .config => "config"
  | .context => "context"
  | .policies => "policies"
  | .metrics => "metrics"
  | .tenant => "tenant"
  | .help => "help"
  | .version => "version"

def letter : Key → Option Char
  | .help => some 'h'
  | .version => some 'V'
  | _ => none

def takesValue : Key → Bool
  | .config | .context | .policies | .tenant => true
  | .metrics | .help | .version => false

end Key

def tenant? (s : String) : Option UInt64 :=
  let digits := match s.toList with
    | '+' :: r => r
    | r => r
  let n := Text.ofDigits digits
  if !digits.isEmpty && digits.all Char.isDigit && n < UInt64.size then some (.ofNat n) else none

def Key.admits : Key → String → Bool
  | .config, s | .context, s | .policies, s => s != ""
  | .tenant, s => (tenant? s).isSome
  | _, _ => true

structure Grammar where
  topic : Topic
  keys : List Key
  hasVerb : Bool

namespace Grammar

def program : Grammar := ⟨.program, [.config, .help, .version], true⟩

def ofVerb : Verb → Grammar
  | .eval => ⟨.verb .eval, [.config, .context, .policies, .metrics, .help], false⟩
  | .check => ⟨.verb .check, [.config, .tenant, .policies, .help], false⟩

def isVerb (g : Grammar) (w : String) : Bool := g.hasVerb && (w == "help" || (Verb.ofName? w).isSome)

end Grammar

structure Reading where
  settled : List (Key × String)
  latest : Option (Key × Option String)

namespace Reading

def start : Reading := ⟨[], none⟩

def value? (r : Reading) (k : Key) : Option String := (r.settled.find? fun e => e.1 == k).map (·.2)

def has (r : Reading) (k : Key) : Bool := (r.value? k).isSome

def awaitsValue (r : Reading) : Bool := r.latest.any fun e => e.2.isNone

def enter (r : Reading) (k : Key) (v : String) : Except Stop Reading :=
  if r.has k || !k.admits v then .error .misuse else .ok ⟨r.settled ++ [(k, v)], none⟩

def settle (r : Reading) : Except Stop Reading :=
  match r.latest with
  | none => .ok r
  | some (_, none) => .error .misuse
  | some (k, some v) => r.enter k v

def take (g : Grammar) (r : Reading) (k : Key) (attached : Option String) : Except Stop Reading := do
  if attached.isSome && !k.takesValue then .error .misuse
  let r ← r.settle
  match attached, k with
  | some v, k => r.enter k v
  | none, .help => .error (.help g.topic)
  | none, .version => .error .version
  | none, k => if k.takesValue then .ok ⟨r.settled, some (k, none)⟩ else r.enter k ""

def takePlain (r : Reading) (w : String) : Except Stop Reading :=
  match r.latest with
  | some (k, none) => .ok ⟨r.settled, some (k, some w)⟩
  | _ => .error .misuse

def takeKey (g : Grammar) (r : Reading) (k : Option Key) (attached : Option String) : Except Stop Reading :=
  match k with
  | some k => r.take g k attached
  | none => .error .misuse

def takeWord (g : Grammar) (r : Reading) (w : String) : Except Stop Reading :=
  match w.toList with
  | '-' :: '-' :: cs =>
    let name := cs.takeWhile (· != '=')
    let attached := match cs.dropWhile (· != '=') with
      | [] => none
      | _ :: v => some (String.ofList v)
    r.takeKey g (g.keys.find? fun k => k.name.toList == name) attached
  | '-' :: c :: _ => r.takeKey g (g.keys.find? fun k => k.letter == some c) none
  | _ => r.takePlain w

def ofWords (g : Grammar) : Reading → List String → Except Stop (Reading × Option (String × List String))
  | r, [] => .ok (r, none)
  | r, w :: ws =>
    if !r.awaitsValue && g.isVerb w then .ok (r, some (w, ws))
    else if w == "--" then if ws.isEmpty then .ok (r, none) else .error .misuse
    else do ofWords g (← r.takeWord g w) ws

end Reading

inductive Action where
  | eval (context : String) (policies : Option String) (metrics : Bool)
  | check (tenant : UInt64) (policies : Option String)
  deriving DecidableEq, Repr

structure Invocation where
  config : Option String
  action : Action
  deriving DecidableEq, Repr

def Topic.ofWords : List String → Stop
  | [] => .help .program
  | [w] => match Verb.ofName? w with
    | some v => .help (.verb v)
    | none => if w == "help" then .help .help else .misuse
  | _ => .misuse

def Action.ofReading? (r : Reading) : Verb → Option Action
  | .eval => (r.value? .context).map fun c => .eval c (r.value? .policies) (r.has .metrics)
  | .check => ((r.value? .tenant).bind tenant?).map fun t => .check t (r.value? .policies)

namespace Invocation

def ofWords (ws : List String) : Except Stop Invocation := do
  let (before, rest) ← Reading.ofWords .program .start ws
  match rest with
  | none => .error .misuse
  | some (w, ws) =>
    match Verb.ofName? w with
    | none => .error (Topic.ofWords ws)
    | some v =>
      let (after, _) ← Reading.ofWords (.ofVerb v) .start ws
      let after ← after.settle
      match Action.ofReading? after v with
      | none => .error .misuse
      | some action =>
        let before ← before.settle
        return ⟨(after.value? .config).or (before.value? .config), action⟩

end Invocation

end AccessPolicy.Command
