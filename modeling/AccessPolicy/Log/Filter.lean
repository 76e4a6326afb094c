import AccessPolicy.Log.Event
import AccessPolicy.Pattern.Reader
import AccessPolicy.Text.Blank
import AccessPolicy.Text.Category

namespace AccessPolicy.Log

abbrev Threshold := Option Severity

namespace Threshold

def admits (t : Threshold) (s : Severity) : Bool := t.any fun u => s.rank ≤ u.rank

def ofRank? (n : Nat) : Option Threshold :=
  if n = 0 then some none else (Severity.all.find? fun s => s.rank == n).map some

def ofName? (cs : List Char) : Option Threshold :=
  let name := cs.map Char.toUpper
  if name == "OFF".toList then some none
  else (Severity.all.find? fun s => s.name.toList == name).map some

def ofChars? (cs : List Char) : Option Threshold :=
  let digits := match cs with
    | '+' :: r => r
    | r => r
  if !digits.isEmpty && digits.all Char.isDigit then ofRank? (Text.ofDigits digits) else ofName? cs

end Threshold

structure Directive where
  target : List Char
  span : Option (List Char)
  field : Option (List Char × Option (List Char))
  threshold : Threshold
  deriving DecidableEq

namespace Directive

def fieldName (d : Directive) : List Char := (d.field.map Prod.fst).getD []

def isStatic (d : Directive) : Bool := d.span.isNone && d.field.all fun f => f.2.isNone

def concerns (d : Directive) (e : Event) : Bool :=
  d.isStatic && d.target.isPrefixOf e.target.toList && d.field.all fun f => e.has (String.ofList f.1)

def outranks (d c : Directive) : Bool :=
  let m := Text.utf8Length d.target
  let n := Text.utf8Length c.target
  n < m || (m == n && (c.field.isNone && d.field.isSome
    || (c.field.isSome == d.field.isSome && decide (c.fieldName < d.fieldName))))

def isFieldValue (cs : List Char) : Bool :=
  let s := String.ofList cs
  (Binary64.ofText? s).isSome || (Pattern.ofText? s).isSome

def field? (cs : List Char) : Option (List Char × Option (List Char)) :=
  match Text.splitOn '=' cs with
  | name :: value :: _ => if isFieldValue value then some (name, some value) else none
  | _ => some (cs, none)

def threshold? : List Char → Option Threshold
  | [] => some (some .trace)
  | ['='] => some (some .trace)
  | '=' :: cs => Threshold.ofChars? cs
  | _ => none

def afterBracket? (target cs : List Char) : Option Directive := do
  let plain (c : Char) : Bool := c != ']' && c != '\x7b'
  let name := cs.takeWhile plain
  match cs.dropWhile plain with
  | ']' :: r => return ⟨target, some name, none, ← threshold? r⟩
  | '\x7b' :: r =>
    let inside := r.takeWhile (· != '\x7d')
    match inside, r.dropWhile (· != '\x7d') with
    | [], _ => none
    | _, '\x7d' :: ']' :: r =>
      return ⟨target, if name.isEmpty then none else some name, some (← field? inside), ← threshold? r⟩
    | _, _ => none
  | _ => none

def isOpening (c : Char) : Bool := c == '-' || c == ':' || c == '_' || Text.isAlphanumeric c

def ofChars? (cs : List Char) : Option Directive :=
  let cs := Text.trimChars cs
  let plain (c : Char) : Bool := c != '=' && c != '['
  match cs with
  | [] => none
  | '[' :: r => afterBracket? [] r
  | c :: _ =>
    if !isOpening c then none
    else
      let target := cs.takeWhile plain
      match cs.dropWhile plain with
      | '[' :: r => afterBracket? target r
      | [] => match Threshold.ofChars? cs with
        | some t => some ⟨[], none, none, t⟩
        | none => some ⟨cs, none, none, some .trace⟩
      | r => (threshold? r).map fun t => ⟨target, none, none, t⟩

end Directive

structure Filter where
  directives : List Directive
  deriving DecidableEq

namespace Filter

def ofText? (s : String) : Option Filter :=
  (((Text.splitOn ',' s.toList).filter (!·.isEmpty)).mapM Directive.ofChars?).map Filter.mk

-- of rules that are equally specific the last counts
def mostSpecific : List Directive → Option Directive
  | [] => none
  | d :: ds => match mostSpecific ds with
    | some c => if d.outranks c then some d else some c
    | none => some d

def passes (f : Filter) (e : Event) : Bool :=
  (mostSpecific (f.directives.filter (·.concerns e))).any fun d => d.threshold.admits e.severity

end Filter

end AccessPolicy.Log
