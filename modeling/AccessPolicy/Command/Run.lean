import AccessPolicy.Command.Help
import AccessPolicy.Engine
import AccessPolicy.Log.Filter
import AccessPolicy.Settings.Decode
import AccessPolicy.Store

namespace AccessPolicy.Command

inductive FileFault where
  | missing
  | system (text : String) (number : Nat)
  deriving DecidableEq, Repr

def FileFault.message : FileFault → String
  | .missing => "No such file or directory (os error 2)"
  | .system text number => text ++ " (os error " ++ toString number ++ ")"

structure Failure where
  message : String
  cause : Option String
  deriving DecidableEq, Repr

namespace Failure

def ofFault (f : Fault) : Failure := ⟨f.message, none⟩

def lines (f : Failure) : List String :=
  ("Error: " ++ f.message) :: match f.cause with
    | none => []
    | some c => ["", "Caused by:", "    " ++ c]

end Failure

structure Outcome where
  exit : Nat
  out : String
  err : List String
  events : List Log.Event
  format : LogFormat

namespace Outcome

def stopped : Stop → Outcome
  | .help t => ⟨0, t.text, [], [], .pretty⟩
  | .version => ⟨0, versionText, [], [], .pretty⟩
  | .misuse => ⟨2, "", [], [], .pretty⟩

def failed (f : Failure) : Outcome := ⟨1, "", f.lines, [], .pretty⟩

end Outcome

inductive Task where
  | eval (records : List PolicyRecord) (request : Request) (metrics : Bool)
  | check (tenant : UInt64) (records : List PolicyRecord)

structure Plan where
  settings : Settings
  filter : Log.Filter
  task : Task

section Reading

variable {m : Type → Type} [Monad m] (read : String → m (Except FileFault String))

def orFail {α : Type} (r : Except Failure α) : ExceptT Failure m α := ExceptT.mk (pure r)

def fileText (path : String) (failure : FileFault → Failure) : ExceptT Failure m String :=
  ExceptT.mk do return (← read path).mapError failure

def settings (path : Option String) : ExceptT Failure m Settings :=
  match path with
  | none => return .standard
  | some path => do
    let loading (f : Fault) : Failure := ⟨"loading config " ++ path, some f.message⟩
    let s ← fileText read path fun f => loading (.internal ("read config " ++ path ++ " failed: " ++ f.message))
    orFail ((Settings.ofText s).mapError loading)

def logFilter (s : Settings) : Except Failure Log.Filter :=
  match Log.Filter.ofText? s.log.filter with
  | some f => .ok f
  | none => .error (.ofFault (.badRequest "invalid log.filter"))

def store (s : Settings) (path : Option String) : ExceptT Failure m Store :=
  match path.or s.store.policiesFile with
  | none => throw ⟨"no policy file: pass --policies or set store.policies_file", none⟩
  | some path => do
    let text ← fileText read path fun f =>
      .ofFault (.storeUnavailable ("read " ++ path ++ " failed: " ++ f.message))
    orFail ((Store.ofText text).mapError .ofFault)

def request (path : String) : ExceptT Failure m Request := do
  let text ← fileText read path fun f => ⟨"reading context " ++ path, some f.message⟩
  orFail ((Request.decode text).mapError fun f => ⟨"parsing policy context", some f.message⟩)

def task (s : Settings) : Action → ExceptT Failure m Task
  | .eval context policies metrics => do
    let store ← store read s policies
    let r ← request read context
    return .eval (store.enabled r.tenant) r metrics
  | .check tenant policies => do
    let store ← store read s policies
    return .check tenant (store.enabled tenant)

def plan (i : Invocation) : ExceptT Failure m Plan := do
  let s ← settings read i.config
  let f ← orFail (logFilter s)
  return ⟨s, f, ← task read s i.action⟩

end Reading

def policyLine (p : Policy) : String :=
  let priority := toString p.priority.toInt
  let kind := p.kind.name
  "".pushn ' ' (6 - priority.length) ++ priority ++ "  " ++ kind.pushn ' ' (11 - kind.length) ++ "  " ++ p.name

variable [ZoneDatabase]

def Outcome.ofEvaluation (s : Settings) (f : Log.Filter) (records : List PolicyRecord) (r : Request) (metrics : Bool)
    (took : Span) : Outcome :=
  let (evaluation, engine) := (Engine.ofSettings s.engine s.engine.audit).evaluate 0 took (.records records) r
  match evaluation.result with
  | .error fault => .failed (.ofFault fault)
  | .ok d => {
      exit := 0
      out := d.toJson.pretty ++ "\n"
      err := if metrics then engine.metrics.lines else []
      events := (engine.takeAudit.1.map AuditRecord.event).filter f.passes
      format := s.log.format }

def Outcome.ofCheck (s : Settings) (tenant : UInt64) (records : List PolicyRecord) : Outcome :=
  let c := Compiled.ofRecords records
  let count := c.rejected.length
  let failure : Failure :=
    ⟨toString count ++ " malformed policies for tenant " ++ toString tenant.toNat, none⟩
  { exit := if count = 0 then 0 else 1
    out := String.join (c.policies.map fun p => policyLine p ++ "\n")
    err := c.rejected.map Fault.message ++ if count = 0 then [] else failure.lines
    events := []
    format := s.log.format }

def Plan.outcome (p : Plan) (took : Span) : Outcome :=
  match p.task with
  | .eval records r metrics => .ofEvaluation p.settings p.filter records r metrics took
  | .check tenant records => .ofCheck p.settings tenant records

def run {m : Type → Type} [Monad m] (read : String → m (Except FileFault String)) (ws : List String) :
    m (Span → Outcome) :=
  match Invocation.ofWords ws with
  | .error stop => return fun _ => .stopped stop
  | .ok i => do
    match ← (plan read i).run with
    | .error f => return fun _ => .failed f
    | .ok p => return p.outcome

end AccessPolicy.Command
