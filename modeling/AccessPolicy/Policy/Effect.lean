import AccessPolicy.Json.Record
import AccessPolicy.Time.Span
import AccessPolicy.Value.Decode

namespace AccessPolicy

inductive Period where
  | daily
  | monthly
  | yearly
  | other (name : String)
  deriving DecidableEq, Repr

namespace Period

def ofName : String → Period
  | "daily" => .daily
  | "monthly" => .monthly
  | "yearly" => .yearly
  | name => .other name

def name : Period → String
  | .daily => "daily"
  | .monthly => "monthly"
  | .yearly => "yearly"
  | .other name => name

theorem name_ofName (s : String) : (ofName s).name = s := by
  unfold ofName
  split <;> rfl

end Period

structure Quota where
  resource : String
  limit : Int64
  period : Period
  unit : String
  deriving DecidableEq

structure RateLimit where
  requests : Int64
  window : Span
  deriving DecidableEq

structure Effect where
  allow : Bool
  reason : String
  quota : Option Quota
  rateLimit : Option RateLimit
  window : Option TimeWindow
  metadata : Option (Entries Value)

open Json

namespace Quota

def blank : Quota := ⟨"", 0, .other "", ""⟩

def fields : List (Field Node Quota) := [
  .optional "resource" Decoder.text fun s q => { q with resource := s },
  .optional "limit" Decoder.int64 fun i q => { q with limit := i },
  .optional "period" (Decoder.option Decoder.text) fun s q => { q with period := .ofName (s.getD "") },
  .optional "unit" Decoder.text fun s q => { q with unit := s }
]

def decoder : Decoder Quota := record blank fields

def toJson (q : Quota) : Json := .object [
  ("resource", .text q.resource),
  ("limit", .int q.limit.toInt),
  ("period", .text q.period.name),
  ("unit", .text q.unit)
]

end Quota

namespace RateLimit

def blank : RateLimit := ⟨0, ⟨0⟩⟩

def fields : List (Field Node RateLimit) := [
  .optional "requests" Decoder.int64 fun i l => { l with requests := i },
  -- a count below zero is read as zero
  .optional "window" Decoder.int64 fun i l => { l with window := ⟨i.toInt.toNat⟩ }
]

def decoder : Decoder RateLimit := record blank fields

def toJson (l : RateLimit) : Json := .object [
  ("requests", .int l.requests.toInt),
  -- a window too long for 64 bits is written as the longest that is not
  ("window", .int (min l.window.nanos (UInt64.size - 1)))
]

end RateLimit

namespace TimeWindow

def partFields : List (Field Node WindowParts) := [
  .needed "start_time" Decoder.text fun s p => { p with start := s },
  .needed "end_time" Decoder.text fun s p => { p with finish := s },
  .optional "timezone" Decoder.text fun s p => { p with zone := s },
  .optional "days" (Decoder.list Decoder.byte) fun ns p => { p with days := ns }
]

def decoder [ZoneDatabase] (n : Node) : Except DecodeFault TimeWindow := do
  (ofParts (← record ⟨"", "", "", []⟩ partFields n)).mapError .window

def toJson (w : TimeWindow) : Json :=
  let p := w.parts
  .object [
    ("start_time", .text p.start),
    ("end_time", .text p.finish),
    ("timezone", .text p.zone),
    ("days", .array (p.days.map fun (n : Nat) => .int n))
  ]

end TimeWindow

namespace Effect

def blank : Effect := ⟨false, "", none, none, none, none⟩

instance : Inhabited Effect := ⟨blank⟩

def permissive : Effect := { blank with allow := true }

section Reading

variable [ZoneDatabase]

def fields : List (Field Node Effect) := [
  .optional "allow" Decoder.bool fun b e => { e with allow := b },
  .optional "reason" Decoder.text fun s e => { e with reason := s },
  .optional "quota" (Decoder.option Quota.decoder) fun q e => { e with quota := q },
  .optional "rate_limit" (Decoder.option RateLimit.decoder) fun l e => { e with rateLimit := l },
  .optional "time_window" (Decoder.option TimeWindow.decoder) fun w e => { e with window := w },
  .optional "metadata" (Decoder.option (Value.entries (Value.depthLimit - 1))) fun es e => { e with metadata := es }
]

def decoder : Decoder Effect := record blank fields

def decode (s : String) : Except DecodeFault Effect := decodeBlob decoder permissive blank s

end Reading

def member {α : Type} (name : String) (f : α → Json) : Option α → List (String × Json)
  | some a => [(name, f a)]
  | none => []

def toJson (e : Effect) : Json := .object <|
  [("allow", .bool e.allow), ("reason", .text e.reason)]
    ++ member "quota" Quota.toJson e.quota
    ++ member "rate_limit" RateLimit.toJson e.rateLimit
    ++ member "time_window" TimeWindow.toJson e.window
    ++ member "metadata" (fun es => .object (Value.entriesToJson es.toList)) e.metadata

end Effect

end AccessPolicy
