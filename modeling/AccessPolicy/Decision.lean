import AccessPolicy.Policy.Effect

namespace AccessPolicy

structure Decision where
  allow : Bool
  reason : String
  triggered : List String
  metadata : Entries Value
  quota : Option Quota
  rateLimit : Option RateLimit
  window : Option TimeWindow

namespace Decision

def stating (allow : Bool) (reason : String) : Decision := ⟨allow, reason, [], .empty, none, none, none⟩

def unopposed : Decision := stating true "No applicable policies found"

def deniedBy (policy : String) : Decision := stating false ("Denied by policy: " ++ policy)

instance : Inhabited Decision := ⟨unopposed⟩

/-- Takes up the effect of a conditional policy at a moment. Outside its time window the effect only turns the
decision against the request; otherwise its hints replace earlier ones, and so do its entries. -/
def apply [ZoneDatabase] (d : Decision) (e : Effect) (t : Instant) : Decision :=
  if e.window.any (!·.contains t) then { d with allow := false, reason := "Outside allowed time window" }
  else { d with
    window := e.window <|> d.window
    quota := e.quota <|> d.quota
    rateLimit := e.rateLimit <|> d.rateLimit
    metadata := .merge d.metadata.toList ((e.metadata.getD .empty).toList) }

section Documents

open Json

section Reading

variable [ZoneDatabase]

def fields : List (Field Node Decision) := [
  .needed "allow" Decoder.bool fun b d => { d with allow := b },
  .needed "reason" Decoder.text fun s d => { d with reason := s },
  .optional "triggered_conditions" (Decoder.list Decoder.text) fun ns d => { d with triggered := ns },
  .optional "metadata" (Value.entries (Value.depthLimit - 1)) fun es d => { d with metadata := es },
  .optional "quota" (Decoder.option Quota.decoder) fun q d => { d with quota := q },
  .optional "rate_limit" (Decoder.option RateLimit.decoder) fun l d => { d with rateLimit := l },
  .optional "time_window" (Decoder.option TimeWindow.decoder) fun w d => { d with window := w }
]

def decoder : Decoder Decision := record (stating false "") fields

def decode (s : String) : Except DecodeFault Decision := Json.decode decoder s

end Reading

def toJson (d : Decision) : Json := .object <|
  [("allow", .bool d.allow), ("reason", .text d.reason)]
    ++ (if d.triggered.isEmpty then [] else [("triggered_conditions", .array (d.triggered.map .text))])
    ++ (if d.metadata.toList.isEmpty then [] else [("metadata", .object (Value.entriesToJson d.metadata.toList))])
    ++ Effect.member "quota" Quota.toJson d.quota
    ++ Effect.member "rate_limit" RateLimit.toJson d.rateLimit
    ++ Effect.member "time_window" TimeWindow.toJson d.window

end Documents

end Decision

end AccessPolicy
