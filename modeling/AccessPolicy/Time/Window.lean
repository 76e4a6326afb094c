import AccessPolicy.Text.Quoted
import AccessPolicy.Time.Clock
import AccessPolicy.Time.Zone

namespace AccessPolicy

/-- From `start` up to but not including `finish`; past midnight unless `start` comes first. Without days
the window is open on every day. -/
structure TimeWindow where
  start : Clock
  finish : Clock
  zone : Zone
  days : List Weekday
  deriving DecidableEq

structure WindowParts where
  start : String
  finish : String
  zone : String
  days : List Nat
  deriving DecidableEq, Repr

inductive WindowFault where
  | start (text : String) (fault : TimeFault)
  | finish (text : String) (fault : TimeFault)
  | zone (name : String)
  | day (number : Nat)
  deriving DecidableEq, Repr

def WindowFault.message : WindowFault → String
  | .start s f => "invalid time_window.start_time " ++ Text.quoted s ++ ": " ++ f.message
  | .finish s f => "invalid time_window.end_time " ++ Text.quoted s ++ ": " ++ f.message
  | .zone name => "invalid time_window.timezone " ++ Text.quoted name
  | .day n => "invalid time_window.days entry " ++ toString n ++ " (expected 0..=6)"

def Timestamp.compareClock (t : Timestamp) (c : Clock) : Ordering :=
  (compare (t.localSecond % 86400).toNat (60 * c.toMinutes)).then (compare t.instant.nanos.val 0)

namespace TimeWindow

def collectDays : List Weekday → List Nat → Except WindowFault (List Weekday)
  | seen, [] => .ok seen
  | seen, n :: ns =>
    match Weekday.ofNumber? n with
    | none => .error (.day n)
    | some d => collectDays (if d ∈ seen then seen else seen ++ [d]) ns

variable [ZoneDatabase]

def readZone (name : String) : Except WindowFault Zone :=
  let name := Text.trim name
  if name = "" then .ok ZoneDatabase.utc
  else match ZoneDatabase.ofName? name with
    | some z => .ok z
    | none => .error (.zone name)

def ofParts (p : WindowParts) : Except WindowFault TimeWindow := do
  let start ← (Clock.ofText p.start).mapError (.start p.start)
  let finish ← (Clock.ofText p.finish).mapError (.finish p.finish)
  let zone ← readZone p.zone
  let days ← collectDays [] p.days
  return ⟨start, finish, zone, days⟩

def parts (w : TimeWindow) : WindowParts :=
  ⟨w.start.text, w.finish.text, w.zone.name, w.days.map Weekday.number⟩

def contains (w : TimeWindow) (t : Instant) : Bool :=
  let l := w.zone.localTime t
  (w.days.isEmpty || w.days.contains l.weekday) &&
    if w.start.toMinutes < w.finish.toMinutes then l.compareClock w.start != .lt && l.compareClock w.finish == .lt
    else l.compareClock w.start != .lt || l.compareClock w.finish == .lt

end TimeWindow

end AccessPolicy
