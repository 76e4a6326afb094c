import AccessPolicy.Text.Blank
import AccessPolicy.Time.Instant

namespace AccessPolicy

structure Zone where
  name : String
  deriving DecidableEq, Repr

class ZoneDatabase where
  utc : Zone
  ofName? : String → Option Zone
  ahead : Zone → Instant → Int
  ofName?_utc : ofName? utc.name = some utc
  ofName?_name {name : String} {z : Zone} : ofName? name = some z → ofName? z.name = some z
  trim_name {z : Zone} : ofName? z.name = some z → Text.trim z.name = z.name
  name_ne_empty {z : Zone} : ofName? z.name = some z → z.name ≠ ""

namespace Zone

variable [ZoneDatabase]

def localTime (z : Zone) (t : Instant) : Timestamp := ⟨t, ZoneDatabase.ahead z t⟩

def IsKnown (z : Zone) : Prop := ZoneDatabase.ofName? z.name = some z

end Zone

end AccessPolicy
