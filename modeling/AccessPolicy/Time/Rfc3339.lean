import AccessPolicy.Time.Instant
import AccessPolicy.Time.Scan

namespace AccessPolicy

open Text (isBlank skipBlanks)

namespace Time

def year (cs : List Char) : Except TimeFault (Int × List Char) := do
  let (negative, ds, rest) ← match skipBlanks cs with
    | '-' :: r => (digits r.length r).map (true, ·)
    | '+' :: r => (digits r.length r).map (false, ·)
    | r => (digits 4 r).map (false, ·)
  let n : Int := Text.ofDigits ds
  let y := if negative then -n else n
  if y < Int32.minValue.toInt ∨ Int32.maxValue.toInt < y then .error .outOfRange else .ok (y, rest)

def separator : List Char → Except TimeFault (List Char)
  | [] => .error .premature
  | c :: cs => if c = 'T' ∨ c = 't' ∨ isBlank c then .ok cs else .error .invalidCharacters

def fraction : List Char → Except TimeFault (Nat × List Char)
  | '.' :: cs => do
    let (ds, _) ← digits 9 cs
    .ok (Text.ofDigits ds * Nat.pow 10 (9 - ds.length), cs.dropWhile Char.isDigit)
  | cs => .ok (0, cs)

def pair (cs : List Char) : Except TimeFault (Char × Char × List Char) :=
  match cs with
  | a :: b :: r => .ok (a, b, r)
  | _ => .error (if Text.utf8Length cs < 2 then .premature else .invalidCharacters)

def offsetMinutes (cs : List Char) : Except TimeFault (Nat × List Char) := do
  let (a, b, cs) ← pair cs
  if !a.isDigit || !b.isDigit then .error .invalidCharacters
  else
    let (c, d, cs) ← pair (cs.dropWhile fun c => c = ':' || isBlank c)
    if !c.isDigit || !d.isDigit then .error .invalidCharacters
    else if '6' ≤ c then .error .outOfRange
    else .ok (60 * Text.ofDigits [a, b] + Text.ofDigits [c, d], cs)

def offset (cs : List Char) : Except TimeFault (Int × List Char) :=
  match cs with
  | [] => .error .premature
  | c :: r =>
    if (cs.take 3).map Char.toLower = ['u', 't', 'c'] then .ok (0, cs.drop 3)
    else if c = 'Z' ∨ c = 'z' then .ok (0, r)
    else if c = '+' then (offsetMinutes r).map fun (n, r) => (60 * (n : Int), r)
    else if c = '-' ∨ c = '−' then (offsetMinutes r).map fun (n, r) => (-(60 * (n : Int)), r)
    else .error .invalidCharacters

end Time

namespace Timestamp

open Time

def firstYear : Int := -262143

def lastYear : Int := 262142

def inRange (y : Int) : Bool := firstYear ≤ y && y ≤ lastYear

/-- Date, time of day and offset must be possible each on its own before the moment is worked out. Second 60 makes
second 59 longer. -/
def ofParts (d : Date) (hour minute second nanos : Nat) (offset : Int) : Except TimeFault Timestamp :=
  if !inRange d.year || !d.isValid || offset ≤ -86400 || 86400 ≤ offset then .error .outOfRange
  else
    let s := d.toDay * 86400 + 3600 * hour + 60 * minute + min second 59 - offset
    let nanos := second / 60 * 1000000000 + nanos
    if inRange (Date.ofDay (s / 86400)).year then
      .ok ⟨⟨s, nanos % 2000000000, Nat.mod_lt _ (by decide)⟩, offset⟩
    else .error .impossible

def ofChars (cs : List Char) : Except TimeFault Timestamp := do
  let (y, cs) ← year cs
  let (month, cs) ← field 1 12 (← mark '-' (skipBlanks cs))
  let (day, cs) ← field 1 31 (← mark '-' (skipBlanks cs))
  let (h, cs) ← field 0 23 (← separator cs)
  let (m, cs) ← field 0 59 (← mark ':' (skipBlanks cs))
  let (s, cs) ← field 0 60 (← mark ':' (skipBlanks cs))
  let (n, cs) ← fraction cs
  let (z, cs) ← Time.offset (skipBlanks cs)
  if (skipBlanks cs).isEmpty then ofParts ⟨y, month, day⟩ h m s n z else .error .trailing

def ofText (s : String) : Except TimeFault Timestamp := ofChars s.toList

def padded (width : Nat) (ds : List Char) : List Char := List.replicate (width - ds.length) '0' ++ ds

def yearChars (y : Int) : List Char :=
  let ds := padded 4 (Nat.toDigits 10 y.natAbs)
  if y < 0 then '-' :: ds else if 9999 < y then '+' :: ds else ds

def fractionChars (n : Nat) : List Char :=
  let ds := padded 9 (Nat.toDigits 10 n)
  if n = 0 then []
  else if n % 1000000 = 0 then '.' :: ds.take 3
  else if n % 1000 = 0 then '.' :: ds.take 6
  else '.' :: ds

def offsetChars (z : Int) : List Char :=
  let minutes := (z.natAbs + 30) / 60
  (if z < 0 then '-' else '+') :: twoDigits (minutes / 60) ++ ':' :: twoDigits (minutes % 60)

/-- The second that is shown, from 0 to 60: a whole second among the nanoseconds is shown with the seconds. -/
def shownSecond (t : Timestamp) : Nat := t.second + t.instant.nanos / 1000000000

def localChars (t : Timestamp) : List Char :=
  let d := t.date
  yearChars d.year ++ '-' :: twoDigits d.month ++ '-' :: twoDigits d.day ++ 'T' :: twoDigits t.hour
    ++ ':' :: twoDigits t.minute ++ ':' :: twoDigits t.shownSecond ++ fractionChars (t.instant.nanos % 1000000000)

def text (t : Timestamp) : String := String.ofList (t.localChars ++ offsetChars t.offset)

def documentText (t : Timestamp) : String :=
  String.ofList (t.localChars ++ if t.offset = 0 then ['Z'] else offsetChars t.offset)

end Timestamp

namespace Instant

def ofText (s : String) : Except TimeFault Instant := (Timestamp.ofText s).map (·.instant)

def documentText (t : Instant) : String := Timestamp.documentText ⟨t, 0⟩

end Instant

end AccessPolicy
