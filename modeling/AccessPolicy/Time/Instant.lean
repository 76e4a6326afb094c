import AccessPolicy.Time.Calendar

namespace AccessPolicy

/-- A moment: seconds from the start of 1970, and nanoseconds in the second. A leap second makes the second before it
longer, so that the nanoseconds go on to two whole seconds. -/
structure Instant where
  second : Int
  nanos : Fin 2000000000
  deriving DecidableEq, Repr

namespace Instant

def epoch : Instant := ⟨0, 0⟩

instance : Inhabited Instant := ⟨epoch⟩

def compare (a b : Instant) : Ordering :=
  (Ord.compare a.second b.second).then (Ord.compare a.nanos.val b.nanos.val)

instance : Std.TransCmp compare :=
  inferInstanceAs (Std.TransCmp (compareLex (compareOn second) (compareOn fun t : Instant => t.nanos.val)))

theorem compare_eq_iff_eq {a b : Instant} : a.compare b = .eq ↔ a = b := by
  obtain ⟨second, nanos⟩ := a
  obtain ⟨second', nanos'⟩ := b
  simp [compare, Ordering.then_eq_eq, Std.LawfulEqCmp.compare_eq_iff_eq, Fin.val_inj]

end Instant

structure Timestamp where
  instant : Instant
  offset : Int
  deriving DecidableEq, Repr

namespace Timestamp

instance : Inhabited Timestamp := ⟨⟨default, 0⟩⟩

def localSecond (t : Timestamp) : Int := t.instant.second + t.offset

def date (t : Timestamp) : Date := .ofDay (t.localSecond / 86400)

def hour (t : Timestamp) : Nat := (t.localSecond % 86400 / 3600).toNat

def minute (t : Timestamp) : Nat := (t.localSecond % 3600 / 60).toNat

def second (t : Timestamp) : Nat := (t.localSecond % 60).toNat

def weekday (t : Timestamp) : Weekday := .ofDay (t.localSecond / 86400)

end Timestamp

end AccessPolicy
