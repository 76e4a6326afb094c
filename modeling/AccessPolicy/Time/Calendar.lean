namespace AccessPolicy

structure Date where
  year : Int
  month : Nat
  day : Nat
  deriving DecidableEq, Repr

namespace Date

def isLeapYear (y : Int) : Bool := y % 4 == 0 && (y % 100 != 0 || y % 400 == 0)

def monthLengths (leap : Bool) : List Nat :=
  [31, if leap then 29 else 28, 31, 30, 31, 30, 31, 31, 30, 31, 30, 31]

def isValid (d : Date) : Bool :=
  1 ≤ d.month && 1 ≤ d.day && d.day ≤ ((monthLengths (isLeapYear d.year))[d.month - 1]?).getD 0

def daysBeforeYear (y : Int) : Int := 365 * (y - 1) + (y - 1) / 4 - (y - 1) / 100 + (y - 1) / 400

def daysBefore1970 : Int := 719162

def toDay (d : Date) : Int :=
  let earlier : Nat := ((monthLengths (isLeapYear d.year)).take (d.month - 1)).foldl (· + ·) 0
  daysBeforeYear d.year - daysBefore1970 + earlier + d.day - 1

def yearOf (n : Int) : Int :=
  let y := n * 400 / 146097 + 1
  if n < daysBeforeYear y then y - 1
  else if daysBeforeYear (y + 1) ≤ n then y + 1
  else y

def walkMonths (m n : Nat) : List Nat → Nat × Nat
  | [] => (m, n + 1)
  | l :: ls => if n < l then (m, n + 1) else walkMonths (m + 1) (n - l) ls

def ofDay (n : Int) : Date :=
  let y := yearOf (n + daysBefore1970)
  let (m, d) := walkMonths 1 (n + daysBefore1970 - daysBeforeYear y).toNat (monthLengths (isLeapYear y))
  ⟨y, m, d⟩

end Date

inductive Weekday where
  | sunday
  | monday
  | tuesday
  | wednesday
  | thursday
  | friday
  | saturday
  deriving DecidableEq, Repr

namespace Weekday

def all : List Weekday := [.sunday, .monday, .tuesday, .wednesday, .thursday, .friday, .saturday]

def ofNumber? (n : Nat) : Option Weekday := all[n]?

def number : Weekday → Nat
  | .sunday => 0
  | .monday => 1
  | .tuesday => 2
  | .wednesday => 3
  | .thursday => 4
  | .friday => 5
  | .saturday => 6

def ofDay (n : Int) : Weekday := (ofNumber? ((n + 4) % 7).toNat).getD .sunday

theorem ofNumber?_number (d : Weekday) : ofNumber? d.number = some d := by
  cases d <;> rfl

theorem number_of_ofNumber? {n : Nat} {d : Weekday} (h : ofNumber? n = some d) : d.number = n := by
  have hn : n < 7 := by
    rw [ofNumber?, List.getElem?_eq_some_iff] at h
    exact h.1
  match n, hn with
  | 0, _ | 1, _ | 2, _ | 3, _ | 4, _ | 5, _ | 6, _ => cases h; rfl

end Weekday

end AccessPolicy
