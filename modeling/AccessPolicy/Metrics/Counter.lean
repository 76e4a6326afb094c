import AccessPolicy.Metrics.Labels
import AccessPolicy.Table

namespace AccessPolicy.Metrics

structure Counter where
  values : Table Labels UInt64
  deriving DecidableEq

namespace Counter

def empty : Counter := ⟨[]⟩

def get (c : Counter) (ls : Labels) : UInt64 := (c.values.get? ls.sorted).getD 0

def add (c : Counter) (ls : Labels) (n : UInt64) : Counter := ⟨c.values.set ls.sorted (c.get ls + n)⟩

def increment (c : Counter) (ls : Labels) : Counter := c.add ls 1

def total (c : Counter) : UInt64 := c.values.foldl (fun n e => n + e.2) 0

def line (name : String) (e : Labels × UInt64) : String :=
  name ++ "\x7b" ++ e.1.text ++ "\x7d " ++ toString e.2.toNat

def lines (c : Counter) (name : String) : List String :=
  ("# TYPE " ++ name ++ " counter") :: (c.values.map (line name)).mergeSort

theorem get_empty (ls : Labels) : empty.get ls = 0 := rfl

theorem get_add (c : Counter) (ls ks : Labels) (n : UInt64) :
    (c.add ls n).get ks = if ls.sorted = ks.sorted then c.get ks + n else c.get ks := by
  rw [add, get, Table.get?_set]
  split
  · rename_i h
    rw [get, h]
    rfl
  · rfl

theorem get_add_of_iff {ls ks : Labels} {p : Prop} [Decidable p] (h : ls.sorted = ks.sorted ↔ p) (c : Counter)
    (n : UInt64) : (c.add ls n).get ks = c.get ks + if p then n else 0 := by
  rw [get_add]
  by_cases hp : p
  · rw [if_pos (h.2 hp), if_pos hp]
  · rw [if_neg (mt h.1 hp), if_neg hp, UInt64.add_zero]

theorem foldl_values (es : Table Labels UInt64) (n : UInt64) :
    es.foldl (fun n e => n + e.2) n = n + total ⟨es⟩ := by
  induction es generalizing n with
  | nil => exact (UInt64.add_zero n).symm
  | cons e es ih =>
    rw [total, List.foldl_cons, List.foldl_cons, ih, ih, UInt64.zero_add, UInt64.add_assoc]

theorem total_cons (e : Labels × UInt64) (es : Table Labels UInt64) : total ⟨e :: es⟩ = e.2 + total ⟨es⟩ := by
  rw [total, List.foldl_cons, foldl_values, UInt64.zero_add]

theorem total_set (k : Labels) (n : UInt64) (es : Table Labels UInt64) :
    total ⟨Table.set k ((Table.get? k es).getD 0 + n) es⟩ = total ⟨es⟩ + n := by
  induction es with
  | nil => simp [Table.set, Table.get?, total]
  | cons e es ih =>
    obtain ⟨l, m⟩ := e
    rw [Table.get?_cons, Table.set]
    split
    · rw [total_cons, total_cons, Option.getD_some, UInt64.add_assoc, UInt64.add_comm n, UInt64.add_assoc]
    · rw [total_cons, total_cons, ih, UInt64.add_assoc]

theorem total_add (c : Counter) (ls : Labels) (n : UInt64) : (c.add ls n).total = c.total + n :=
  total_set ls.sorted n c.values

end Counter

end AccessPolicy.Metrics
