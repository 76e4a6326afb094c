import AccessPolicy.Metrics.Labels
import AccessPolicy.Table
import AccessPolicy.Time.Span

namespace AccessPolicy.Metrics

structure Series where
  count : UInt64
  sum : UInt64
  buckets : List UInt64
  deriving DecidableEq

def bounds : List UInt64 := [10, 50, 100, 500, 1000, 5000, 10000, 50000, 100000, 1000000]

namespace Series

def empty : Series := ⟨0, 0, bounds.map fun _ => 0⟩

def observe (s : Series) (micros : UInt64) : Series where
  count := s.count + 1
  sum := s.sum + micros
  buckets := List.zipWith (fun bound n => if micros ≤ bound then n + 1 else n) bounds s.buckets

end Series

structure Histogram where
  series : Table Labels Series
  deriving DecidableEq

namespace Histogram

def empty : Histogram := ⟨[]⟩

def micros (s : Span) : UInt64 := .ofNat (min (s.nanos / 1000) (UInt64.size - 1))

def find (h : Histogram) (ls : Labels) : Series := (h.series.get? ls.sorted).getD .empty

def count (h : Histogram) (ls : Labels) : UInt64 := (h.find ls).count

def observe (h : Histogram) (ls : Labels) (s : Span) : Histogram :=
  ⟨h.series.set ls.sorted ((h.find ls).observe (micros s))⟩

def bucketLine (name labels bound : String) (n : UInt64) : String :=
  name ++ "_bucket\x7b" ++ (if labels = "" then "" else labels ++ ",") ++ "le=\"" ++ bound ++ "\"\x7d "
    ++ toString n.toNat

def block (name : String) (e : Labels × Series) : List String :=
  let labels := e.1.text
  let bucket (bound n : UInt64) : String := bucketLine name labels (toString bound.toNat) n
  List.zipWith bucket bounds e.2.buckets
    ++ [bucketLine name labels "+Inf" e.2.count,
        name ++ "_sum\x7b" ++ labels ++ "\x7d " ++ toString e.2.sum.toNat,
        name ++ "_count\x7b" ++ labels ++ "\x7d " ++ toString e.2.count.toNat]

def lines (h : Histogram) (name : String) : List String :=
  ("# TYPE " ++ name ++ " histogram") ::
    ((h.series.map (block name)).mergeSort fun a b => !List.lex b a fun s t => s < t).flatten

theorem count_observe_of_iff {ls ks : Labels} {p : Prop} [Decidable p] (h : ls.sorted = ks.sorted ↔ p)
    (c : Histogram) (s : Span) : (c.observe ls s).count ks = c.count ks + if p then 1 else 0 := by
  rw [observe, count, find, Table.get?_set]
  by_cases hp : p
  · rw [if_pos (h.2 hp), if_pos hp, count, find, find, h.2 hp]
    rfl
  · rw [if_neg (mt h.1 hp), if_neg hp, UInt64.add_zero]
    rfl

end Histogram

end AccessPolicy.Metrics
