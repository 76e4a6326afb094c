import AccessPolicy.Proofs.Metrics.Labels
import AccessPolicy.Proofs.Metrics.Samples

namespace AccessPolicy.Metrics

namespace Series

def after (s : Series) (micros : List UInt64) : Series := micros.foldl observe s

theorem observe_eq (count sum : UInt64) (f : UInt64 → UInt64) (m : UInt64) :
    observe ⟨count, sum, bounds.map f⟩ m =
      ⟨count + 1, sum + m, bounds.map fun bound => f bound + if m ≤ bound then 1 else 0⟩ := by
  rw [observe, List.zipWith_map_right, List.zipWith_self]
  congr 2
  funext bound
  by_cases hle : m ≤ bound
  · rw [if_pos hle, if_pos hle]
  · rw [if_neg hle, if_neg hle, UInt64.add_zero]

theorem after_eq (micros : List UInt64) (count sum : UInt64) (f : UInt64 → UInt64) :
    after ⟨count, sum, bounds.map f⟩ micros =
      ⟨count + .ofNat micros.length, sum + .ofNat (micros.map (·.toNat)).sum,
        bounds.map fun bound => f bound + .ofNat (micros.countP (· ≤ bound))⟩ := by
  induction micros generalizing count sum f with
  | nil => simp [after]
  | cons m micros ih =>
    have hafter : after ⟨count, sum, bounds.map f⟩ (m :: micros) =
        (observe ⟨count, sum, bounds.map f⟩ m).after micros := rfl
    have hcount : count + 1 + .ofNat micros.length = count + .ofNat (m :: micros).length := by
      rw [List.length_cons, Nat.add_comm, UInt64.ofNat_add, UInt64.add_assoc]
      rfl
    have hsum : sum + m + .ofNat (micros.map (·.toNat)).sum = sum + .ofNat ((m :: micros).map (·.toNat)).sum := by
      rw [List.map_cons, List.sum_cons, UInt64.ofNat_add, UInt64.ofNat_toNat, UInt64.add_assoc]
    have hbuckets (bound : UInt64) : (f bound + if m ≤ bound then 1 else 0) + .ofNat (micros.countP (· ≤ bound)) =
        f bound + .ofNat ((m :: micros).countP (· ≤ bound)) := by
      rw [List.countP_cons, Nat.add_comm, UInt64.ofNat_add, UInt64.add_assoc]
      by_cases hle : m ≤ bound <;> simp [hle]
    rw [hafter, observe_eq, ih, hcount, hsum, funext hbuckets]

end Series

namespace Histogram

structure Observation where
  labels : Labels
  length : Span

def Observation.micros (o : Observation) : Nat := min (o.length.nanos / 1000) (2 ^ 64 - 1)

def after (h : Histogram) (os : List Observation) : Histogram := os.foldl (fun h o => h.observe o.labels o.length) h

theorem toNat_micros (o : Observation) : (micros o.length).toNat = o.micros := by
  have hroom : min (o.length.nanos / 1000) (UInt64.size - 1) < UInt64.size :=
    Nat.lt_of_le_of_lt (Nat.min_le_right ..) (by decide)
  exact UInt64.toNat_ofNat_of_lt hroom

theorem find_observe (h : Histogram) (o : Observation) (ls : Labels) : (h.observe o.labels o.length).find ls =
    if o.labels.Perm ls then (h.find ls).observe (micros o.length) else h.find ls := by
  rw [observe, find, Table.get?_set]
  by_cases hperm : o.labels.Perm ls
  · have hsorted := Labels.sorted_eq_iff_perm.2 hperm
    rw [if_pos hsorted, if_pos hperm, find, find, hsorted]
    rfl
  · rw [if_neg (mt Labels.sorted_eq_iff_perm.1 hperm), if_neg hperm]
    rfl

theorem find_after (h : Histogram) (os : List Observation) (ls : Labels) : (h.after os).find ls =
    (h.find ls).after ((os.filter (·.labels.Perm ls)).map fun o => micros o.length) := by
  induction os generalizing h with
  | nil => rfl
  | cons o os ih =>
    have hafter : h.after (o :: os) = (h.observe o.labels o.length).after os := rfl
    rw [hafter, ih, find_observe]
    by_cases hperm : o.labels.Perm ls
    · rw [List.filter_cons_of_pos (by simpa using hperm), if_pos hperm]
      rfl
    · rw [List.filter_cons_of_neg (by simpa using hperm), if_neg hperm]

theorem indexes_after (os : List Observation) : Indexes (empty.after os).series (os.map (·.labels)) :=
  Indexes.foldl series (fun _ _ => ⟨_, rfl⟩) .empty os

end Histogram

namespace Reading

open Histogram

structure Tells (r : Reading) (seen : List Observation) : Prop where
  buckets : r.buckets = bounds.map fun bound => seen.countP (·.micros ≤ bound.toNat)
  infinite : r.infinite = r.count
  sum : r.sum = (seen.map (·.micros)).sum % 2 ^ 64
  count : r.count = seen.length
  rising : (r.buckets ++ [r.count]).Pairwise (· ≤ ·)

theorem reading_after (seen : List Observation) : (Series.empty.after (seen.map fun o => micros o.length)).reading =
    ⟨bounds.map fun bound => seen.countP (·.micros ≤ bound.toNat) % 2 ^ 64, seen.length % 2 ^ 64,
      (seen.map (·.micros)).sum % 2 ^ 64, seen.length % 2 ^ 64⟩ := by
  have hcount (bound : UInt64) :
      (seen.map fun o => micros o.length).countP (· ≤ bound) = seen.countP (·.micros ≤ bound.toNat) := by
    rw [List.countP_map]
    refine List.countP_congr fun o _ => ?_
    simp [UInt64.le_iff_toNat_le, toNat_micros]
  have hsum : ((seen.map fun o => micros o.length).map (·.toNat)).sum = (seen.map (·.micros)).sum := by
    rw [List.map_map]
    exact congrArg List.sum (List.map_congr_left fun o _ => toNat_micros o)
  have hafter := Series.after_eq (seen.map fun o => micros o.length) 0 0 fun _ => 0
  rw [Series.empty, hafter, Series.reading, List.map_map, hsum, List.length_map]
  simp only [UInt64.zero_add, UInt64.toNat_ofNat', Function.comp_def, hcount]

theorem pairwise_bounds : bounds.Pairwise (· < ·) := by decide

theorem rising_counts (seen : List Observation) :
    ((bounds.map fun bound => seen.countP (·.micros ≤ bound.toNat)) ++ [seen.length]).Pairwise (· ≤ ·) := by
  rw [List.pairwise_append, List.pairwise_map]
  refine ⟨pairwise_bounds.imp fun {a b} hlt => ?_, List.pairwise_singleton .., ?_⟩
  · refine List.countP_mono_left fun o _ hle => ?_
    rw [decide_eq_true_eq] at hle ⊢
    exact Nat.le_trans hle (Nat.le_of_lt (UInt64.lt_iff_toNat_lt.1 hlt))
  · intro n hn m hm
    obtain ⟨bound, -, rfl⟩ := List.mem_map.1 hn
    rw [List.mem_singleton.1 hm]
    exact List.countP_le_length

theorem tells_after {seen : List Observation} (hfew : seen.length < 2 ^ 64) :
    (Series.empty.after (seen.map fun o => micros o.length)).reading.Tells seen := by
  have hcounts (p : Observation → Bool) : seen.countP p % 2 ^ 64 = seen.countP p :=
    Nat.mod_eq_of_lt (Nat.lt_of_le_of_lt List.countP_le_length hfew)
  simp only [reading_after, hcounts, Nat.mod_eq_of_lt hfew]
  exact ⟨rfl, rfl, rfl, rfl, rising_counts seen⟩

end Reading

namespace Histogram

theorem find_empty_after (os : List Observation) (ls : Labels) : (empty.after os).find ls =
    Series.empty.after ((os.filter (·.labels.Perm ls)).map fun o => micros o.length) :=
  find_after empty os ls

theorem buckets_count_observations (os : List Observation) (hfew : os.length < 2 ^ 64) :
    bounds.Pairwise (· < ·) ∧
      (∀ ls, ((empty.after os).find ls).reading.Tells (os.filter (·.labels.Perm ls))) ∧
      (∀ ls, ((empty.after os).count ls).toNat = (os.filter (·.labels.Perm ls)).length) ∧
      ∀ name, ∃ blocks : List (Labels × Reading),
        (empty.after os).lines name = ("# TYPE " ++ name ++ " histogram") ::
          (blocks.flatMap fun b => (b.2.samples name b.1).map Sample.line) ∧
        (∀ b ∈ blocks, b.2.Tells (os.filter (·.labels.Perm b.1)) ∧ b.2.count = ((empty.after os).count b.1).toNat) ∧
        (blocks.map (·.1)).Pairwise (fun ls ks => ¬ ls.Perm ks) ∧
        ∀ ls : Labels, (∃ b ∈ blocks, ls.Perm b.1) ↔ ∃ o ∈ os, ls.Perm o.labels := by
  have htells (ls : Labels) : ((empty.after os).find ls).reading.Tells (os.filter (·.labels.Perm ls)) := by
    rw [find_empty_after]
    exact Reading.tells_after (Nat.lt_of_le_of_lt (List.length_filter_le ..) hfew)
  have hindexes := indexes_after os
  refine ⟨Reading.pairwise_bounds, htells, fun ls => (htells ls).count, fun name => ?_⟩
  obtain ⟨entries, hperm, hlines⟩ := (empty.after os).exists_lines_eq name
  have hfind : ∀ e ∈ entries, (empty.after os).find e.1 = e.2 := fun e he => by
    rw [find, hindexes.get?_of_mem (hperm.mem_iff.1 he)]
    rfl
  have hblocks := hindexes.of_perm hperm
  have hkeys : (entries.map fun e => (e.1, e.2.reading)).map (·.1) = Table.keys entries := by
    rw [List.map_map]
    rfl
  refine ⟨entries.map fun e => (e.1, e.2.reading), ?_, ?_, hkeys ▸ hblocks.pairwise_not_perm, fun ls => ?_⟩
  · rw [hlines, List.flatMap_map]
  · rintro b hb
    obtain ⟨e, he, rfl⟩ := List.mem_map.1 hb
    have hreading := htells e.1
    rw [hfind e he] at hreading
    refine ⟨hreading, ?_⟩
    rw [count, hfind e he]
    rfl
  · have hused := hblocks.exists_perm_iff ls
    rw [← hkeys] at hused
    simpa using hused

theorem buckets_count_of_each_length :
    let os : List Observation := [⟨[("outcome", "allow"), ("tenant", "1")], ⟨10999⟩⟩,
      ⟨[("tenant", "1"), ("outcome", "allow")], ⟨2000000⟩⟩, ⟨[("tenant", "1"), ("tenant", "1")], ⟨11000⟩⟩,
      ⟨[("tenant", "1"), ("outcome", "allow")], ⟨2 ^ 64 * 1000⟩⟩]
    let ls : Labels := [("tenant", "1"), ("outcome", "allow")]
    os.length < 2 ^ 64 ∧ ((empty.after os).find ls).reading.buckets = [1, 1, 1, 1, 1, 2, 2, 2, 2, 2] ∧
      ((empty.after os).find ls).reading.sum = 2009 ∧ ((empty.after os).count ls).toNat = 3 := by
  intro os ls
  have hfew : os.length < 2 ^ 64 := by decide
  obtain ⟨-, htells, hcount, -⟩ := buckets_count_observations os hfew
  refine ⟨hfew, (htells ls).buckets.trans ?_, (htells ls).sum.trans ?_, (hcount ls).trans ?_⟩
  · decide +kernel
  · decide +kernel
  · decide +kernel

end Histogram

end AccessPolicy.Metrics
