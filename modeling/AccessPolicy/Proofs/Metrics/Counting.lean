import AccessPolicy.Metrics.Counter
import AccessPolicy.Proofs.Metrics.Labels
import Mathlib.Algebra.Ring.Nat

namespace AccessPolicy.Metrics.Counter

inductive Call where
  | increment (labels : Labels)
  | add (labels : Labels) (n : UInt64)

namespace Call

def labels : Call → Labels
  | .increment ls => ls
  | .add ls _ => ls

def amount : Call → UInt64
  | .increment _ => 1
  | .add _ n => n

def sum (calls : List Call) : Nat := (calls.map (·.amount.toNat)).sum

theorem sum_cons (call : Call) (calls : List Call) : sum (call :: calls) = call.amount.toNat + sum calls := rfl

end Call

def step (c : Counter) : Call → Counter
  | .increment ls => c.increment ls
  | .add ls n => c.add ls n

def after (c : Counter) (calls : List Call) : Counter := calls.foldl step c

theorem get_step (c : Counter) (call : Call) (ls : Labels) :
    (c.step call).get ls = c.get ls + if call.labels.Perm ls then call.amount else 0 := by
  cases call with
  | increment ks => exact get_add_of_iff Labels.sorted_eq_iff_perm c 1
  | add ks n => exact get_add_of_iff Labels.sorted_eq_iff_perm c n

theorem total_step (c : Counter) (call : Call) : (c.step call).total = c.total + call.amount := by
  cases call with
  | increment ks => exact c.total_add ks 1
  | add ks n => exact c.total_add ks n

theorem get_after (c : Counter) (calls : List Call) (ls : Labels) :
    (c.after calls).get ls = c.get ls + .ofNat (Call.sum (calls.filter (·.labels.Perm ls))) := by
  induction calls generalizing c with
  | nil => exact (UInt64.add_zero _).symm
  | cons call calls ih =>
    have hafter : c.after (call :: calls) = (c.step call).after calls := rfl
    rw [hafter, ih, get_step]
    by_cases hperm : call.labels.Perm ls
    · rw [List.filter_cons_of_pos (by simpa using hperm), Call.sum_cons, UInt64.ofNat_add, UInt64.ofNat_toNat,
        if_pos hperm, UInt64.add_assoc]
    · rw [List.filter_cons_of_neg (by simpa using hperm), if_neg hperm, UInt64.add_zero]

theorem total_after (c : Counter) (calls : List Call) :
    (c.after calls).total = c.total + .ofNat (Call.sum calls) := by
  induction calls generalizing c with
  | nil => exact (UInt64.add_zero _).symm
  | cons call calls ih =>
    have hafter : c.after (call :: calls) = (c.step call).after calls := rfl
    rw [hafter, ih, total_step, Call.sum_cons, UInt64.ofNat_add, UInt64.ofNat_toNat, UInt64.add_assoc]

theorem indexes_after (calls : List Call) : Indexes (empty.after calls).values (calls.map (·.labels)) :=
  Indexes.foldl values (fun c call => by cases call <;> exact ⟨_, rfl⟩) .empty calls

theorem add_leaves_iff (c : Counter) (ls ks : Labels) :
    (∀ n, (c.add ks n).get ls = c.get ls) ↔ ∃ l, ls.count l ≠ ks.count l := by
  have hperm : (∃ l, ls.count l ≠ ks.count l) ↔ ¬ ks.Perm ls := by
    rw [List.perm_comm, List.perm_iff_count, Classical.not_forall]
  rw [hperm]
  constructor
  · intro h hsame
    have hone := h 1
    rw [get_add_of_iff Labels.sorted_eq_iff_perm, if_pos hsame] at hone
    exact absurd (UInt64.add_eq_left.1 hone) (by decide)
  · intro hother n
    rw [get_add_of_iff Labels.sorted_eq_iff_perm, if_neg hother, UInt64.add_zero]

theorem sums_by_labels (calls : List Call) :
    (∀ ls, ((empty.after calls).get ls).toNat = Call.sum (calls.filter (·.labels.Perm ls)) % 2 ^ 64) ∧
      (∀ ls ks, (∀ n, ((empty.after calls).add ks n).get ls = (empty.after calls).get ls) ↔
        ∃ l, ls.count l ≠ ks.count l) ∧
      (Call.sum calls < 2 ^ 64 → (empty.after calls).total.toNat = Call.sum calls) := by
  refine ⟨fun ls => ?_, fun ls ks => add_leaves_iff _ ls ks, fun hsum => ?_⟩
  · rw [get_after, get_empty, UInt64.zero_add]
    exact UInt64.toNat_ofNat'
  · have htotal : empty.total = 0 := rfl
    rw [total_after, htotal, UInt64.zero_add]
    exact UInt64.toNat_ofNat_of_lt' hsum

theorem sums_by_labels_of_repeated_label :
    let calls : List Call := [.increment [("tenant", "1"), ("outcome", "allow")],
      .add [("outcome", "allow"), ("tenant", "1")] 5, .add [("tenant", "1"), ("tenant", "1")] 7,
      .increment [("tenant", "1")]]
    Call.sum calls < 2 ^ 64 ∧ ((empty.after calls).get [("tenant", "1"), ("outcome", "allow")]).toNat = 6 ∧
      ((empty.after calls).get [("tenant", "1")]).toNat = 1 ∧ (empty.after calls).total.toNat = 14 := by
  intro calls
  have hsum : Call.sum calls < 2 ^ 64 := by decide
  obtain ⟨hget, -, htotal⟩ := sums_by_labels calls
  refine ⟨hsum, (hget _).trans (by decide), (hget _).trans (by decide), (htotal hsum).trans (by decide)⟩

end AccessPolicy.Metrics.Counter
