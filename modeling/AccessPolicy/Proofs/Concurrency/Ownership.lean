import AccessPolicy.Proofs.Concurrency.Provenance
import AccessPolicy.Proofs.Decision.Denial
import Mathlib.Data.List.Induction

namespace AccessPolicy

namespace Store

def foreign (t : UInt64) (x : PolicyRecord) : Bool := x.tenant != t

def Change.lend (xs : List PolicyRecord) : Change → List PolicyRecord
  | .insert _ => xs
  | .replace _ rs => rs
  | .remove _ => []

/-- The records of the latest replacement for the tenant, unless the tenant has been removed since. -/
def lent (t : UInt64) (cs : List Change) : List PolicyRecord :=
  cs.foldl (fun xs c => if c.tenant = t then c.lend xs else xs) []

variable {s : Store} {t : UInt64} {xs : List PolicyRecord}

theorem foreign_change (h : (s.records t).filter (foreign t) = xs.filter (foreign t)) (c : Change) :
    ((s.change c).records t).filter (foreign t) = (if c.tenant = t then c.lend xs else xs).filter (foreign t) := by
  rw [records_change]
  by_cases hc : c.tenant = t
  · rw [if_pos hc, if_pos hc]
    cases c with
    | insert x =>
      have hown : [x].filter (foreign t) = [] := by simpa [foreign, Change.tenant] using hc
      rw [Change.revise, List.filter_append, hown, List.append_nil, h, Change.lend]
    | replace k rs => rfl
    | remove k => rfl
  · rw [if_neg hc, if_neg hc, h]

theorem foreign_ofRecords (rs : List PolicyRecord) (t : UInt64) :
    ((ofRecords rs).records t).filter (foreign t) = [] := by
  rw [records_ofRecords, List.filter_eq_nil_iff]
  intro x hx
  simpa [foreign] using (List.mem_filter.1 hx).2

theorem foreign_run (rs : List PolicyRecord) (cs : List Change) (t : UInt64) :
    ((cs.foldl change (ofRecords rs)).records t).filter (foreign t) = (lent t cs).filter (foreign t) := by
  induction cs using List.reverseRecOn with
  | nil => exact foreign_ofRecords rs t
  | append_singleton cs c ih =>
    rw [lent, List.foldl_append, List.foldl_append]
    exact foreign_change ih c

theorem mem_enabled_foreign_iff (rs : List PolicyRecord) (cs : List Change) (t : UInt64) (x : PolicyRecord) :
    x ∈ (cs.foldl change (ofRecords rs)).enabled t ∧ x.tenant ≠ t ↔
      x ∈ lent t cs ∧ x.enabled = true ∧ x.tenant ≠ t := by
  have hforeign (ys : List PolicyRecord) : x ∈ ys.filter (foreign t) ↔ x ∈ ys ∧ x.tenant ≠ t := by
    simp [foreign]
  have hrun : x ∈ (cs.foldl change (ofRecords rs)).records t ∧ x.tenant ≠ t ↔ x ∈ lent t cs ∧ x.tenant ≠ t := by
    rw [← hforeign, foreign_run, hforeign]
  rw [enabled, List.mem_filter, and_right_comm, hrun, and_right_comm, and_assoc]

theorem enabled_of_neighbour_replaced : ¬ ∀ (rs : List PolicyRecord) (cs : List Change) (t : UInt64),
    ∀ x ∈ (cs.foldl change (ofRecords rs)).enabled t, x.tenant = t := by
  intro h
  let freeze : PolicyRecord := { PolicyRecord.blank with tenant := 2, name := "freeze", kind := "deny" }
  have hkept : ([.replace 1 [freeze]].foldl change (ofRecords [])).enabled 1 = [freeze] := rfl
  have hown : freeze.tenant = 1 := h [] [.replace 1 [freeze]] 1 freeze (hkept ▸ List.mem_singleton_self freeze)
  exact absurd hown (by decide)

variable [ZoneDatabase]

theorem compile_of_mem_policies {p : Policy} (h : p ∈ s.policies t) : ∃ x ∈ s.enabled t, x.compile = .ok p := by
  have hp : p ∈ (Compiled.results (s.enabled t)).filterMap Except.toOption := List.mem_mergeSort.1 h
  obtain ⟨result, hresult, htake⟩ := List.mem_filterMap.1 hp
  obtain ⟨x, hx, rfl⟩ := List.mem_map.1 hresult
  refine ⟨x, (List.mem_filter.1 hx).1, ?_⟩
  cases hc : x.compile with
  | error f =>
    rw [hc] at htake
    contradiction
  | ok q =>
    rw [hc] at htake
    exact congrArg Except.ok (Option.some.inj htake)

theorem tenant_of_compile {x : PolicyRecord} {p : Policy} (h : x.compile = .ok p) : p.tenant = x.tenant := by
  obtain ⟨kind, conditions, effect, -, -, -, rfl⟩ := PolicyRecord.compile_eq_ok_iff.1 h
  rfl

theorem policies_own_or_lent (rs : List PolicyRecord) (cs : List Change) {t : UInt64} {p : Policy}
    (h : p ∈ (cs.foldl change (ofRecords rs)).policies t) :
    p.tenant = t ∨ ∃ x ∈ lent t cs, x.enabled = true ∧ x.compile = .ok p := by
  obtain ⟨x, hx, hcompile⟩ := compile_of_mem_policies h
  by_cases hown : x.tenant = t
  · exact .inl ((tenant_of_compile hcompile).trans hown)
  · obtain ⟨hlent, henabled, -⟩ := (mem_enabled_foreign_iff rs cs t x).1 ⟨hx, hown⟩
    exact .inr ⟨x, hlent, henabled, hcompile⟩

end Store

namespace World

def changes (as : List Action) : List Store.Change := as.filterMap fun
  | .change c => some c
  | _ => none

variable [ZoneDatabase] {w : World}

theorem version_move (n : Nat) (m : Move) : (w.move n m).version = w.version := by
  rcases w.move_cases n m with h | ⟨c, u, stage, -, ht, h⟩
  · rw [h]
  · rw [h]
    cases ht <;> rfl

theorem version_step (w : World) (a : Action) : (w.step a).version = w.version + (changes [a]).length := by
  cases a with
  | move n m => exact version_move n m
  | pass n => rfl
  | change c => rfl
  | invalidate t => rfl
  | invalidateAll => rfl
  | call r => rfl

theorem store_step (w : World) (a : Action) : (w.step a).store = (changes [a]).foldl Store.change w.store := by
  have hkept (hv : (w.step a).version = w.version) : (w.step a).store = w.store := by
    rw [store, store, hv, (extends_step w a).held _ (Nat.le_refl _)]
  cases a with
  | change c => exact if_pos rfl
  | pass n => exact hkept (version_step w _)
  | invalidate t => exact hkept (version_step w _)
  | invalidateAll => exact hkept (version_step w _)
  | call r => exact hkept (version_step w _)
  | move n m => exact hkept (version_step w _)

omit [ZoneDatabase] in
theorem changes_concat (as : List Action) (a : Action) : changes (as ++ [a]) = changes as ++ changes [a] :=
  List.filterMap_append

theorem version_run (w : World) (as : List Action) : (w.run as).version = w.version + (changes as).length := by
  induction as using List.reverseRecOn with
  | nil => rfl
  | append_singleton as a ih =>
    rw [run, List.foldl_append, changes_concat, List.length_append, ← Nat.add_assoc, ← ih]
    exact version_step (w.run as) a

theorem store_run (w : World) (as : List Action) : (w.run as).store = (changes as).foldl Store.change w.store := by
  induction as using List.reverseRecOn with
  | nil => rfl
  | append_singleton as a ih =>
    rw [run, List.foldl_append, changes_concat, List.foldl_append, ← ih]
    exact store_step (w.run as) a

theorem held_run (w : World) (as : List Action) {k : Nat} (hk : k ≤ (changes as).length) :
    (w.run as).held (w.version + k) = ((changes as).take k).foldl Store.change w.store := by
  induction as using List.reverseRecOn with
  | nil =>
    obtain rfl : k = 0 := Nat.le_zero.1 hk
    rfl
  | append_singleton as a ih =>
    have hrun : w.run (as ++ [a]) = (w.run as).step a := by rw [run, List.foldl_append]; rfl
    by_cases hold : k ≤ (changes as).length
    · have hbefore : w.version + k ≤ (w.run as).version := by rw [version_run]; omega
      rw [hrun, (extends_step (w.run as) a).held _ hbefore, ih hold, changes_concat, List.take_append_of_le_length hold]
    · have hone : (changes [a]).length ≤ 1 := List.length_filterMap_le _ [a]
      have hall : k = (changes (as ++ [a])).length := by
        rw [changes_concat, List.length_append] at hk ⊢
        omega
      rw [hall, List.take_length, ← store_run, store, version_run]

theorem foreign_only_if_lent (s : EngineSettings) (audited : Bool) (rs : List PolicyRecord) (as : List Action)
    (t : UInt64) :
    let w := (start s audited (.ofRecords rs)).run as
    (∀ x, x ∈ w.store.enabled t ∧ x.tenant ≠ t ↔
      x ∈ Store.lent t (changes as) ∧ x.enabled = true ∧ x.tenant ≠ t) ∧
    ∀ c ∈ w.calls, c.request.tenant = t → ∀ v d, c.stage = .concluded v d →
      d = Policy.decideInScope s.patternMode ((w.held v).policies t) c.request ∧
      ∀ p ∈ (w.held v).policies t,
        p.tenant = t ∨ ∃ x ∈ Store.lent t ((changes as).take v), x.enabled = true ∧ x.compile = .ok p := by
  intro w
  refine ⟨fun x => ?_, fun c hc ht v d hd => ?_⟩
  · have hstore : w.store = (changes as).foldl Store.change (.ofRecords rs) := store_run _ as
    rw [hstore]
    exact Store.mem_enabled_foreign_iff rs (changes as) t x
  · have hsound := ((start_faithful s audited (.ofRecords rs)).run as).calls c hc
    rw [hd, Sound, ht] at hsound
    obtain ⟨hversion, hdecided⟩ := hsound
    have hmode : w.engine.mode = s.patternMode := (extends_run _ as).mode
    have hv : v ≤ (changes as).length := by simpa [w, version_run, start] using hversion
    have hheld : w.held (0 + v) = ((changes as).take v).foldl Store.change (.ofRecords rs) :=
      held_run (start s audited (.ofRecords rs)) as hv
    refine ⟨hmode ▸ hdecided, fun p hp => ?_⟩
    rw [← Nat.zero_add v, hheld] at hp
    exact Store.policies_own_or_lent rs _ hp

end World

end AccessPolicy
