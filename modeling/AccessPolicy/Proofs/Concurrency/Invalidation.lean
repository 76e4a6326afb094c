import AccessPolicy.Proofs.Concurrency.Provenance
import AccessPolicy.Time.ZoneTable

namespace AccessPolicy

def Stage.source? : Stage → Option Nat
  | .answered v _ => some v
  | .loaded v _ => some v
  | .concluded v _ => some v
  | _ => none

def Stage.isAnswered : Stage → Bool
  | .answered _ _ => true
  | _ => false

theorem EngineSettings.cacheTtl_of_ne_zero {s : EngineSettings} (h : s.cacheTtlMs ≠ 0) :
    ∃ ttl, s.cacheTtl = some ttl ∧ 0 < ttl.nanos := by
  refine ⟨.ofMillis s.cacheTtlMs.toNat, if_neg h, ?_⟩
  have hpos : 0 < s.cacheTtlMs.toNat := by
    have hne : s.cacheTtlMs.toNat ≠ 0 := fun hz => h (UInt64.toNat_inj.1 hz)
    omega
  show 0 < s.cacheTtlMs.toNat * 1000000
  omega

namespace World

/-- Whether a call of the tenant has been given records from before a version, which it has yet to put into the
cache. -/
def Lags (w : World) (t : UInt64) (since : Nat) : Prop :=
  ∃ c ∈ w.calls, c.request.tenant = t ∧ ∃ v rs, c.stage = .answered v rs ∧ v < since

/-- Whether all decisions on calls of the tenant from the `n`th on rest on the records of some version, and on none
from before the given one. -/
def Heeds [ZoneDatabase] (w : World) (t : UInt64) (since n : Nat) : Prop :=
  ∀ c ∈ w.calls.drop n, c.request.tenant = t → ∀ v d, c.stage = .concluded v d →
    since ≤ v ∧ v ≤ w.version ∧ d = Policy.decideInScope w.engine.mode ((w.held v).policies t) c.request

/-- What keeps decisions from resting on anything older than a version. A call that began before the `n`th matters
only as long as what it was given can still get into the cache. -/
structure Settled (w : World) (t : UInt64) (since n : Nat) : Prop where
  version : since ≤ w.version
  entry : w.cache.isEnabled = true → (w.cache.entries.get? t).isSome = true → since ≤ w.kept t
  calls : ∀ m c, w.calls[m]? = some c → c.request.tenant = t →
    n ≤ m ∨ w.cache.isEnabled = true ∧ c.stage.isAnswered = true → ∀ v, c.stage.source? = some v → since ≤ v

variable {w u : World} {c : Call} {r : Request} {stage : Stage} {t : UInt64} {since n : Nat}

theorem kept_of_entered_source {v : Nat} (hv : (w.entered r).source? = some v) :
    w.kept r.tenant = v ∧ w.cache.isEnabled = true ∧ (w.cache.entries.get? r.tenant).isSome = true := by
  unfold entered at hv
  cases hl : w.cache.lookup w.clock r.tenant with
  | some ps =>
    obtain ⟨ttl, e, httl, he, -, -⟩ := (Cache.lookup_eq_some_iff ..).1 hl
    rw [hl] at hv
    exact ⟨Option.some.inj hv, by rw [Cache.isEnabled, httl]; rfl, by rw [he]; rfl⟩
  | none =>
    rw [hl] at hv
    cases hb : w.cache.isEnabled && (w.cache.entries.get? r.tenant).isSome with
    | true => simp [hb, Stage.source?] at hv
    | false => simp [hb, Stage.source?] at hv

theorem entered_source (h : w.Settled r.tenant since n) {v : Nat} (hv : (w.entered r).source? = some v) :
    since ≤ v := by
  obtain ⟨rfl, hon, hentry⟩ := kept_of_entered_source hv
  exact h.entry hon hentry

section Database

variable [ZoneDatabase]

theorem Turn.source {move : Move} {m v : Nat} (ht : w.Turn c move u stage) (h : w.Settled t since n)
    (hc : w.calls[m]? = some c) (hct : c.request.tenant = t)
    (hm : n ≤ m ∨ w.cache.isEnabled = true ∧ stage.isAnswered = true) (hv : stage.source? = some v) :
    since ≤ v := by
  cases ht with
  | evict hs => contradiction
  | fail f hs => contradiction
  | fetch hs =>
    obtain rfl : w.version = v := Option.some.inj hv
    exact h.version
  | keep hs =>
    have hm : n ≤ m := hm.resolve_right (by simp [Stage.isAnswered])
    exact h.calls m c hc hct (.inl hm) v (by rw [hs]; exact hv)
  | conclude took hs =>
    have hm : n ≤ m := hm.resolve_right (by simp [Stage.isAnswered])
    exact h.calls m c hc hct (.inl hm) v (by rw [hs]; exact hv)

theorem isEnabled_step (w : World) (a : Action) : (w.step a).cache.isEnabled = w.cache.isEnabled :=
  congrArg Option.isSome (extends_step w a).ttl

theorem Settled.step (h : w.Settled t since n) (a : Action) : (w.step a).Settled t since n := by
  refine ⟨Nat.le_trans h.version (extends_step w a).version, fun hon he => ?_, fun m c hc hct hm v hv => ?_⟩
  · rw [isEnabled_step] at hon
    obtain ⟨e, he⟩ := Option.isSome_iff_exists.1 he
    rcases entry_step a he with ⟨he, hkept⟩ | ⟨c, hc, hct, rs, hs, -⟩
    · rw [hkept]
      exact h.entry hon (by rw [he]; rfl)
    · obtain ⟨m, hm⟩ := List.getElem?_of_mem hc
      exact h.calls m c hm hct (.inr ⟨hon, by rw [hs]; rfl⟩) _ (by rw [hs]; rfl)
  · rw [isEnabled_step] at hm
    rcases calls_step a hc with hold | ⟨r, -, rfl⟩ | ⟨_, b, u, -, hb, ht, hr, -⟩
    · exact h.calls m c hold hct hm v hv
    · have hct : r.tenant = t := hct
      subst hct
      exact entered_source h hv
    · exact ht.source h hb (by rw [← hr]; exact hct) hm hv

theorem Settled.run (h : w.Settled t since n) (as : List Action) : (w.run as).Settled t since n := by
  induction as generalizing w with
  | nil => exact h
  | cons a as ih => exact ih (h.step a)

theorem Settled.heeds (h : w.Settled t since n) (hf : w.Faithful) : w.Heeds t since n := by
  intro c hc hct v d hs
  obtain ⟨m, hm⟩ := List.getElem?_of_mem hc
  rw [List.getElem?_drop] at hm
  have hversion : since ≤ v := h.calls (n + m) c hm hct (.inl (Nat.le_add_right n m)) v (by rw [hs]; rfl)
  have hsound := hf.calls c (List.mem_of_mem_drop hc)
  rw [hs, Sound, hct] at hsound
  exact ⟨hversion, hsound⟩

theorem settled_of_not_lags (hversion : since ≤ w.version) (h : w.cache.isEnabled = true → ¬ w.Lags t since) :
    (w.step (.invalidate t)).Settled t since w.calls.length := by
  refine ⟨hversion, fun hon he => ?_, fun m c hc hct hm v hv => ?_⟩
  · rw [World.step, cache_withCache, Cache.get?_invalidate, if_pos rfl] at he
    contradiction
  · have hc : w.calls[m]? = some c := hc
    have hlt : m < w.calls.length := (List.getElem?_eq_some_iff.1 hc).1
    obtain ⟨hon, ha⟩ := hm.resolve_left (by omega)
    cases hs : c.stage with
    | answered v' rs =>
      rw [hs] at hv
      obtain rfl : v' = v := Option.some.inj hv
      refine Nat.le_of_not_lt fun hlag => ?_
      exact h hon ⟨c, List.mem_of_getElem? hc, hct, v', rs, hs, hlag⟩
    | _ => simp [hs, Stage.isAnswered] at ha

theorem lookup_keep (v : Nat) (t : UInt64) (rs : List PolicyRecord) {ttl : Span} (httl : w.cache.ttl = some ttl)
    (hpos : 0 < ttl.nanos) :
    (w.keep v t rs).cache.lookup w.clock t = some (Compiled.ofRecords rs).policies := by
  refine (Cache.lookup_eq_some_iff ..).2 ⟨ttl, ⟨w.clock, (Compiled.ofRecords rs).policies⟩, ?_, ?_, ?_, rfl⟩
  · exact (Cache.insert_ttl ..).trans httl
  · rw [get?_keep, httl]
    exact if_pos ⟨rfl, rfl⟩
  · have hyoung : w.clock - w.clock < ttl.nanos := by omega
    exact decide_eq_true hyoung

theorem entered_keep (v : Nat) (r : Request) (rs : List PolicyRecord) {ttl : Span} (httl : w.cache.ttl = some ttl)
    (hpos : 0 < ttl.nanos) : (w.keep v r.tenant rs).entered r = .loaded v (Compiled.ofRecords rs).policies := by
  have hlookup : (w.keep v r.tenant rs).cache.lookup (w.keep v r.tenant rs).clock r.tenant =
      some (Compiled.ofRecords rs).policies := lookup_keep v r.tenant rs httl hpos
  rw [entered, hlookup, kept_keep, if_pos ⟨rfl, by rw [httl]; rfl⟩]

theorem exists_stale {m v : Nat} {rs : List PolicyRecord} {ttl : Span} (hc : w.calls[m]? = some c)
    (hs : c.stage = .answered v rs) (httl : w.cache.ttl = some ttl) (hpos : 0 < ttl.nanos) :
    ∃ as, ∃ c' ∈ (w.run as).calls.drop w.calls.length, c'.request = c.request ∧ ∃ d, c'.stage = .concluded v d := by
  let ps := (Compiled.ofRecords rs).policies
  let kept : World := { w.keep v c.request.tenant rs with calls := w.calls.set m { c with stage := .loaded v ps } }
  have hkept : w.move m .keep = kept := w.move_of_advance hc (by simp only [advance, hs]; rfl)
  have hlength : kept.calls.length = w.calls.length := List.length_set
  let entrant : Call := ⟨c.request, kept.version, .loaded v ps⟩
  have hentered : kept.entered c.request = .loaded v ps := entered_keep v c.request rs httl hpos
  have hcalls : (kept.call c.request).calls = kept.calls ++ [entrant] := by rw [call, hentered]
  have hentrant : (kept.call c.request).calls[w.calls.length]? = some entrant := by
    rw [hcalls, ← hlength]
    exact List.getElem?_concat_length
  let d := ((kept.call c.request).engine.conclude ⟨0⟩ ps c.request).1
  let as : List Action := [.move m .keep, .call c.request, .move w.calls.length (.conclude ⟨0⟩)]
  have hrun : w.run as = (kept.call c.request).move w.calls.length (.conclude ⟨0⟩) := by
    rw [← hkept]
    rfl
  let done : Call := { entrant with stage := .concluded v d }
  have hfirst : ((w.run as).calls.drop w.calls.length)[0]? = some done := by
    rw [List.getElem?_drop, Nat.add_zero, hrun]
    exact getElem?_move hentrant rfl
  exact ⟨as, done, List.mem_of_getElem? hfirst, rfl, d, rfl⟩

/-- After a change and an invalidation all calls that begin are decided by what the change has left or by something
later, exactly if nothing is ever cached or no call at that moment still has older records to cache. -/
theorem invalidation_heeded_iff (s : EngineSettings) (audited : Bool) (store : Store) (before between : List Action)
    (c : Store.Change) :
    let changed := ((start s audited store).run before).step (.change c)
    let invalidated := (changed.run between).step (.invalidate c.tenant)
    (∀ after, (invalidated.run after).Heeds c.tenant changed.version invalidated.calls.length) ↔
      s.cacheTtlMs = 0 ∨ ¬ invalidated.Lags c.tenant changed.version := by
  intro changed invalidated
  have hext : (start s audited store).Extends invalidated :=
    (extends_run _ before).trans ((extends_step _ _).trans ((extends_run _ between).trans (extends_step _ _)))
  have httl : invalidated.cache.ttl = s.cacheTtl := hext.ttl
  constructor
  -- a call that lags would let its records into the cache, and the next call would be decided by them
  · intro h
    by_cases hzero : s.cacheTtlMs = 0
    · exact .inl hzero
    · right
      rintro ⟨d, hd, hdt, v, rs, hs, hlt⟩
      obtain ⟨ttl, hsome, hpos⟩ := EngineSettings.cacheTtl_of_ne_zero hzero
      obtain ⟨m, hm⟩ := List.getElem?_of_mem hd
      obtain ⟨after, c', hc', hr, dec, hdec⟩ := exists_stale hm hs (httl.trans hsome) hpos
      have hheed := (h after c' hc' (by rw [hr]; exact hdt) v dec hdec).1
      omega
  · intro h after
    have hfaithful : (start s audited store).Faithful := start_faithful s audited store
    have hversion : changed.version ≤ (changed.run between).version := (extends_run changed between).version
    have hsettled : invalidated.Settled c.tenant changed.version invalidated.calls.length := by
      refine settled_of_not_lags hversion fun hon hlag => ?_
      rcases h with hzero | hnot
      · have hoff : (changed.run between).cache.ttl = none := httl.trans (if_pos hzero)
        rw [Cache.isEnabled, hoff] at hon
        contradiction
      · exact hnot hlag
    exact (hsettled.run after).heeds ((((hfaithful.run before).step _).run between).step _ |>.run after)

end Database

open ZoneTable in
theorem invalidation_lost :
    let allow : PolicyRecord := { PolicyRecord.blank with name := "old", kind := "allow" }
    let deny : PolicyRecord := { PolicyRecord.blank with name := "freeze", kind := "deny" }
    let changed := ((start .standard false (.ofRecords [allow])).run [.call .blank, .move 0 .fetch]).step
      (.change (.insert deny))
    let invalidated := changed.step (.invalidate 0)
    let ended := invalidated.run [.move 0 .keep, .call .blank, .move 1 (.conclude ⟨0⟩)]
    Policy.decideInScope .stub (changed.store.policies 0) .blank = .deniedBy "freeze" ∧
      (∃ c ∈ ended.calls.drop invalidated.calls.length, c.request.tenant = 0 ∧
        ∃ d, c.stage = .concluded 0 d ∧ d.allow = true ∧ d.reason = "Allowed by policy: old") ∧
      ¬ ended.Heeds 0 changed.version invalidated.calls.length := by
  intro allow deny changed invalidated ended
  have hold : Policy.decideInScope .stub (Compiled.ofRecords [allow]).policies .blank =
      { Decision.stating true "Allowed by policy: old" with triggered := ["old"] } := by
    rw [Compiled.policies_of_pairwise (by decide)]
    rfl
  have hlost : ∃ c ∈ ended.calls.drop invalidated.calls.length, c.request.tenant = 0 ∧
      ∃ d, c.stage = .concluded 0 d ∧ d.allow = true ∧ d.reason = "Allowed by policy: old" :=
    ⟨_, List.mem_cons_self, rfl, _, rfl, congrArg Decision.allow hold, congrArg Decision.reason hold⟩
  refine ⟨?_, hlost, fun hheeds => ?_⟩
  · have hchanged : changed.store.policies 0 = (Compiled.ofRecords [allow, deny]).policies := rfl
    rw [hchanged, Compiled.policies_of_pairwise (by decide)]
    rfl
  obtain ⟨c, hc, ht, d, hd, -, -⟩ := hlost
  have hlate : 1 ≤ 0 := (hheeds c hc ht 0 d hd).1
  omega

end World

end AccessPolicy
