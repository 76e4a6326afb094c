import AccessPolicy.Proofs.Concurrency.Invalidation

namespace AccessPolicy

def Stage.inFlight : Stage → Bool
  | .expired _ => true
  | .asking => true
  | .answered _ _ => true
  | _ => false

def Stage.hasFailed : Stage → Bool
  | .failed _ => true
  | _ => false

def Action.changes (t : UInt64) : Action → Bool
  | .change c => c.tenant == t
  | _ => false

def Action.evaluates (t : UInt64) : Action → Bool
  | .call r => r.tenant == t
  | _ => false

theorem Store.policies_congr [ZoneDatabase] {s s' : Store} {t : UInt64} (h : s.records t = s'.records t) :
    s.policies t = s'.policies t := by
  rw [policies, policies, enabled, enabled, h]

namespace World

def Idle (w : World) (t : UInt64) : Prop := ∀ c ∈ w.calls, c.request.tenant = t → c.stage.inFlight = false

section Database

variable [ZoneDatabase]

/-- Whether nothing of the tenant begins in a run and nothing of it is in flight at any moment, the first and the last
among them. -/
def Quiet (t : UInt64) : World → List Action → Prop
  | w, [] => w.Idle t
  | w, a :: as => w.Idle t ∧ a.evaluates t = false ∧ Quiet t (w.step a) as

/-- Whether in a run every change of the tenant's records is followed by an invalidation, and all is quiet from the
one to the other. -/
def Guarded (t : UInt64) : World → List Action → Prop
  | _, [] => True
  | w, a :: as =>
    (a.changes t = true → ∃ between rest, as = between ++ .invalidate t :: rest ∧ Quiet t (w.step a) between) ∧
      Guarded t (w.step a) as

def Fresh (w : World) (t : UInt64) : Prop := (w.cache.entries.get? t).isSome = true →
  w.kept t ≤ w.version ∧ (w.held (w.kept t)).records t = w.store.records t

/-- What a call holds is from the records at its look into the cache, and while it is in flight the store still has
these. -/
structure Timely (w : World) (c : Call) : Prop where
  since : c.since ≤ w.version
  flight : c.stage.inFlight = true → w.store.records c.request.tenant = (w.held c.since).records c.request.tenant
  source : ∀ v, c.stage.source? = some v → v ≤ w.version ∧
    (w.held v).records c.request.tenant = (w.held c.since).records c.request.tenant

def AllTimely (w : World) (t : UInt64) : Prop := ∀ c ∈ w.calls, c.request.tenant = t → w.Timely c

variable {w u : World} {a : Action} {as : List Action} {c : Call} {r : Request} {m : Move} {stage : Stage} {t : UInt64}
  {n : Nat}

theorem Quiet.idle (h : Quiet t w as) : w.Idle t := by
  cases as with
  | nil => exact h
  | cons a as => exact h.1

theorem Turn.store (ht : w.Turn c m u stage) : u.store = w.store := by
  cases ht <;> rfl

theorem records_step (w : World) (h : a.changes t = false) : (w.step a).store.records t = w.store.records t := by
  cases a with
  | pass nanos => rfl
  | change c =>
    have hc : c.tenant ≠ t := by simpa [Action.changes] using h
    have hstore : (w.step (.change c)).store = w.store.change c := if_pos rfl
    rw [hstore, Store.records_change, if_neg hc]
  | invalidate k => rfl
  | invalidateAll => rfl
  | call r => rfl
  | move n m =>
    rw [step]
    rcases w.move_cases n m with hm | ⟨c, u, stage, -, ht, hm⟩
    · rw [hm]
    · rw [hm]
      exact congrArg (Store.records · t) ht.store

theorem Timely.step (h : w.Timely c) (a : Action)
    (hstill : c.stage.inFlight = true → a.changes c.request.tenant = false) : (w.step a).Timely c := by
  have hext := extends_step w a
  refine ⟨Nat.le_trans h.since hext.version, fun hc => ?_, fun v hv => ?_⟩
  · rw [records_step w (hstill hc), hext.held _ h.since]
    exact h.flight hc
  · obtain ⟨hle, hrecords⟩ := h.source v hv
    rw [hext.held _ hle, hext.held _ h.since]
    exact ⟨Nat.le_trans hle hext.version, hrecords⟩

theorem Turn.timely (ht : w.Turn c m u stage) (h : w.Timely c) : w.Timely { c with stage := stage } := by
  cases ht with
  | evict hs => exact ⟨h.since, fun _ => h.flight (by rw [hs]; rfl), fun v hv => by contradiction⟩
  | fetch hs =>
    refine ⟨h.since, fun _ => h.flight (by rw [hs]; rfl), fun v hv => ?_⟩
    obtain rfl : w.version = v := Option.some.inj hv
    exact ⟨Nat.le_refl _, h.flight (by rw [hs]; rfl)⟩
  | fail f hs => exact ⟨h.since, fun hc => by contradiction, fun v hv => by contradiction⟩
  | keep hs => exact ⟨h.since, fun hc => by contradiction, fun v hv => h.source v (by rw [hs]; exact hv)⟩
  | conclude took hs => exact ⟨h.since, fun hc => by contradiction, fun v hv => h.source v (by rw [hs]; exact hv)⟩

omit [ZoneDatabase] in
theorem entered_timely (h : w.Fresh r.tenant) : w.Timely ⟨r, w.version, w.entered r⟩ := by
  refine ⟨Nat.le_refl _, fun _ => rfl, fun v hv => ?_⟩
  obtain ⟨rfl, -, hentry⟩ := kept_of_entered_source hv
  exact h hentry

theorem Fresh.step (h : w.Fresh t) (hcalls : w.AllTimely t) (ha : a.changes t = false) : (w.step a).Fresh t := by
  intro he
  have hext := extends_step w a
  obtain ⟨e, he⟩ := Option.isSome_iff_exists.1 he
  rcases entry_step a he with ⟨he, hkept⟩ | ⟨c, hc, rfl, rs, hs, -⟩
  · obtain ⟨hle, hrecords⟩ := h (by rw [he]; rfl)
    rw [hkept, hext.held _ hle, records_step w ha]
    exact ⟨Nat.le_trans hle hext.version, hrecords⟩
  · have htimely := hcalls c hc rfl
    obtain ⟨hle, hrecords⟩ := htimely.source _ (by rw [hs]; rfl)
    rw [hext.held _ hle, records_step w ha, hrecords]
    exact ⟨Nat.le_trans hle hext.version, (htimely.flight (by rw [hs]; rfl)).symm⟩

theorem AllTimely.step (h : w.AllTimely t) (hidle : a.changes t = true → w.Idle t)
    (hfresh : a.evaluates t = true → w.Fresh t) : (w.step a).AllTimely t := by
  intro c hc hct
  obtain ⟨n, hn⟩ := List.getElem?_of_mem hc
  rcases calls_step a hn with hold | ⟨r, rfl, rfl⟩ | ⟨m, b, u, rfl, hb, ht, hr, hs⟩
  · have hold := List.mem_of_getElem? hold
    refine (h c hold hct).step a fun hflight => ?_
    cases ha : a.changes c.request.tenant with
    | false => rfl
    | true => exact absurd hflight (by simp [hidle (hct ▸ ha) c hold hct])
  · have hct : r.tenant = t := hct
    subst hct
    exact (entered_timely (hfresh (beq_self_eq_true _))).step _ fun _ => rfl
  · obtain ⟨request, since, stage⟩ := c
    have hr : request = b.request := hr
    have hs : since = b.since := hs
    subst hr hs
    exact (ht.timely (h b (List.mem_of_getElem? hb) hct)).step _ fun _ => rfl

theorem guarded_cons (ha : a.changes t = false) (h : Guarded t (w.step a) as) : Guarded t w (a :: as) :=
  ⟨fun hc => absurd hc (by simp [ha]), h⟩

theorem idle_of_change (ha : a.changes t = true) (h : (w.step a).Idle t) : w.Idle t := by
  cases a with
  | change c => exact h
  | _ => contradiction

theorem timely_run (hguarded : Guarded t w as) (hcalls : w.AllTimely t)
    (h : w.Fresh t ∨ ∃ between rest, as = between ++ .invalidate t :: rest ∧ Quiet t w between) :
    (w.run as).Fresh t ∧ (w.run as).AllTimely t := by
  -- the run is either coherent or on its way from a change to the invalidation that makes up for it
  induction as generalizing w with
  | nil =>
    refine ⟨h.resolve_right ?_, hcalls⟩
    rintro ⟨between, rest, has, -⟩
    simp at has
  | cons a as ih =>
    obtain ⟨hchange, hguarded⟩ := hguarded
    rcases h with hfresh | ⟨between, rest, has, hquiet⟩
    · have hstep := hcalls.step (a := a)
      cases ha : a.changes t with
      | false => exact ih hguarded (hstep (fun h => by simp [ha] at h) fun _ => hfresh) (.inl (hfresh.step hcalls ha))
      | true =>
        obtain ⟨between, rest, has, hquiet⟩ := hchange ha
        exact ih hguarded (hstep (fun _ => idle_of_change ha hquiet.idle) fun _ => hfresh)
          (.inr ⟨between, rest, has, hquiet⟩)
    · cases between with
      | nil =>
        obtain ⟨rfl, rfl⟩ := List.cons.inj has
        have hgone : (w.step (.invalidate t)).Fresh t := by
          intro he
          rw [World.step, cache_withCache, Cache.get?_invalidate, if_pos rfl] at he
          contradiction
        exact ih hguarded (hcalls.step (fun h => by contradiction) fun h => by contradiction) (.inl hgone)
      | cons b between =>
        obtain ⟨rfl, hrest⟩ := List.cons.inj has
        obtain ⟨hidle, hnone, hquiet⟩ := hquiet
        exact ih hguarded (hcalls.step (fun _ => hidle) fun h => by simp [hnone] at h)
          (.inr ⟨between, rest, hrest, hquiet⟩)

section Completion

def finish (n : Nat) (took : Span) : List Action :=
  [.move n .evict, .move n .fetch, .move n .keep, .move n (.conclude took)]

variable (took : Span)

theorem guarded_finish (t : UInt64) (w : World) (n : Nat) : Guarded t w (finish n took) :=
  guarded_cons rfl (guarded_cons rfl (guarded_cons rfl (guarded_cons rfl trivial)))

theorem conclude_of_loaded {v : Nat} {ps : List Policy} (hc : w.calls[n]? = some c) (hs : c.stage = .loaded v ps) :
    ∃ v d, (w.move n (.conclude took)).calls[n]? = some { c with stage := .concluded v d } :=
  ⟨v, _, getElem?_move hc (by simp only [advance, hs]; rfl)⟩

theorem conclude_of_answered {v : Nat} {rs : List PolicyRecord} (hc : w.calls[n]? = some c)
    (hs : c.stage = .answered v rs) :
    ∃ v d, ((w.move n .keep).move n (.conclude took)).calls[n]? = some { c with stage := .concluded v d } := by
  have hkept : (w.move n .keep).calls[n]? = some { c with stage := .loaded v (Compiled.ofRecords rs).policies } :=
    getElem?_move hc (by simp only [advance, hs]; rfl)
  exact (conclude_of_loaded took hkept rfl :)

theorem conclude_of_asking (hc : w.calls[n]? = some c) (hs : c.stage = .asking) :
    ∃ v d, (((w.move n .fetch).move n .keep).move n (.conclude took)).calls[n]? =
      some { c with stage := .concluded v d } := by
  have hfetched : (w.move n .fetch).calls[n]? =
      some { c with stage := .answered w.version (w.store.enabled c.request.tenant) } :=
    getElem?_move hc (by simp only [advance, hs]; rfl)
  exact (conclude_of_answered took hfetched rfl :)

theorem exists_concluded_of_finish (hc : w.calls[n]? = some c) (h : c.stage.hasFailed = false) :
    ∃ v d, (w.run (finish n took)).calls[n]? = some { c with stage := .concluded v d } := by
  have hrun : w.run (finish n took) = (((w.move n .evict).move n .fetch).move n .keep).move n (.conclude took) := rfl
  have hskip (m : Move) (ha : w.advance c m = none) : w.move n m = w := move_of_advance_none hc ha
  rw [hrun]
  cases hs : c.stage with
  | expired seen =>
    have hevicted : (w.move n .evict).calls[n]? = some { c with stage := .asking } :=
      getElem?_move hc (by simp only [advance, hs]; rfl)
    exact (conclude_of_asking took hevicted rfl :)
  | asking =>
    rw [hskip .evict (by simp [advance, hs])]
    exact conclude_of_asking took hc hs
  | answered v rs =>
    rw [hskip .evict (by simp [advance, hs]), hskip .fetch (by simp [advance, hs])]
    exact conclude_of_answered took hc hs
  | loaded v ps =>
    rw [hskip .evict (by simp [advance, hs]), hskip .fetch (by simp [advance, hs]),
      hskip .keep (by simp [advance, hs])]
    exact conclude_of_loaded took hc hs
  | concluded v d =>
    rw [hskip .evict (by simp [advance, hs]), hskip .fetch (by simp [advance, hs]),
      hskip .keep (by simp [advance, hs]), hskip (.conclude took) (by simp [advance, hs])]
    exact ⟨v, d, by rw [hc, ← hs]⟩
  | failed f => simp [hs, Stage.hasFailed] at h

omit [ZoneDatabase] in
theorem entered_not_failed (w : World) (r : Request) : (w.entered r).hasFailed = false := by
  unfold entered
  cases w.cache.lookup w.clock r.tenant with
  | some ps => rfl
  | none => cases w.cache.isEnabled && (w.cache.entries.get? r.tenant).isSome <;> rfl

theorem not_failed_run (has : ∀ n f, .move n (.fail f) ∉ as) (h : ∀ c ∈ w.calls, c.stage.hasFailed = false) :
    ∀ c ∈ (w.run as).calls, c.stage.hasFailed = false := by
  induction as generalizing w with
  | nil => exact h
  | cons a as ih =>
    refine ih (fun n f hmem => has n f (List.mem_cons_of_mem a hmem)) fun c hc => ?_
    obtain ⟨n, hn⟩ := List.getElem?_of_mem hc
    rcases calls_step a hn with hold | ⟨r, -, rfl⟩ | ⟨m, b, u, ha, -, ht, -⟩
    · exact h c (List.mem_of_getElem? hold)
    · exact entered_not_failed w r
    · cases hs : c.stage with
      | failed f =>
        rw [hs] at ht
        cases ht with
        | fail g => exact absurd (ha ▸ List.mem_cons_self) (has n g)
      | _ => rfl

end Completion

theorem Timely.decision (h : w.Timely c) (hf : w.Faithful) (hc : c ∈ w.calls) {v : Nat} {d : Decision}
    (hs : c.stage = .concluded v d) :
    d = Policy.decideInScope w.engine.mode ((w.held c.since).policies c.request.tenant) c.request := by
  have hsound := hf.calls c hc
  rw [hs] at hsound
  obtain ⟨-, hrecords⟩ := h.source v (by rw [hs]; rfl)
  rw [hsound.2, Store.policies_congr hrecords]

theorem uncached_result (s : EngineSettings) (audited : Bool) (now : Nat) (took : Span) (rs : List PolicyRecord)
    (r : Request) :
    ((Engine.ofSettings { s with cacheTtlMs := 0 } audited).evaluate now took (.records rs) r).1.result =
      .ok (Policy.decideInScope s.patternMode (Compiled.ofRecords rs).policies r) :=
  Engine.evaluate_result ..

/-- Where changes are guarded and the store always answers, every call of the tenant, left to finish, comes to what
an engine without a cache makes of the records that the store held at the look into the cache. -/
theorem evaluations_agree_with_uncached (s : EngineSettings) (audited : Bool) (store : Store) (t : UInt64)
    (as : List Action) (hstore : ∀ n f, .move n (.fail f) ∉ as)
    (hguarded : Guarded t (start s audited store) as) :
    let w := (start s audited store).run as
    ∀ n c, w.calls[n]? = some c → c.request.tenant = t →
      let uncached (now : Nat) (took : Span) :=
        ((Engine.ofSettings { s with cacheTtlMs := 0 } audited).evaluate now took
          (.records ((w.held c.since).enabled t)) c.request).1.result
      (∀ v d, c.stage = .concluded v d → ∀ now took, uncached now took = .ok d) ∧
      ∀ took, ∃ v d, (w.run (finish n took)).calls[n]? = some { c with stage := .concluded v d } ∧
        ∀ now took, uncached now took = .ok d := by
  intro w n c hc hct uncached
  have hmem : c ∈ w.calls := List.mem_of_getElem? hc
  obtain ⟨hfresh, htimely⟩ := timely_run hguarded (fun c hc => by contradiction) (.inl fun he => by contradiction)
  have hfaithful : w.Faithful := (start_faithful s audited store).run as
  have hmode : w.engine.mode = s.patternMode := (extends_run (start s audited store) as).mode
  have huncached now took : uncached now took =
      .ok (Policy.decideInScope s.patternMode ((w.held c.since).policies t) c.request) :=
    uncached_result s audited now took _ c.request
  refine ⟨fun v d hs now took => ?_, fun took => ?_⟩
  · rw [huncached, (htimely c hmem hct).decision hfaithful hmem hs, hmode, hct]
  · have hgood : c.stage.hasFailed = false := not_failed_run hstore (fun c hc => by contradiction) c hmem
    obtain ⟨v, d, hdone⟩ := exists_concluded_of_finish took hc hgood
    have hext := extends_run w (finish n took)
    have hdmem := List.mem_of_getElem? hdone
    have hdtimely := (timely_run (guarded_finish took t w n) htimely (.inl hfresh)).2 _ hdmem hct
    have hheld := hext.held _ (htimely c hmem hct).since
    refine ⟨v, d, hdone, fun now took' => ?_⟩
    rw [huncached, hdtimely.decision (hfaithful.run _) hdmem rfl, hext.mode, hmode, hheld, hct]

end Database

open ZoneTable in
theorem evaluations_agree_after_freeze :
    let staff : PolicyRecord := { PolicyRecord.blank with name := "staff", kind := "allow" }
    let freeze : PolicyRecord := { PolicyRecord.blank with name := "freeze", kind := "deny" }
    let as : List Action := [.call .blank, .move 0 .fetch, .move 0 .keep, .change (.insert freeze), .pass 7,
      .invalidate 0, .call .blank, .move 1 .fetch]
    let w := (start .standard false (.ofRecords [staff])).run as
    (∀ n f, .move n (.fail f) ∉ as) ∧ Guarded 0 (start .standard false (.ofRecords [staff])) as ∧
      (∃ v d, (w.run (finish 0 ⟨3⟩)).calls[0]? = some ⟨.blank, 0, .concluded v d⟩ ∧
        d.reason = "Allowed by policy: staff") ∧
      ∃ v, (w.run (finish 1 ⟨3⟩)).calls[1]? = some ⟨.blank, 1, .concluded v (.deniedBy "freeze")⟩ := by
  intro staff freeze as w
  have hstore : ∀ n f, .move n (.fail f) ∉ as := by simp [as]
  have hguarded : Guarded 0 (start .standard false (.ofRecords [staff])) as := by
    refine guarded_cons rfl (guarded_cons rfl (guarded_cons rfl ⟨fun _ => ?_, ?_⟩))
    · refine ⟨[.pass 7], [.call .blank, .move 1 .fetch], rfl, ?_, rfl, ?_⟩
      · intro c hc _
        rw [List.mem_singleton.1 hc]
        rfl
      · intro c hc _
        rw [List.mem_singleton.1 hc]
        rfl
    · exact guarded_cons rfl (guarded_cons rfl (guarded_cons rfl (guarded_cons rfl trivial)))
  have hagree := evaluations_agree_with_uncached .standard false (.ofRecords [staff]) 0 as hstore hguarded
  obtain ⟨v, d, hfirst, hd⟩ := (hagree 0 _ rfl rfl).2 ⟨3⟩
  obtain ⟨v', d', hsecond, hd'⟩ := (hagree 1 _ rfl rfl).2 ⟨3⟩
  have hstaff : d = Policy.decideInScope .stub (Compiled.ofRecords [staff]).policies .blank :=
    Except.ok.inj ((hd 0 ⟨0⟩).symm.trans (uncached_result .standard false 0 ⟨0⟩ [staff] .blank))
  have hfreeze : d' = Policy.decideInScope .stub (Compiled.ofRecords [staff, freeze]).policies .blank :=
    Except.ok.inj ((hd' 0 ⟨0⟩).symm.trans (uncached_result .standard false 0 ⟨0⟩ [staff, freeze] .blank))
  have hdenied : Policy.decideInScope .stub (Compiled.ofRecords [staff, freeze]).policies .blank =
      .deniedBy "freeze" := by
    rw [Compiled.policies_of_pairwise (by decide)]
    rfl
  have hallowed : d.reason = "Allowed by policy: staff" := by
    rw [hstaff, Compiled.policies_of_pairwise (by decide)]
    rfl
  rw [hfreeze, hdenied] at hsecond
  exact ⟨hstore, hguarded, ⟨v, d, hfirst, hallowed⟩, v', hsecond⟩

end World

end AccessPolicy
