import AccessPolicy.Proofs.Concurrency.World

namespace AccessPolicy.World

structure Extends (w u : World) : Prop where
  version : w.version ≤ u.version
  held : ∀ v, v ≤ w.version → u.held v = w.held v
  mode : u.engine.mode = w.engine.mode
  ttl : u.cache.ttl = w.cache.ttl

section Extending

variable {w u : World}

theorem Extends.refl (w : World) : Extends w w := ⟨Nat.le_refl _, fun _ _ => rfl, rfl, rfl⟩

theorem Extends.trans {x : World} (h : Extends w u) (h' : Extends u x) : Extends w x where
  version := Nat.le_trans h.version h'.version
  held v hv := (h'.held v (Nat.le_trans hv h.version)).trans (h.held v hv)
  mode := h'.mode.trans h.mode
  ttl := h'.ttl.trans h.ttl

theorem extends_change (w : World) (c : Store.Change) : Extends w (w.change c) where
  version := Nat.le_succ _
  held v hv := if_neg (by omega)
  mode := rfl
  ttl := rfl

theorem extends_call (w : World) (r : Request) : Extends w (w.call r) :=
  ⟨Nat.le_refl _, fun _ _ => rfl, w.engine.lookup_mode w.clock r.tenant, rfl⟩

end Extending

variable [ZoneDatabase]

def Sound (w : World) (r : Request) : Stage → Prop
  | .answered v rs => v ≤ w.version ∧ rs = (w.held v).enabled r.tenant
  | .loaded v ps => v ≤ w.version ∧ ps = (w.held v).policies r.tenant
  | .concluded v d => v ≤ w.version ∧ d = Policy.decideInScope w.engine.mode ((w.held v).policies r.tenant) r
  | _ => True

structure Faithful (w : World) : Prop where
  entry : ∀ t e, w.cache.entries.get? t = some e →
    w.kept t ≤ w.version ∧ e.value = (w.held (w.kept t)).policies t
  calls : ∀ c ∈ w.calls, w.Sound c.request c.stage

variable {w u : World} {c : Call} {r : Request} {m : Move} {stage : Stage}

theorem Turn.extends (h : w.Turn c m u stage) : Extends w u := by
  cases h with
  | evict hs => exact ⟨Nat.le_refl _, fun _ _ => rfl, rfl, Cache.evict_ttl ..⟩
  | fetch hs => exact .refl w
  | fail f hs =>
    refine ⟨Nat.le_refl _, fun _ _ => rfl, Engine.absorb_mode .., ?_⟩
    exact congrArg Cache.ttl (cache_fail ..)
  | keep hs => exact ⟨Nat.le_refl _, fun _ _ => rfl, Engine.absorb_mode .., Cache.insert_ttl ..⟩
  | conclude took hs => exact ⟨Nat.le_refl _, fun _ _ => rfl, rfl, rfl⟩

theorem extends_step (w : World) (a : Action) : Extends w (w.step a) := by
  cases a with
  | pass n => exact ⟨Nat.le_refl _, fun _ _ => rfl, rfl, rfl⟩
  | change c => exact extends_change w c
  | invalidate t => exact ⟨Nat.le_refl _, fun _ _ => rfl, rfl, rfl⟩
  | invalidateAll => exact ⟨Nat.le_refl _, fun _ _ => rfl, rfl, rfl⟩
  | call r => exact extends_call w r
  | move n m =>
    rw [step]
    rcases w.move_cases n m with h | ⟨c, u, stage, -, ht, h⟩
    · rw [h]
      exact .refl w
    · rw [h]
      exact ⟨ht.extends.version, ht.extends.held, ht.extends.mode, ht.extends.ttl⟩

theorem extends_run (w : World) (as : List Action) : Extends w (w.run as) := by
  induction as generalizing w with
  | nil => exact .refl w
  | cons a as ih => exact (extends_step w a).trans (ih (w.step a))

theorem Sound.mono (h : Extends w u) (hs : w.Sound r stage) : u.Sound r stage := by
  cases stage with
  | answered v rs => exact ⟨Nat.le_trans hs.1 h.version, by rw [h.held v hs.1]; exact hs.2⟩
  | loaded v ps => exact ⟨Nat.le_trans hs.1 h.version, by rw [h.held v hs.1]; exact hs.2⟩
  | concluded v d => exact ⟨Nat.le_trans hs.1 h.version, by rw [h.held v hs.1, h.mode]; exact hs.2⟩
  | expired seen => trivial
  | asking => trivial
  | failed f => trivial

theorem entered_sound (h : w.Faithful) (r : Request) : w.Sound r (w.entered r) := by
  unfold entered
  cases hl : w.cache.lookup w.clock r.tenant with
  | some ps =>
    obtain ⟨ttl, e, -, he, -, rfl⟩ := (Cache.lookup_eq_some_iff ..).1 hl
    exact h.entry r.tenant e he
  | none => cases w.cache.isEnabled && (w.cache.entries.get? r.tenant).isSome <;> trivial

theorem Turn.sound (ht : w.Turn c m u stage) (hs : w.Sound c.request c.stage) : w.Sound c.request stage := by
  cases ht with
  | evict h => trivial
  | fetch h => exact ⟨Nat.le_refl _, rfl⟩
  | fail f h => trivial
  | keep h =>
    rw [h] at hs
    exact ⟨hs.1, by rw [hs.2]; rfl⟩
  | conclude took h =>
    rw [h] at hs
    exact ⟨hs.1, by rw [hs.2]; rfl⟩

theorem start_faithful (s : EngineSettings) (audited : Bool) (store : Store) : (start s audited store).Faithful where
  entry t e he := by contradiction
  calls c hc := by contradiction

theorem Faithful.step (h : w.Faithful) (a : Action) : (w.step a).Faithful := by
  have hext := extends_step w a
  refine ⟨fun t e he => ?_, fun c hc => Sound.mono hext ?_⟩
  · rcases entry_step a he with ⟨he, hkept⟩ | ⟨c, hc, hct, rs, hs, hvalue⟩
    · obtain ⟨hversion, hvalue⟩ := h.entry t e he
      rw [hkept, hext.held _ hversion]
      exact ⟨Nat.le_trans hversion hext.version, hvalue⟩
    · have hsound := h.calls c hc
      rw [hs, Sound, hct] at hsound
      rw [hext.held _ hsound.1, hvalue, hsound.2]
      exact ⟨Nat.le_trans hsound.1 hext.version, rfl⟩
  · obtain ⟨n, hn⟩ := List.getElem?_of_mem hc
    rcases calls_step a hn with hold | ⟨r, -, rfl⟩ | ⟨_, b, u, -, hb, ht, hr, -⟩
    · exact h.calls c (List.mem_of_getElem? hold)
    · exact entered_sound h r
    · rw [hr]
      exact ht.sound (h.calls b (List.mem_of_getElem? hb))

theorem Faithful.run (h : w.Faithful) (as : List Action) : (w.run as).Faithful := by
  induction as generalizing w with
  | nil => exact h
  | cons a as ih => exact ih (h.step a)

end AccessPolicy.World
