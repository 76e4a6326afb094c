import AccessPolicy.Proofs.Concurrency.World

namespace AccessPolicy.World

def solo (n : Nat) (took : Span) : List Action :=
  [.move n .evict, .pass took.nanos, .move n .fetch, .move n .keep, .move n (.conclude took)]

variable [ZoneDatabase] {w u : World} {cs : List Call} {c : Call} {m : Move}

theorem move_last {x : World} {stage : Stage} (hcs : w.calls = cs ++ [c]) (ha : w.advance c m = some (x, stage)) :
    w.move cs.length m = { x with calls := cs ++ [{ c with stage := stage }] } := by
  have hc : w.calls[cs.length]? = some c := by
    rw [hcs]
    exact List.getElem?_concat_length
  rw [w.move_of_advance hc ha, hcs, List.set_append_right _ _ (Nat.le_refl _), Nat.sub_self, List.set_cons_zero]

theorem move_last_of_none (hcs : w.calls = cs ++ [c]) (ha : w.advance c m = none) : w.move cs.length m = w := by
  have hc : w.calls[cs.length]? = some c := by
    rw [hcs]
    exact List.getElem?_concat_length
  simp [move, hc, ha]

theorem look_of_hit {r : Request} {ps : List Policy} (h : w.cache.lookup w.clock r.tenant = some ps) :
    (w.call r).move w.calls.length .evict = { w with
      engine := (w.engine.lookup w.clock r.tenant).2
      calls := w.calls ++ [⟨r, w.version, .loaded (w.kept r.tenant) ps⟩] } := by
  have hcache : (w.engine.lookup w.clock r.tenant).2.cache = w.cache := by
    have hl : w.engine.cache.lookup w.clock r.tenant = some ps := h
    rw [Engine.lookup_cache, hl]
    rfl
  have hcalls : (w.call r).calls = w.calls ++ [⟨r, w.version, .loaded (w.kept r.tenant) ps⟩] := by
    rw [call, entered, h]
  rw [move_last_of_none hcalls rfl]
  rw [call, entered, h, ← hcache]

theorem look_of_miss {r : Request} (h : w.cache.lookup w.clock r.tenant = none) :
    (w.call r).move w.calls.length .evict = { w with
      engine := (w.engine.lookup w.clock r.tenant).2
      calls := w.calls ++ [⟨r, w.version, .asking⟩] } := by
  have hcache : (w.engine.lookup w.clock r.tenant).2.cache = w.cache.evict w.clock r.tenant := by
    have hl : w.engine.cache.lookup w.clock r.tenant = none := h
    rw [Engine.lookup_cache, hl]
    rfl
  cases hb : w.cache.isEnabled && (w.cache.entries.get? r.tenant).isSome with
  | true =>
    have hcalls : (w.call r).calls = w.calls ++ [⟨r, w.version, .expired w.clock⟩] := by
      rw [call, entered, h]
      simp [hb]
    rw [move_last hcalls rfl, withCache]
    have hevict : (w.call r).cache.evict w.clock r.tenant = w.cache.evict w.clock r.tenant := rfl
    rw [hevict, ← hcache]
    rfl
  | false =>
    have hcalls : (w.call r).calls = w.calls ++ [⟨r, w.version, .asking⟩] := by
      rw [call, entered, h]
      simp [hb]
    have hkeep : w.cache.evict w.clock r.tenant = w.cache := by
      rw [Bool.and_eq_false_iff, Cache.isEnabled, Option.isSome_eq_false_iff, Option.isSome_eq_false_iff,
        Option.isNone_iff_eq_none, Option.isNone_iff_eq_none] at hb
      unfold Cache.evict
      rcases hb with hb | hb <;> simp [hb]
    rw [move_last_of_none hcalls rfl, ← hcalls]
    rw [hkeep] at hcache
    rw [call, ← hcache]

theorem run_solo (w : World) (r : Request) (took : Span) :
    let evaluated := w.engine.evaluate w.clock took (.records (w.store.enabled r.tenant)) r
    let u := w.run (.call r :: solo w.calls.length took)
    u.engine = evaluated.2 ∧
      ∃ v d, evaluated.1.result = .ok d ∧ u.calls = w.calls ++ [⟨r, w.version, .concluded v d⟩] := by
  intro evaluated u
  let n := w.calls.length
  let looked := (w.engine.lookup w.clock r.tenant).2
  let standing (e : Engine) (stage : Stage) : World :=
    { w with engine := e, clock := w.clock + took.nanos, calls := w.calls ++ [⟨r, w.version, stage⟩] }
  have hu : u = (((((w.call r).move n .evict).step (.pass took.nanos)).move n .fetch).move n .keep).move n
    (.conclude took) := rfl
  cases h : w.cache.lookup w.clock r.tenant with
  | some ps =>
    let v := w.kept r.tenant
    let d := (looked.conclude took ps r).1
    have heval : evaluated = (⟨.ok d, false⟩, (looked.conclude took ps r).2) :=
      w.engine.evaluate_eq_of_hit w.clock took _ r h
    have hlook : ((w.call r).move n .evict).step (.pass took.nanos) = standing looked (.loaded v ps) := by
      rw [look_of_hit h]
      rfl
    -- after a hit there is nothing to fetch and nothing to keep
    have hfetch : (standing looked (.loaded v ps)).move n .fetch = standing looked (.loaded v ps) :=
      move_last_of_none rfl rfl
    have hkeep : (standing looked (.loaded v ps)).move n .keep = standing looked (.loaded v ps) :=
      move_last_of_none rfl rfl
    have hconclude : (standing looked (.loaded v ps)).move n (.conclude took) =
        standing (looked.conclude took ps r).2 (.concluded v d) := (move_last rfl rfl).trans rfl
    rw [hlook, hfetch, hkeep, hconclude] at hu
    rw [heval, hu]
    exact ⟨rfl, v, d, rfl, rfl⟩
  | none =>
    let v := w.version
    let rs := w.store.enabled r.tenant
    let ps := w.store.policies r.tenant
    let filled := (looked.absorb (w.clock + took.nanos) r.tenant (.records rs)).2
    let d := (filled.conclude took ps r).1
    have heval : evaluated = (⟨.ok d, true⟩, (filled.conclude took ps r).2) :=
      w.engine.evaluate_eq_of_miss w.clock took r h _
    have hlook : ((w.call r).move n .evict).step (.pass took.nanos) = standing looked .asking := by
      rw [look_of_miss h]
      rfl
    have hfetch : (standing looked .asking).move n .fetch =
        standing looked (.answered v rs) := (move_last rfl rfl).trans rfl
    let kept := (standing looked (.answered v rs)).keep v r.tenant rs
    have hkeep : (standing looked (.answered v rs)).move n .keep =
        { kept with calls := w.calls ++ [⟨r, v, .loaded v ps⟩] } := (move_last rfl rfl).trans rfl
    have hconclude : ({ kept with calls := w.calls ++ [⟨r, v, .loaded v ps⟩] } : World).move n (.conclude took) =
        { kept with engine := (filled.conclude took ps r).2, calls := w.calls ++ [⟨r, v, .concluded v d⟩] } :=
      (move_last rfl rfl).trans rfl
    rw [hlook, hfetch, hkeep, hconclude] at hu
    rw [heval, hu]
    exact ⟨rfl, v, d, rfl, rfl⟩

end AccessPolicy.World
