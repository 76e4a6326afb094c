import AccessPolicy.Proofs.Engine.Evaluation
import AccessPolicy.Store

namespace AccessPolicy

def Store.policies [ZoneDatabase] (s : Store) (tenant : UInt64) : List Policy :=
  (Compiled.ofRecords (s.enabled tenant)).policies

inductive Stage where
  | expired (seen : Nat)
  | asking
  | answered (version : Nat) (rs : List PolicyRecord)
  | loaded (version : Nat) (ps : List Policy)
  | concluded (version : Nat) (d : Decision)
  | failed (f : Fault)

structure Call where
  request : Request
  since : Nat
  stage : Stage

structure World where
  engine : Engine
  clock : Nat
  version : Nat
  held : Nat → Store
  kept : UInt64 → Nat
  calls : List Call

inductive Move where
  | evict
  | fetch
  | fail (f : Option Fault)
  | keep
  | conclude (took : Span)

inductive Action where
  | pass (nanos : Nat)
  | change (c : Store.Change)
  | invalidate (tenant : UInt64)
  | invalidateAll
  | call (r : Request)
  | move (n : Nat) (m : Move)

namespace World

def start (s : EngineSettings) (audited : Bool) (store : Store) : World :=
  ⟨.ofSettings s audited, 0, 0, fun _ => store, fun _ => 0, []⟩

variable (w : World)

def cache : Cache (List Policy) := w.engine.cache

def store : Store := w.held w.version

def withCache (cache : Cache (List Policy)) : World := { w with engine := { w.engine with cache := cache } }

def change (c : Store.Change) : World :=
  { w with version := w.version + 1, held := fun v => if v = w.version + 1 then w.store.change c else w.held v }

def entered (r : Request) : Stage :=
  match w.cache.lookup w.clock r.tenant with
  | some ps => .loaded (w.kept r.tenant) ps
  | none => if w.cache.isEnabled && (w.cache.entries.get? r.tenant).isSome then .expired w.clock else .asking

def call (r : Request) : World where
  engine := { (w.engine.lookup w.clock r.tenant).2 with cache := w.cache }
  clock := w.clock
  version := w.version
  held := w.held
  kept := w.kept
  calls := w.calls ++ [⟨r, w.version, w.entered r⟩]

theorem cache_withCache (cache : Cache (List Policy)) : (w.withCache cache).cache = cache := rfl

variable [ZoneDatabase]

def keep (version : Nat) (t : UInt64) (rs : List PolicyRecord) : World :=
  { w with
    engine := (w.engine.absorb w.clock t (.records rs)).2
    kept := fun k => if t = k ∧ w.cache.ttl.isSome then version else w.kept k }

def advance (c : Call) : Move → Option (World × Stage)
  | .evict => match c.stage with
    | .expired seen => some (w.withCache (w.cache.evict seen c.request.tenant), .asking)
    | _ => none
  | .fetch => match c.stage with
    | .asking => some (w, .answered w.version (w.store.enabled c.request.tenant))
    | _ => none
  | .fail f => match c.stage with
    -- a fetch that fails without a fault took too long
    | .asking =>
      some ({ w with engine := (w.engine.absorb w.clock c.request.tenant (f.elim .silence .failure)).2 },
        .failed (f.getD (.storeTimeout w.engine.storeTimeout)))
    | _ => none
  | .keep => match c.stage with
    | .answered v rs => some (w.keep v c.request.tenant rs, .loaded v (Compiled.ofRecords rs).policies)
    | _ => none
  | .conclude took => match c.stage with
    | .loaded v ps =>
      some ({ w with engine := (w.engine.conclude took ps c.request).2 },
        .concluded v (w.engine.conclude took ps c.request).1)
    | _ => none

def move (n : Nat) (m : Move) : World :=
  match w.calls[n]? with
  | none => w
  | some c =>
    match w.advance c m with
    | none => w
    | some (u, stage) => { u with calls := w.calls.set n { c with stage := stage } }

def step (w : World) : Action → World
  | .pass nanos => { w with clock := w.clock + nanos }
  | .change c => w.change c
  | .invalidate t => w.withCache (w.cache.invalidate t)
  | .invalidateAll => w.withCache w.cache.invalidateAll
  | .call r => w.call r
  | .move n m => w.move n m

def run (w : World) (as : List Action) : World := as.foldl step w

theorem cache_fail (t : UInt64) (f : Option Fault) :
    ({ w with engine := (w.engine.absorb w.clock t (f.elim .silence .failure)).2 } : World).cache = w.cache :=
  Engine.absorb_cache_of_fault ..

theorem get?_keep (v : Nat) (t k : UInt64) (rs : List PolicyRecord) : (w.keep v t rs).cache.entries.get? k =
    if t = k ∧ w.cache.ttl.isSome then some ⟨w.clock, (Compiled.ofRecords rs).policies⟩
    else w.cache.entries.get? k := Cache.get?_insert ..

theorem kept_keep (v : Nat) (t k : UInt64) (rs : List PolicyRecord) : (w.keep v t rs).kept k =
    if t = k ∧ w.cache.ttl.isSome then v else w.kept k := rfl

inductive Turn (c : Call) : Move → World → Stage → Prop where
  | evict {seen : Nat} (h : c.stage = .expired seen) :
    Turn c .evict (w.withCache (w.cache.evict seen c.request.tenant)) .asking
  | fetch (h : c.stage = .asking) : Turn c .fetch w (.answered w.version (w.store.enabled c.request.tenant))
  | fail (f : Option Fault) (h : c.stage = .asking) :
    Turn c (.fail f) { w with engine := (w.engine.absorb w.clock c.request.tenant (f.elim .silence .failure)).2 }
      (.failed (f.getD (.storeTimeout w.engine.storeTimeout)))
  | keep {v : Nat} {rs : List PolicyRecord} (h : c.stage = .answered v rs) :
    Turn c .keep (w.keep v c.request.tenant rs) (.loaded v (Compiled.ofRecords rs).policies)
  | conclude {v : Nat} {ps : List Policy} (took : Span) (h : c.stage = .loaded v ps) :
    Turn c (.conclude took) { w with engine := (w.engine.conclude took ps c.request).2 }
      (.concluded v (w.engine.conclude took ps c.request).1)

theorem turn_of_advance {c : Call} {m : Move} {u : World} {stage : Stage} (h : w.advance c m = some (u, stage)) :
    w.Turn c m u stage := by
  cases m <;> cases hs : c.stage <;> simp only [advance, hs, reduceCtorEq, Option.some.injEq, Prod.mk.injEq] at h <;>
    obtain ⟨rfl, rfl⟩ := h
  · exact .evict hs
  · exact .fetch hs
  · exact .fail _ hs
  · exact .keep hs
  · exact .conclude _ hs

theorem move_of_advance {n : Nat} {m : Move} {c : Call} {u : World} {stage : Stage} (hc : w.calls[n]? = some c)
    (ha : w.advance c m = some (u, stage)) :
    w.move n m = { u with calls := w.calls.set n { c with stage := stage } } := by
  simp [move, hc, ha]

theorem move_cases (n : Nat) (m : Move) : w.move n m = w ∨ ∃ c u stage, w.calls[n]? = some c ∧
    w.Turn c m u stage ∧ w.move n m = { u with calls := w.calls.set n { c with stage := stage } } := by
  cases hc : w.calls[n]? with
  | none => exact .inl (by simp [move, hc])
  | some c =>
    cases ha : w.advance c m with
    | none => exact .inl (by simp [move, hc, ha])
    | some next => exact .inr ⟨c, next.1, next.2, rfl, w.turn_of_advance ha, w.move_of_advance hc ha⟩

variable {w}

theorem getElem?_move {n : Nat} {m : Move} {c : Call} {u : World} {stage : Stage} (hc : w.calls[n]? = some c)
    (ha : w.advance c m = some (u, stage)) : (w.move n m).calls[n]? = some { c with stage := stage } := by
  rw [w.move_of_advance hc ha]
  exact List.getElem?_set_self (List.getElem?_eq_some_iff.1 hc).1

theorem move_of_advance_none {n : Nat} {m : Move} {c : Call} (hc : w.calls[n]? = some c)
    (ha : w.advance c m = none) : w.move n m = w := by
  simp [move, hc, ha]

theorem Turn.entry {c : Call} {m : Move} {u : World} {stage : Stage} (ht : w.Turn c m u stage) {t : UInt64}
    {e : CacheEntry (List Policy)} (he : u.cache.entries.get? t = some e) :
    (w.cache.entries.get? t = some e ∧ u.kept t = w.kept t) ∨
      c.request.tenant = t ∧ ∃ rs, c.stage = .answered (u.kept t) rs ∧ e.value = (Compiled.ofRecords rs).policies := by
  cases ht with
  | evict h =>
    rw [cache_withCache, Cache.get?_evict] at he
    split at he
    · contradiction
    · exact .inl ⟨he, rfl⟩
  | fetch h => exact .inl ⟨he, rfl⟩
  | fail f h =>
    rw [cache_fail] at he
    exact .inl ⟨he, rfl⟩
  | @keep v rs h =>
    rw [get?_keep] at he
    rw [kept_keep]
    by_cases hk : c.request.tenant = t ∧ w.cache.ttl.isSome
    · rw [if_pos hk, Option.some.injEq] at he
      rw [if_pos hk]
      exact .inr ⟨hk.1, rs, h, by rw [← he]⟩
    · rw [if_neg hk] at he ⊢
      exact .inl ⟨he, rfl⟩
  | conclude took h => exact .inl ⟨he, rfl⟩

theorem entry_step (a : Action) {t : UInt64} {e : CacheEntry (List Policy)}
    (he : (w.step a).cache.entries.get? t = some e) :
    (w.cache.entries.get? t = some e ∧ (w.step a).kept t = w.kept t) ∨
      ∃ c ∈ w.calls, c.request.tenant = t ∧
        ∃ rs, c.stage = .answered ((w.step a).kept t) rs ∧ e.value = (Compiled.ofRecords rs).policies := by
  cases a with
  | pass nanos => exact .inl ⟨he, rfl⟩
  | change c => exact .inl ⟨he, rfl⟩
  | invalidate k =>
    rw [step, cache_withCache, Cache.get?_invalidate] at he
    split at he
    · contradiction
    · exact .inl ⟨he, rfl⟩
  | invalidateAll => contradiction
  | call r => exact .inl ⟨he, rfl⟩
  | move n m =>
    rw [step] at he ⊢
    rcases w.move_cases n m with hm | ⟨c, u, stage, hc, ht, hm⟩
    · rw [hm] at he ⊢
      exact .inl ⟨he, rfl⟩
    · rw [hm] at he ⊢
      rcases ht.entry he with hsame | hmade
      · exact .inl hsame
      · exact .inr ⟨c, List.mem_of_getElem? hc, hmade⟩

theorem calls_step (a : Action) {n : Nat} {c : Call} (hc : (w.step a).calls[n]? = some c) :
    w.calls[n]? = some c ∨ (∃ r, a = .call r ∧ c = ⟨r, w.version, w.entered r⟩) ∨
      ∃ m b u, a = .move n m ∧ w.calls[n]? = some b ∧ w.Turn b m u c.stage ∧
        c.request = b.request ∧ c.since = b.since := by
  cases a with
  | pass nanos => exact .inl hc
  | change d => exact .inl hc
  | invalidate k => exact .inl hc
  | invalidateAll => exact .inl hc
  | call r =>
    have hadd : (w.calls ++ [⟨r, w.version, w.entered r⟩])[n]? = some c := hc
    rw [List.getElem?_append] at hadd
    split at hadd
    · exact .inl hadd
    · exact .inr (.inl ⟨r, rfl, List.mem_singleton.1 (List.mem_of_getElem? hadd)⟩)
  | move k m =>
    rw [step] at hc
    rcases w.move_cases k m with hm | ⟨b, u, stage, hb, ht, hm⟩
    · rw [hm] at hc
      exact .inl hc
    · rw [hm] at hc
      have hset : (w.calls.set k { b with stage := stage })[n]? = some c := hc
      rw [List.getElem?_set] at hset
      split at hset
      · rename_i hkn
        split at hset
        · obtain rfl := Option.some.inj hset
          exact .inr (.inr ⟨m, b, u, hkn ▸ rfl, hkn ▸ hb, ht, rfl, rfl⟩)
        · contradiction
      · exact .inl hset

end World

end AccessPolicy
